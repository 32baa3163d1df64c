import HexeAiNode.FamilyMemory.Retrieval

/-!
# What retrieval releases

`RetrievalRequest.Releasable` says when a record may be handed out for a request: the lifecycle, the scope and
the persons, and for each visibility what the authorization must say about the people in the room.
`Confined` is the whole of it for one request: only such records, no more than the limit, and a result that
depends on nothing else in the store.

Two things are not looked at.  No record is compared with the room of the authorization, and the audience of an
explicit record is compared with the participants there are, which may be none.  A request that reaches either
is `Exposed`, and `retrieval_confined_iff` says that these are the requests for which retrieval is not confined.
-/

namespace HexeAiNode
namespace FamilyMemory

open Py

namespace RetrievalRequest

/-- A record may be handed out for the request, under the authorization, at the time. -/
structure Releasable (q : RetrievalRequest) (ctx : FamilyAuthorizationContext) (currentTime : Moment)
    (r : FamilyMemoryRecord) : Prop where
  active : r.status = .active
  unexpired : ∀ e ∈ r.expiresAt, currentTime.microseconds < e.microseconds
  visibility : r.visibility = q.visibility
  scope : r.coreId = q.expectedCoreId ∧ r.householdId = q.expectedHouseholdId
  subjects : ∀ p ∈ r.subjectPersonIds,
    (∃ p' ∈ q.subjectPersonIds, strip p' = p) ∧ p ∈ ctx.decision.allowedPersonIds
  privately : r.visibility = .privateOnly → ∃ p, r.subjectPersonIds = [p] ∧
    (∀ p', p' ∈ ctx.participantIds ↔ p' = p) ∧
    ∀ participant ∈ ctx.participants, participant.identityState ≠ .unknown ∧ participant.identityState ≠ .conflicted
  explicitly : r.visibility = .explicit → ctx.participants ≠ [] ∧
    ∀ participant ∈ ctx.participants, ∃ p, participant.personId = some p ∧ p ∈ r.audiencePersonIds
  room : r.visibility = .room → ∃ roomId, ctx.roomId = some roomId ∧ r.sourceRoomId = some roomId

/-- A record may be handed out for the request. -/
def Releases (q : RetrievalRequest) (clock : ℤ) (r : FamilyMemoryRecord) : Prop :=
  ∃ ctx, q.authorization = some ctx ∧ q.Releasable ctx (q.currentTime clock) r

open Classical in
/-- The partitions load the same records as far as `P` holds of them, or fail alike. -/
def AgreeOn (P : FamilyMemoryRecord → Prop) (s s' : EncryptedFamilyMemoryStore) : Prop :=
  ∀ k, (s.loadPartition k).map (List.filter fun r => P r) = (s'.loadPartition k).map (List.filter fun r => P r)

/-- Retrieval is confined to the authorization of a request. -/
structure Confined (q : RetrievalRequest) (clock : ℤ) : Prop where
  released : ∀ (s : EncryptedFamilyMemoryStore) d records, s.retrieve q clock = .ok (d, records) →
    ∀ r ∈ records, q.Releases clock r
  bounded : ∀ (s : EncryptedFamilyMemoryStore) d records, s.retrieve q clock = .ok (d, records) →
    records.length ≤ (min q.limit 100).toNat
  sameResult : ∀ s s' : EncryptedFamilyMemoryStore, AgreeOn (q.Releases clock) s s' →
    s.retrieve q clock = s'.retrieve q clock

/-- No guard of the policy holds, and the request asks for the records of a room, or for explicit ones without
a participant. -/
structure Exposed (q : RetrievalRequest) (clock : ℤ) : Prop where
  unopposed : ∃ ctx, q.authorization = some ctx ∧
    ∀ guard ∈ (q.access clock).guards ctx (q.currentTime clock), guard.1 = false
  limit : 0 < q.limit
  unguarded : q.visibility = .room ∨
    q.visibility = .explicit ∧ ∀ ctx ∈ q.authorization, ctx.participants = []

variable {q : RetrievalRequest} {clock : ℤ} {s s' : EncryptedFamilyMemoryStore} {k : PartitionKey}
  {r : FamilyMemoryRecord} {ctx : FamilyAuthorizationContext}

theorem passes_iff {currentTime : Moment} {subjects : List String} :
    q.passes currentTime subjects r = true ↔
      r.status = .active ∧ (∀ e ∈ r.expiresAt, currentTime.microseconds < e.microseconds) ∧
        r.visibility = q.visibility ∧ r.subjectPersonIds ⊆ subjects ∧
        (q.visibility = .explicit → q.participantIds ⊆ r.audiencePersonIds) := by
  unfold passes
  rw [Bool.and_eq_true, Bool.and_eq_true, Bool.and_eq_true, Bool.and_eq_true, isSubset_iff, Bool.or_eq_true,
    isSubset_iff]
  have hexpiry : (!(r.expiresAt.any fun e => e.microseconds ≤ currentTime.microseconds)) = true ↔
      ∀ e ∈ r.expiresAt, currentTime.microseconds < e.microseconds := by
    rcases r.expiresAt with _ | e <;> simp
  have hexplicit : (q.visibility != .explicit) = true ∨ q.participantIds ⊆ r.audiencePersonIds ↔
      (q.visibility = .explicit → q.participantIds ⊆ r.audiencePersonIds) := by
    rw [bne_iff_ne, imp_iff_not_or]
  rw [hexpiry, hexplicit, beq_iff_eq, beq_iff_eq]
  simp only [and_assoc]

/-- The participants of an explicit request are identified. -/
theorem personId_of_needsIdentity (h : (q.access clock).Granted ctx) (hv : q.visibility.needsIdentity = true)
    {participant : FamilyParticipant} (hp : participant ∈ ctx.participants) :
    ∃ p, participant.personId = some p ∧ p ∈ ctx.participantIds := by
  obtain ⟨p, hsome⟩ := Option.isSome_iff_exists.mp (participant.person_iff.mpr (h.identified hv participant hp))
  exact ⟨p, hsome, List.mem_filterMap.mpr ⟨participant, hp, hsome⟩⟩

/-- **What passes may be handed out**, unless the request is exposed. -/
theorem releasable_of_passes (hctx : q.authorization = some ctx) (hgranted : (q.access clock).Granted ctx)
    (hguarded : ¬(q.visibility = .room ∨ q.visibility = .explicit ∧ ∀ ctx ∈ q.authorization, ctx.participants = []))
    (hscope : r.coreId = q.expectedCoreId ∧ r.householdId = q.expectedHouseholdId)
    (hpasses : q.passes (q.currentTime clock) (normalizedSubjects q.subjectPersonIds) r = true) :
    q.Releasable ctx (q.currentTime clock) r := by
  obtain ⟨hactive, hexpiry, hvisibility, hsubjects, hexplicit⟩ := passes_iff.mp hpasses
  have hids : q.participantIds = ctx.participantIds := by
    rw [participantIds, hctx]
    rfl
  refine ⟨hactive, hexpiry, hvisibility, hscope, fun p hp => ?_, fun hv => ?_, fun hv => ?_, fun hv => ?_⟩
  · exact ⟨(mem_normalizedSubjects.mp (hsubjects hp)).2, hgranted.subjects_subset (hsubjects hp)⟩
  · rw [hvisibility] at hv
    obtain ⟨p, hone, halone⟩ := hgranted.alone hv
    obtain ⟨p', hp'⟩ := r.wellFormed.subjects_of_private (hvisibility.trans hv)
    have hmem := hsubjects (hp' ▸ List.mem_singleton.mpr rfl)
    have hone' : normalizedSubjects q.subjectPersonIds = [p] := hone
    rw [hone', List.mem_singleton] at hmem
    refine ⟨p, hmem ▸ hp', halone, hgranted.identified ?_⟩
    show q.visibility.needsIdentity = true
    rw [hv]
    rfl
  · rw [hvisibility] at hv
    have hneeds : q.visibility.needsIdentity = true := by
      rw [hv]
      rfl
    refine ⟨fun hnil => hguarded (Or.inr ⟨hv, fun ctx' hctx' => ?_⟩), fun participant hp => ?_⟩
    · obtain rfl := Option.some.inj (hctx.symm.trans hctx')
      exact hnil
    · obtain ⟨p, hsome, hmem⟩ := personId_of_needsIdentity hgranted hneeds hp
      exact ⟨p, hsome, hexplicit hv (hids ▸ hmem)⟩
  · exact absurd (Or.inl (hvisibility.symm.trans hv)) hguarded

/-- What may be handed out passes. -/
theorem passes_of_releasable (hctx : q.authorization = some ctx)
    (h : q.Releasable ctx (q.currentTime clock) r) :
    q.passes (q.currentTime clock) (normalizedSubjects q.subjectPersonIds) r = true := by
  have hids : q.participantIds = ctx.participantIds := by
    rw [participantIds, hctx]
    rfl
  refine passes_iff.mpr ⟨h.active, h.unexpired, h.visibility, fun p hp => ?_, fun hv p hp => ?_⟩
  · refine mem_normalizedSubjects.mpr ⟨?_, (h.subjects p hp).1⟩
    exact (ctx.decision.identifiers p (List.mem_append_left _ (h.subjects p hp).2)).nonempty
  · rw [hids] at hp
    obtain ⟨participant, hparticipant, hsome⟩ := List.mem_filterMap.mp hp
    obtain ⟨p', hp', haudience⟩ := (h.explicitly (h.visibility.trans hv)).2 participant hparticipant
    rwa [Option.some.inj (hsome.symm.trans hp')]

/-- On the partitions of the request's scope, passing is being releasable. -/
theorem map_filter_passes (hgranted : ∃ ctx, q.authorization = some ctx ∧ (q.access clock).Granted ctx)
    (hguarded : ¬(q.visibility = .room ∨ q.visibility = .explicit ∧ ∀ ctx ∈ q.authorization, ctx.participants = []))
    {p : String} (P : FamilyMemoryRecord → Bool) (hP : ∀ r, P r = true ↔ q.Releases clock r) :
    (s.loadPartition (q.partition p)).map (List.filter
        (q.passes (q.currentTime clock) (normalizedSubjects q.subjectPersonIds))) =
      (s.loadPartition (q.partition p)).map (List.filter P) := by
  obtain ⟨ctx, hctx, hgranted⟩ := hgranted
  rcases hload : s.loadPartition (q.partition p) with e | records
  · rfl
  · refine congrArg Except.ok (List.filter_congr fun r hr => ?_)
    obtain ⟨hcore, hhousehold, -⟩ :=
      FamilyMemoryRecord.inScope_iff.mp (EncryptedFamilyMemoryStore.inScope_of_loadPartition hload hr)
    rw [Bool.eq_iff_iff, hP]
    constructor
    · intro hpasses
      exact ⟨ctx, hctx, releasable_of_passes hctx hgranted hguarded ⟨hcore, hhousehold⟩ hpasses⟩
    · rintro ⟨ctx', hctx', hreleasable⟩
      exact passes_of_releasable hctx' hreleasable

theorem boundedLimit_eq (q : RetrievalRequest) : q.boundedLimit = (min q.limit 100).toNat := by
  unfold boundedLimit
  omega

theorem retrieve_of_limit_nonpos (h : q.limit ≤ 0) (s : EncryptedFamilyMemoryStore) :
    s.retrieve q clock = .ok (q.decision clock, []) := by
  have hzero : q.boundedLimit = 0 := by
    rw [boundedLimit_eq]
    omega
  unfold EncryptedFamilyMemoryStore.retrieve
  dsimp only
  rw [if_pos hzero, ite_self]

theorem retrieve_of_denied (h : (q.decision clock).allowed = false) (s : EncryptedFamilyMemoryStore) :
    s.retrieve q clock = .ok (q.decision clock, []) := by
  unfold EncryptedFamilyMemoryStore.retrieve
  dsimp only
  rw [if_pos h]

/-- Retrieval is confined when the request is not exposed. -/
theorem confined_of_not_exposed (h : ¬q.Exposed clock) : q.Confined clock := by
  refine ⟨fun s d records hretrieve r hr => ?_, fun s d records hretrieve => ?_, fun s s' hagree => ?_⟩
  · obtain ⟨hallowed, p, -, hload, hrecord, hpasses⟩ := EncryptedFamilyMemoryStore.mem_of_retrieve hretrieve hr
    have hlimit : 0 < q.limit := by
      have hlength := EncryptedFamilyMemoryStore.length_of_retrieve hretrieve
      have hpos := List.length_pos_of_mem hr
      rw [boundedLimit_eq] at hlength
      omega
    obtain ⟨ctx, hctx, hgranted⟩ := AccessRequest.granted_of_allowed hallowed
    obtain ⟨hcore, hhousehold, -⟩ :=
      FamilyMemoryRecord.inScope_iff.mp (EncryptedFamilyMemoryStore.inScope_of_loadPartition hload hrecord)
    exact ⟨ctx, hctx, releasable_of_passes hctx hgranted (fun hun => h ⟨AccessRequest.allowed_iff.mp hallowed, hlimit, hun⟩)
      ⟨hcore, hhousehold⟩ hpasses⟩
  · rw [← boundedLimit_eq]
    exact EncryptedFamilyMemoryStore.length_of_retrieve hretrieve
  · rcases le_or_gt q.limit 0 with hlimit | hlimit
    · rw [retrieve_of_limit_nonpos hlimit, retrieve_of_limit_nonpos hlimit]
    · refine EncryptedFamilyMemoryStore.retrieve_congr fun hallowed p _ => ?_
      have hgranted := AccessRequest.granted_of_allowed hallowed
      have hguarded := fun hun => h ⟨AccessRequest.allowed_iff.mp hallowed, hlimit, hun⟩
      classical
      rw [map_filter_passes hgranted hguarded (fun r => decide (q.Releases clock r)) fun r => decide_eq_true_iff,
        map_filter_passes hgranted hguarded (fun r => decide (q.Releases clock r)) fun r => decide_eq_true_iff]
      convert hagree (q.partition p)

/-! ## The exposed requests -/

/-- A record about one person that names no room. -/
def roomlessFields (coreId householdId personId : String) (visibility : MemoryVisibility) : FamilyMemoryFields where
  memoryId := "memory_1"
  coreId := coreId
  householdId := householdId
  subjectPersonIds := [personId]
  visibility := visibility
  audiencePersonIds := [personId]
  summary := "Likes concise morning briefings."
  sensitivity := .general
  consentIds := ["consent_1"]
  sourceInteractionId := "interaction_1"
  createdAt := { microseconds := 0 }
  updatedAt := { microseconds := 0 }

theorem wellFormed_roomlessFields {coreId householdId personId : String} (hcore : IsIdentifier coreId)
    (hhousehold : IsIdentifier householdId) (hperson : IsIdentifier personId) {visibility : MemoryVisibility}
    (hv : visibility ≠ .privateOnly) :
    (roomlessFields coreId householdId personId visibility).WellFormed := by
  have hlists : ∀ {p}, strip p = p → identifierList [p] = [p] := by
    intro p hp
    exact identifierList_of_stripped (List.nodup_singleton p) fun s hs => by rwa [List.mem_singleton.mp hs]
  have hmemory : strip "memory_1" = "memory_1" := by decide
  have hconsent : strip "consent_1" = "consent_1" := by decide
  have hinteraction : strip "interaction_1" = "interaction_1" := by decide
  constructor
  · simp only [FamilyMemoryFields.normalized, roomlessFields, hcore.stripped, hhousehold.stripped, hmemory,
      hlists hperson.stripped, hlists hconsent, hinteraction, Option.map_none]
  · have hsummary : "Likes concise morning briefings.".length ≤ 4096 := by decide
    have hmemory : "memory_1".length ≤ 255 := by decide
    have hconsent : "consent_1".length ≤ 255 := by decide
    have hinteraction : "interaction_1".length ≤ 255 := by decide
    simp [FamilyMemoryFields.checks, roomlessFields, requireIdentifier, hcore.nonempty, hcore.short,
      hhousehold.nonempty, hhousehold.short, hperson.nonempty, hperson.short, hv, hsummary, hmemory, hconsent,
      hinteraction]

/-- An exposed request gets a record that may not be handed out, from some store. -/
theorem not_confined_of_exposed (h : q.Exposed clock) : ¬q.Confined clock := by
  intro hconfined
  obtain ⟨hunopposed, hlimit, hunguarded⟩ := h
  have hallowed : (q.decision clock).allowed = true := AccessRequest.allowed_iff.mpr hunopposed
  obtain ⟨ctx, hctx, hgranted⟩ := AccessRequest.granted_of_allowed hallowed
  have hctx : q.authorization = some ctx := hctx
  obtain ⟨p, hp⟩ := List.exists_mem_of_ne_nil _ hgranted.subjects_ne_nil
  have hperson : IsIdentifier p := ctx.decision.identifiers p (List.mem_append_left _ (hgranted.subjects_subset hp))
  have hv : q.visibility ≠ .privateOnly := by
    rcases hunguarded with hroom | ⟨hexplicit, -⟩
    · rw [hroom]
      decide
    · rw [hexplicit]
      decide
  -- the only record of a store: about a person of the request, from no room
  let r : FamilyMemoryRecord := ⟨roomlessFields ctx.coreId ctx.householdId p q.visibility,
    wellFormed_roomlessFields ctx.identifiers.2.1 ctx.identifiers.2.2 hperson hv⟩
  have htidy := (EncryptedFamilyMemoryStore.tidy_empty.upsert r).2.1
  have hscope : r.inScope (q.partition p) = true :=
    FamilyMemoryRecord.inScope_iff.mpr ⟨hgranted.core, hgranted.household, List.mem_singleton.mpr rfl⟩
  have hids : q.participantIds = ctx.participantIds := by
    rw [participantIds, hctx]
    rfl
  have hpasses : q.passes (q.currentTime clock) (normalizedSubjects q.subjectPersonIds) r = true := by
    refine passes_iff.mpr ⟨rfl, fun e he => (nomatch he), rfl, ?_, fun hexplicit => ?_⟩
    · exact List.cons_subset.mpr ⟨hp, List.nil_subset _⟩
    · rcases hunguarded with hroom | ⟨-, hnone⟩
      · exact absurd (hroom.symm.trans hexplicit) (by decide)
      · rw [hids, FamilyAuthorizationContext.participantIds, hnone ctx hctx]
        exact List.nil_subset _
  obtain ⟨d, records, hretrieve, hne⟩ := EncryptedFamilyMemoryStore.retrieve_ne_nil htidy.loads hallowed hlimit hp
    (EncryptedFamilyMemoryStore.mem_recordsOf_afterUpsert_empty.mpr ⟨rfl, hscope⟩) hpasses
  obtain ⟨r', hr'⟩ := List.exists_mem_of_ne_nil records hne
  obtain ⟨-, p', -, -, hrecord, -⟩ := EncryptedFamilyMemoryStore.mem_of_retrieve hretrieve hr'
  obtain ⟨hr, -⟩ := EncryptedFamilyMemoryStore.mem_recordsOf_afterUpsert_empty.mp hrecord
  obtain ⟨ctx', hctx', hreleasable⟩ := hconfined.released _ d records hretrieve r (hr ▸ hr')
  rcases hunguarded with hroom | ⟨hexplicit, hnone⟩
  · obtain ⟨roomId, -, hsource⟩ := hreleasable.room hroom
    exact nomatch hsource
  · exact (hreleasable.explicitly hexplicit).1 (hnone ctx' hctx')

/-- **Retrieval is confined exactly for the requests that are not exposed.** -/
theorem retrieval_confined_iff (q : RetrievalRequest) (clock : ℤ) : q.Confined clock ↔ ¬q.Exposed clock :=
  ⟨fun hconfined hexposed => not_confined_of_exposed hexposed hconfined, confined_of_not_exposed⟩

theorem sample_identifiers : IsIdentifier "authz_1" ∧ IsIdentifier "core_1" ∧ IsIdentifier "household_1" := by
  decide

theorem sample_lifetime : (0 : ℤ) < 60000000 ∧ (60000000 : ℤ) - 0 ≤ 120000000 := by decide

/-- An authorization to read the records of one person with a visibility, in a room. -/
def sampleAuthorization (visibility : MemoryVisibility) : FamilyAuthorizationContext where
  authorizationId := "authz_1"
  coreId := "core_1"
  householdId := "household_1"
  platformRole := .member
  participants := []
  roomId := some "room_1"
  operation :=
    { kind := .read, risk := .personal, requestedVisibility := [visibility], requested_ne_nil := List.cons_ne_nil _ _ }
  decision :=
    { effect := .allow
      allowedPersonIds := ["person_1"]
      allowedVisibility := [visibility]
      allowedActions := [.read]
      consentIds := ["consent_1"]
      identifiers := by decide }
  issuedAt := 0
  expiresAt := 60000000
  identifiers := sample_identifiers
  room_identifier := fun r hr => by obtain rfl := Option.some.inj hr; decide
  lifetime := sample_lifetime

/-- A request under such an authorization. -/
def sampleRequest (visibility : MemoryVisibility) : RetrievalRequest where
  authorization := some (sampleAuthorization visibility)
  visibility := visibility
  subjectPersonIds := ["person_1"]
  expectedCoreId := "core_1"
  expectedHouseholdId := "household_1"
  expectedRoomId := some "room_1"

theorem sampleRequest_exposed {visibility : MemoryVisibility}
    (hv : visibility = .room ∨ visibility = .explicit) : (sampleRequest visibility).Exposed 5000000 := by
  refine ⟨⟨_, rfl, ?_⟩, (by decide : (0 : ℤ) < 20), ?_⟩
  · rcases hv with rfl | rfl <;> decide
  · rcases hv with rfl | rfl
    · exact Or.inl rfl
    · refine Or.inr ⟨rfl, fun ctx hctx => ?_⟩
      obtain rfl := Option.some.inj hctx
      rfl

/-- **Retrieval is not confined** for a request for the records of a room, nor for one for explicit records when
the authorization lists nobody. -/
theorem not_confined_sampleRequest :
    ¬(sampleRequest .room).Confined 5000000 ∧ ¬(sampleRequest .explicit).Confined 5000000 :=
  ⟨not_confined_of_exposed (sampleRequest_exposed (Or.inl rfl)),
    not_confined_of_exposed (sampleRequest_exposed (Or.inr rfl))⟩

end RetrievalRequest

end FamilyMemory
end HexeAiNode
