import HexeAiNode.FamilyMemory.Policy
import HexeAiNode.FamilyMemory.Storage

/-!
# Authorized retrieval

`retrieve` asks the policy first and opens the partitions of the allowed persons only when it allows.  The
records that pass the filter are collected by their id, sorted from the newest, and cut at the limit.

`collect_eq_ok_iff` is the closed form of the loop: it goes through when every partition can be read, and the
dictionary it leaves is made of the records of these partitions that pass.  `mem_of_retrieve` and
`retrieve_congr` are read off it.
-/

namespace HexeAiNode
namespace FamilyMemory

open Py

/-- The arguments of `retrieve`. -/
structure RetrievalRequest where
  authorization : Option FamilyAuthorizationContext
  visibility : MemoryVisibility
  subjectPersonIds : List String
  expectedCoreId : String
  expectedHouseholdId : String
  expectedRoomId : Option String := none
  now : Option Moment := none
  limit : ℤ := 20

namespace RetrievalRequest

/-- `now or datetime.now(timezone.utc)`. -/
def currentTime (q : RetrievalRequest) (clock : ℤ) : Moment := q.now.getD { microseconds := clock }

/-- The question to the policy. -/
def access (q : RetrievalRequest) (clock : ℤ) : AccessRequest where
  authorization := q.authorization
  action := .read
  visibility := q.visibility
  subjectPersonIds := q.subjectPersonIds
  expectedCoreId := q.expectedCoreId
  expectedHouseholdId := q.expectedHouseholdId
  expectedRoomId := q.expectedRoomId
  now := some (q.currentTime clock)

/-- The answer of the policy. -/
def decision (q : RetrievalRequest) (clock : ℤ) : FamilyMemoryPolicyDecision :=
  (q.access clock).evaluateFamilyMemoryAccess clock

/-- `bounded_limit`. -/
def boundedLimit (q : RetrievalRequest) : ℕ := (min (max q.limit 0) 100).toNat

/-- The partition of a person. -/
def partition (q : RetrievalRequest) (personId : String) : PartitionKey :=
  { coreId := q.expectedCoreId, householdId := q.expectedHouseholdId, personId := personId }

/-- `participant_ids`. -/
def participantIds (q : RetrievalRequest) : List String :=
  (q.authorization.map FamilyAuthorizationContext.participantIds).getD []

/-- The filter of `retrieve`, for the persons that the policy allows. -/
def passes (q : RetrievalRequest) (currentTime : Moment) (allowedSubjects : List String)
    (r : FamilyMemoryRecord) : Bool :=
  r.status == .active &&
    !(r.expiresAt.any fun e => e.microseconds ≤ currentTime.microseconds) &&
    r.visibility == q.visibility &&
    isSubset r.subjectPersonIds allowedSubjects &&
    (q.visibility != .explicit || isSubset q.participantIds r.audiencePersonIds)

end RetrievalRequest

/-- `sorted(records, key=lambda item: (item.updated_at, item.memory_id), reverse=True)`. -/
def newestFirst (records : List FamilyMemoryRecord) : List FamilyMemoryRecord :=
  records.insertionSort fun a b => b.updatedAt.microseconds < a.updatedAt.microseconds ∨
    b.updatedAt.microseconds = a.updatedAt.microseconds ∧ b.memoryId.toList ≤ a.memoryId.toList

namespace EncryptedFamilyMemoryStore

variable {s s' : EncryptedFamilyMemoryStore} {q : RetrievalRequest} {clock : ℤ}

/-- The loop of `retrieve` over the persons that are left. -/
def collect (s : EncryptedFamilyMemoryStore) (q : RetrievalRequest) (passes : FamilyMemoryRecord → Bool) :
    List String → OrderedDict String FamilyMemoryRecord → Except Exc (OrderedDict String FamilyMemoryRecord)
  | [], byId => .ok byId
  | personId :: personIds, byId => do
    let records ← s.loadPartition (q.partition personId)
    collect s q passes personIds
      (records.foldl (fun d r => if passes r = true then d.set r.memoryId r else d) byId)

/-- `retrieve`. -/
def retrieve (s : EncryptedFamilyMemoryStore) (q : RetrievalRequest) (clock : ℤ) :
    Except Exc (FamilyMemoryPolicyDecision × List FamilyMemoryRecord) :=
  let decision := q.decision clock
  if decision.allowed = false then .ok (decision, [])
  else if q.boundedLimit = 0 then .ok (decision, [])
  else do
    let passes := q.passes (q.currentTime clock) decision.allowedPersonIds
    let byId ← s.collect q passes decision.allowedPersonIds .empty
    pure (decision, (newestFirst byId.values).take q.boundedLimit)

/-! ## The loop -/

theorem foldl_passes (passes : FamilyMemoryRecord → Bool) (d : OrderedDict String FamilyMemoryRecord)
    (records : List FamilyMemoryRecord) :
    records.foldl (fun d r => if passes r = true then d.set r.memoryId r else d) d =
      addById d (records.filter passes) := by
  rw [addById, List.foldl_filter]

/-- The records of the persons' partitions that pass, in the order of the loop. -/
def candidates (s : EncryptedFamilyMemoryStore) (q : RetrievalRequest) (passes : FamilyMemoryRecord → Bool)
    (personIds : List String) : List FamilyMemoryRecord :=
  personIds.flatMap fun p => (s.recordsOf (q.partition p)).filter passes

theorem addById_candidates_cons (d : OrderedDict String FamilyMemoryRecord) (passes : FamilyMemoryRecord → Bool)
    (p : String) (personIds : List String) :
    addById d (s.candidates q passes (p :: personIds)) =
      addById (addById d ((s.recordsOf (q.partition p)).filter passes)) (s.candidates q passes personIds) := by
  unfold addById candidates
  rw [List.flatMap_cons, List.foldl_append]

/-- **The loop in closed form.** -/
theorem collect_eq_ok_iff {passes : FamilyMemoryRecord → Bool} {personIds : List String}
    {d d' : OrderedDict String FamilyMemoryRecord} :
    s.collect q passes personIds d = .ok d' ↔
      (∀ p ∈ personIds, s.loadPartition (q.partition p) = .ok (s.recordsOf (q.partition p))) ∧
        d' = addById d (s.candidates q passes personIds) := by
  induction personIds generalizing d with
  | nil =>
    simp only [collect, candidates, List.flatMap_nil, List.not_mem_nil, false_imp_iff, implies_true, true_and]
    exact ⟨fun h => (Except.ok.inj h).symm, fun h => by rw [h]; rfl⟩
  | cons p personIds ih =>
    rw [collect, bind_eq_ok, List.forall_mem_cons]
    constructor
    · rintro ⟨records, hload, h⟩
      obtain ⟨hrest, rfl⟩ := ih.mp h
      have hrecords := recordsOf_of_loadPartition hload
      refine ⟨⟨by rw [hrecords, hload], hrest⟩, ?_⟩
      rw [foldl_passes, addById_candidates_cons, hrecords]
    · rintro ⟨⟨hload, hrest⟩, rfl⟩
      refine ⟨_, hload, ih.mpr ⟨hrest, ?_⟩⟩
      rw [foldl_passes, addById_candidates_cons]

/-- The loop depends on what the partitions load and on which of the records pass. -/
theorem collect_congr {passes : FamilyMemoryRecord → Bool} {personIds : List String}
    (h : ∀ p ∈ personIds, (s.loadPartition (q.partition p)).map (List.filter passes) =
      (s'.loadPartition (q.partition p)).map (List.filter passes))
    (d : OrderedDict String FamilyMemoryRecord) :
    s.collect q passes personIds d = s'.collect q passes personIds d := by
  induction personIds generalizing d with
  | nil => rfl
  | cons p personIds ih =>
    have hp := h p List.mem_cons_self
    have ih := ih fun p' hp' => h p' (List.mem_cons_of_mem p hp')
    rw [collect, collect]
    rcases hload : s.loadPartition (q.partition p) with e | records <;>
      rcases hload' : s'.loadPartition (q.partition p) with e' | records' <;> rw [hload, hload'] at hp
    · obtain rfl := Except.error.inj hp
      rfl
    · exact nomatch hp
    · exact nomatch hp
    · have hfilter : records.filter passes = records'.filter passes := Except.ok.inj hp
      show s.collect q passes personIds _ = s'.collect q passes personIds _
      rw [foldl_passes, foldl_passes, hfilter]
      exact ih _

theorem mem_values_addById {records : List FamilyMemoryRecord} {r : FamilyMemoryRecord}
    (h : r ∈ (addById .empty records).values) : r ∈ records := by
  have hget := (ById.empty.addById records).mem_values_iff.mp h
  rw [get?_addById, OrderedDict.get?_empty, Option.or_none] at hget
  exact (copyLayout.latest_spec hget).1

theorem values_addById_ne_nil {records : List FamilyMemoryRecord} (h : records ≠ []) :
    (addById .empty records).values ≠ [] := by
  intro hnil
  obtain ⟨r, hr⟩ := List.exists_mem_of_ne_nil records h
  have hnone : (addById .empty records).get? r.memoryId = none := by
    rcases hget : (addById .empty records).get? r.memoryId with _ | r'
    · rfl
    · have hmem := OrderedDict.mem_values_of_get? hget
      rw [hnil] at hmem
      cases hmem
  rw [get?_addById, OrderedDict.get?_empty, Option.or_none] at hnone
  have hfind := List.find?_eq_none.mp hnone r (List.mem_reverse.mpr hr)
  simp [copyLayout] at hfind

/-! ## What is retrieved -/

theorem mem_newestFirst {records : List FamilyMemoryRecord} {r : FamilyMemoryRecord} :
    r ∈ newestFirst records ↔ r ∈ records := List.mem_insertionSort _

/-- **What `retrieve` returns**: nothing if the policy denies or the limit is not positive; else records of the
allowed persons' partitions that pass, at most as many as the limit. -/
theorem mem_of_retrieve {d : FamilyMemoryPolicyDecision} {records : List FamilyMemoryRecord}
    (h : s.retrieve q clock = .ok (d, records)) {r : FamilyMemoryRecord} (hr : r ∈ records) :
    (q.decision clock).allowed = true ∧ ∃ p ∈ normalizedSubjects q.subjectPersonIds,
      s.loadPartition (q.partition p) = .ok (s.recordsOf (q.partition p)) ∧
        r ∈ s.recordsOf (q.partition p) ∧
        q.passes (q.currentTime clock) (normalizedSubjects q.subjectPersonIds) r = true := by
  unfold retrieve at h
  dsimp only at h
  split at h
  · obtain ⟨-, rfl⟩ := Prod.mk.inj (Except.ok.inj h)
    cases hr
  · next hallowed =>
    have hallowed : (q.decision clock).allowed = true := by simpa using hallowed
    have hids : (q.decision clock).allowedPersonIds = normalizedSubjects q.subjectPersonIds :=
      AccessRequest.allowedPersonIds_of_allowed hallowed
    split at h
    · obtain ⟨-, rfl⟩ := Prod.mk.inj (Except.ok.inj h)
      cases hr
    · obtain ⟨byId, hcollect, h⟩ := bind_eq_ok.mp h
      obtain ⟨-, rfl⟩ := Prod.mk.inj (pure_eq_ok.mp h)
      obtain ⟨hloads, rfl⟩ := collect_eq_ok_iff.mp hcollect
      have hmem := mem_values_addById (mem_newestFirst.mp (List.mem_of_mem_take hr))
      obtain ⟨p, hp, hrp⟩ := List.mem_flatMap.mp hmem
      obtain ⟨hrecord, hpasses⟩ := List.mem_filter.mp hrp
      rw [hids] at hp hpasses
      exact ⟨hallowed, p, hp, hloads p (hids ▸ hp), hrecord, hpasses⟩

theorem length_of_retrieve {d : FamilyMemoryPolicyDecision} {records : List FamilyMemoryRecord}
    (h : s.retrieve q clock = .ok (d, records)) : records.length ≤ q.boundedLimit := by
  unfold retrieve at h
  dsimp only at h
  split at h
  · obtain ⟨-, rfl⟩ := Prod.mk.inj (Except.ok.inj h)
    exact Nat.zero_le _
  · split at h
    · obtain ⟨-, rfl⟩ := Prod.mk.inj (Except.ok.inj h)
      exact Nat.zero_le _
    · obtain ⟨byId, -, h⟩ := bind_eq_ok.mp h
      obtain ⟨-, rfl⟩ := Prod.mk.inj (pure_eq_ok.mp h)
      exact List.length_take_le _ _

/-- Something is returned when an allowed person's partition holds a record that passes. -/
theorem retrieve_ne_nil (h : ∀ k, s.loadPartition k = .ok (s.recordsOf k))
    (hallowed : (q.decision clock).allowed = true) (hlimit : 0 < q.limit) {p : String}
    (hp : p ∈ normalizedSubjects q.subjectPersonIds) {r : FamilyMemoryRecord}
    (hr : r ∈ s.recordsOf (q.partition p))
    (hpasses : q.passes (q.currentTime clock) (normalizedSubjects q.subjectPersonIds) r = true) :
    ∃ d records, s.retrieve q clock = .ok (d, records) ∧ records ≠ [] := by
  have hids : (q.decision clock).allowedPersonIds = normalizedSubjects q.subjectPersonIds :=
    AccessRequest.allowedPersonIds_of_allowed hallowed
  have hbound : q.boundedLimit ≠ 0 := by
    unfold RetrievalRequest.boundedLimit
    omega
  set passes := q.passes (q.currentTime clock) (q.decision clock).allowedPersonIds with hdef
  have hcollect : s.collect q passes (q.decision clock).allowedPersonIds .empty =
      .ok (addById .empty (s.candidates q passes (q.decision clock).allowedPersonIds)) :=
    collect_eq_ok_iff.mpr ⟨fun _ _ => h _, rfl⟩
  have hcandidates : s.candidates q passes (q.decision clock).allowedPersonIds ≠ [] := by
    refine List.ne_nil_of_mem (a := r) (List.mem_flatMap.mpr ⟨p, hids ▸ hp, ?_⟩)
    rw [List.mem_filter, hdef, hids]
    exact ⟨hr, hpasses⟩
  refine ⟨q.decision clock, (newestFirst (addById .empty
    (s.candidates q passes (q.decision clock).allowedPersonIds)).values).take q.boundedLimit, ?_, ?_⟩
  · unfold retrieve
    dsimp only
    rw [if_neg (by simp [hallowed]), if_neg hbound, ← hdef, hcollect]
    rfl
  · intro hnil
    rcases List.take_eq_nil_iff.mp hnil with hzero | hnil
    · exact hbound hzero
    · refine values_addById_ne_nil hcandidates (List.eq_nil_iff_forall_not_mem.mpr fun r' hr' => ?_)
      have hmem := mem_newestFirst.mpr hr'
      rw [hnil] at hmem
      cases hmem

/-- **The result depends on the records that pass**: two stores that differ in others give the same. -/
theorem retrieve_congr
    (h : (q.decision clock).allowed = true → ∀ p ∈ normalizedSubjects q.subjectPersonIds,
      (s.loadPartition (q.partition p)).map (List.filter
        (q.passes (q.currentTime clock) (normalizedSubjects q.subjectPersonIds))) =
      (s'.loadPartition (q.partition p)).map (List.filter
        (q.passes (q.currentTime clock) (normalizedSubjects q.subjectPersonIds)))) :
    s.retrieve q clock = s'.retrieve q clock := by
  unfold retrieve
  dsimp only
  by_cases hallowed : (q.decision clock).allowed = true
  · have hids : (q.decision clock).allowedPersonIds = normalizedSubjects q.subjectPersonIds :=
      AccessRequest.allowedPersonIds_of_allowed hallowed
    rw [hids, collect_congr (h hallowed)]
  · rw [if_pos (by simpa using hallowed), if_pos (by simpa using hallowed)]

end EncryptedFamilyMemoryStore

end FamilyMemory
end HexeAiNode
