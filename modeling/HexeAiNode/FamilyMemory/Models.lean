import HexeAiNode.Python.Value

/-!
# Family memory models

The pydantic models of a family memory record and of the authorization under which records are read, as far
as storage and retrieval look at them.

* `FamilyMemoryRecord` is a record that has passed its validators.  `validateFields` runs them on the fields
  of a document, and `validateFields_eq_ok_iff` says what it accepts: the fields with every identifier
  stripped and every list without repetitions, if they are `WellFormed`.  So a record that is dumped and
  validated again is the same record (`modelValidate_modelDump`).
* `FamilyAuthorizationContext` keeps what its validators promise as fields.

The times of a record and of an authorization are aware datetimes; they are kept as microseconds, the offset
plays no part in a comparison.
-/

namespace HexeAiNode
namespace FamilyMemory

open Py

/-! ## `dict.fromkeys` -/

/-- `list(dict.fromkeys(values))`: the values in the order of their first occurrence. -/
abbrev fromkeys (values : List String) : List String := values.eraseDups

theorem nodup_fromkeys (values : List String) : (fromkeys values).Nodup := by
  induction hn : values.length using Nat.strong_induction_on generalizing values with
  | _ n ih =>
    rcases values with _ | ⟨a, values⟩
    · exact List.nodup_nil
    · have hlt : (values.filter fun b => !(b == a)).length < n := by
        rw [← hn, List.length_cons]
        exact Nat.lt_succ_of_le (List.length_filter_le _ _)
      have htail := ih _ hlt _ rfl
      rw [fromkeys, List.eraseDups_cons, List.nodup_cons]
      refine ⟨fun hmem => ?_, htail⟩
      have hmem := List.mem_eraseDups.mp hmem
      simp at hmem

theorem fromkeys_of_nodup {values : List String} (h : values.Nodup) : fromkeys values = values := by
  induction values with
  | nil => rfl
  | cons a values ih =>
    obtain ⟨ha, hvalues⟩ := List.nodup_cons.mp h
    have hfilter : (values.filter fun b => !(b == a)) = values := by
      refine List.filter_eq_self.mpr fun b hb => ?_
      have hne : b ≠ a := fun hba => ha (hba ▸ hb)
      simpa using hne
    rw [fromkeys, List.eraseDups_cons, hfilter]
    exact congrArg (a :: ·) (ih hvalues)

/-! ## Enumerations -/

inductive IdentityState where
  | authenticated
  | verified
  | confirmed
  | probable
  | unknown
  | conflicted
  deriving DecidableEq, Repr

inductive PlatformRole where
  | owner
  | admin
  | member
  | guest
  deriving DecidableEq, Repr

/-- The actions; the constructors stand for `memory.read` and so on. -/
inductive MemoryAction where
  | read
  | write
  | delete
  | export
  deriving DecidableEq, Repr

inductive MemoryRisk where
  | general
  | personal
  | personalSensitive
  deriving DecidableEq, Repr

/-- The visibilities; `privateOnly` stands for `private`. -/
inductive MemoryVisibility where
  | privateOnly
  | explicit
  | household
  | room
  | guardianManaged
  deriving DecidableEq, Repr

inductive AuthorizationEffect where
  | allow
  | deny
  deriving DecidableEq, Repr

inductive MemoryLifecycleStatus where
  | active
  | expired
  | deleted
  deriving DecidableEq, Repr

/-! ## Times and identifiers -/

/-- A `datetime`: microseconds, and whether it has an offset from UTC.  The microseconds of an aware one are
those since 1970-01-01 UTC. -/
structure Moment where
  microseconds : ℤ
  aware : Bool := true
  deriving DecidableEq, Repr

/-- The first reason of a failed check. -/
def firstFailure (checks : List (Bool × String)) : Option String :=
  (checks.find? fun check => !check.1).map Prod.snd

theorem firstFailure_eq_none {checks : List (Bool × String)} :
    firstFailure checks = none ↔ ∀ check ∈ checks, check.1 = true := by
  simp [firstFailure]

/-- What `_require_identifier` returns: a stripped text, not blank, of at most 255 characters. -/
structure IsIdentifier (s : String) : Prop where
  stripped : strip s = s
  nonempty : s ≠ ""
  short : s.length ≤ 255

instance (s : String) : Decidable (IsIdentifier s) :=
  decidable_of_iff (strip s = s ∧ s ≠ "" ∧ s.length ≤ 255)
    ⟨fun h => ⟨h.1, h.2.1, h.2.2⟩, fun h => ⟨h.1, h.2, h.3⟩⟩

/-- The checks of `_require_identifier` on the stripped text. -/
def requireIdentifier (fieldName normalized : String) : List (Bool × String) :=
  [(normalized != "", fieldName ++ "_required"),
    (normalized.length ≤ 255, fieldName ++ "_too_long")]

theorem isIdentifier_iff {fieldName s : String} :
    IsIdentifier s ↔ strip s = s ∧ ∀ check ∈ requireIdentifier fieldName s, check.1 = true := by
  simp only [requireIdentifier, List.forall_mem_cons, List.not_mem_nil, false_imp_iff, implies_true,
    and_true, bne_iff_ne, decide_eq_true_eq]
  exact ⟨fun h => ⟨h.stripped, h.nonempty, h.short⟩, fun h => ⟨h.1, h.2.1, h.2.2⟩⟩

/-- The identifiers of a list, stripped and without repetitions. -/
def identifierList (values : List String) : List String := fromkeys (values.map strip)

theorem strip_of_mem_identifierList {values : List String} {s : String} (h : s ∈ identifierList values) :
    strip s = s := by
  obtain ⟨v, -, rfl⟩ := List.mem_map.mp (List.mem_eraseDups.mp h)
  exact strip_strip v

theorem identifierList_of_stripped {values : List String} (hnodup : values.Nodup)
    (hstrip : ∀ s ∈ values, strip s = s) : identifierList values = values := by
  have hmap : values.map strip = values := (List.map_congr_left hstrip).trans (List.map_id values)
  rw [identifierList, hmap, fromkeys_of_nodup hnodup]

@[simp] theorem identifierList_identifierList (values : List String) :
    identifierList (identifierList values) = identifierList values :=
  identifierList_of_stripped (nodup_fromkeys _) fun _ => strip_of_mem_identifierList

@[simp] theorem identifierList_eq_nil {values : List String} : identifierList values = [] ↔ values = [] := by
  rcases values with _ | ⟨a, values⟩
  · simp [identifierList]
  · simp [identifierList, List.eraseDups_cons]

/-! ## Records -/

/-- The fields of a record's document. -/
structure FamilyMemoryFields where
  schemaVersion : String := "1.0"
  memoryId : String
  coreId : String
  householdId : String
  subjectPersonIds : List String
  visibility : MemoryVisibility
  audiencePersonIds : List String := []
  summary : String
  sensitivity : MemoryRisk
  consentIds : List String
  sourceInteractionId : String
  sourceRoomId : Option String := none
  createdAt : Moment
  updatedAt : Moment
  expiresAt : Option Moment := none
  status : MemoryLifecycleStatus := .active
  deriving DecidableEq

namespace FamilyMemoryFields

/-- What the field validators return. -/
def normalized (f : FamilyMemoryFields) : FamilyMemoryFields :=
  { f with
    memoryId := strip f.memoryId
    coreId := strip f.coreId
    householdId := strip f.householdId
    subjectPersonIds := identifierList f.subjectPersonIds
    audiencePersonIds := identifierList f.audiencePersonIds
    consentIds := identifierList f.consentIds
    sourceInteractionId := strip f.sourceInteractionId
    sourceRoomId := f.sourceRoomId.map strip }

/-- The checks on normalized fields: those of the fields in their order, then the checks of
`_validate_scope_and_lifecycle`. -/
def checks (f : FamilyMemoryFields) : List (Bool × String) :=
  [(f.schemaVersion == "1.0", "Input should be '1.0'")] ++
    requireIdentifier "memory_id" f.memoryId ++
    requireIdentifier "core_id" f.coreId ++
    requireIdentifier "household_id" f.householdId ++
    [(!f.subjectPersonIds.isEmpty, "List should have at least 1 item after validation, not 0")] ++
    f.subjectPersonIds.flatMap (requireIdentifier "subject_person_ids") ++
    f.audiencePersonIds.flatMap (requireIdentifier "audience_person_ids") ++
    [(f.summary != "", "String should have at least 1 character"),
      (f.summary.length ≤ 4096, "String should have at most 4096 characters"),
      (!f.consentIds.isEmpty, "List should have at least 1 item after validation, not 0")] ++
    f.consentIds.flatMap (requireIdentifier "consent_ids") ++
    requireIdentifier "source_interaction_id" f.sourceInteractionId ++
    f.sourceRoomId.toList.flatMap (requireIdentifier "source_room_id") ++
    [(f.createdAt.aware, "created_at_timezone_required"),
      (f.updatedAt.aware, "updated_at_timezone_required"),
      (f.expiresAt.all Moment.aware, "expires_at_timezone_required"),
      (f.visibility != .privateOnly || (f.subjectPersonIds.length == 1 && f.audiencePersonIds.isEmpty),
        "private_memory_scope_invalid"),
      (f.visibility != .explicit || !f.audiencePersonIds.isEmpty, "explicit_memory_audience_required"),
      (f.createdAt.microseconds ≤ f.updatedAt.microseconds, "memory_updated_at_before_created_at"),
      (f.expiresAt.all fun e => f.createdAt.microseconds < e.microseconds, "memory_expiry_invalid")]

/-- The fields that the validators of `FamilyMemoryRecord` return. -/
def validateFields (f : FamilyMemoryFields) : Except Exc FamilyMemoryFields :=
  match firstFailure f.normalized.checks with
  | some reason => .error ⟨.validationError, reason⟩
  | none => .ok f.normalized

/-- What the validators promise of the fields they return. -/
structure WellFormed (f : FamilyMemoryFields) : Prop where
  normalized_eq : f.normalized = f
  checked : ∀ check ∈ f.checks, check.1 = true

instance (f : FamilyMemoryFields) : Decidable f.WellFormed :=
  decidable_of_iff (f.normalized = f ∧ ∀ check ∈ f.checks, check.1 = true)
    ⟨fun h => ⟨h.1, h.2⟩, fun h => ⟨h.1, h.2⟩⟩

@[simp] theorem normalized_normalized (f : FamilyMemoryFields) : f.normalized.normalized = f.normalized := by
  simp [normalized, Function.comp_def]

theorem validateFields_eq_ok_iff {f g : FamilyMemoryFields} :
    f.validateFields = .ok g ↔ g = f.normalized ∧ g.WellFormed := by
  unfold validateFields
  rcases h : firstFailure f.normalized.checks with _ | reason
  · have hchecked := firstFailure_eq_none.mp h
    constructor
    · intro hok
      obtain rfl := Except.ok.inj hok
      exact ⟨rfl, normalized_normalized f, hchecked⟩
    · rintro ⟨rfl, -⟩
      rfl
  · refine iff_of_false (fun hok => nomatch hok) ?_
    rintro ⟨rfl, hwf⟩
    rw [firstFailure_eq_none.mpr hwf.checked] at h
    cases h

namespace WellFormed

variable {f : FamilyMemoryFields}

theorem subjects_ne_nil (h : f.WellFormed) : f.subjectPersonIds ≠ [] := by
  have hmem : (!f.subjectPersonIds.isEmpty, "List should have at least 1 item after validation, not 0") ∈ f.checks := by
    simp [checks]
  simpa using h.checked _ hmem

theorem nodup_subjects (h : f.WellFormed) : f.subjectPersonIds.Nodup := by
  rw [← h.normalized_eq]
  exact nodup_fromkeys _

theorem subjects_of_private (h : f.WellFormed) (hv : f.visibility = .privateOnly) :
    ∃ p, f.subjectPersonIds = [p] := by
  have hmem : (f.visibility != .privateOnly || (f.subjectPersonIds.length == 1 && f.audiencePersonIds.isEmpty),
      "private_memory_scope_invalid") ∈ f.checks := by
    simp [checks]
  have hlength : f.subjectPersonIds.length = 1 ∧ f.audiencePersonIds = [] := by
    simpa [hv] using h.checked _ hmem
  exact List.length_eq_one_iff.mp hlength.1

end WellFormed

end FamilyMemoryFields

/-- A validated record. -/
structure FamilyMemoryRecord extends FamilyMemoryFields where
  wellFormed : toFamilyMemoryFields.WellFormed
  deriving DecidableEq

namespace FamilyMemoryRecord

/-- `model_dump`. -/
def modelDump (r : FamilyMemoryRecord) : FamilyMemoryFields := r.toFamilyMemoryFields

/-- `FamilyMemoryRecord.model_validate`. -/
def modelValidate (f : FamilyMemoryFields) : Except Exc FamilyMemoryRecord :=
  match h : f.validateFields with
  | .ok g => .ok ⟨g, (FamilyMemoryFields.validateFields_eq_ok_iff.mp h).2⟩
  | .error e => .error e

/-- **A record that is dumped and validated again is the same record.** -/
@[simp] theorem modelValidate_modelDump (r : FamilyMemoryRecord) : modelValidate r.modelDump = .ok r := by
  have hok : r.modelDump.validateFields = .ok r.toFamilyMemoryFields :=
    FamilyMemoryFields.validateFields_eq_ok_iff.mpr ⟨r.wellFormed.normalized_eq.symm, r.wellFormed⟩
  unfold modelValidate
  split
  · next g h =>
    obtain rfl := Except.ok.inj (hok.symm.trans h)
    rfl
  · next e h => exact nomatch hok.symm.trans h

end FamilyMemoryRecord

/-! ## Authorizations -/

/-- `FamilyParticipant`: a person is named exactly where the identity is not uncertain. -/
structure FamilyParticipant where
  personId : Option String
  identityState : IdentityState
  person_iff : personId.isSome ↔ identityState ≠ .unknown ∧ identityState ≠ .conflicted
  identifier : ∀ p ∈ personId, IsIdentifier p

/-- `FamilyOperation`. -/
structure FamilyOperation where
  kind : MemoryAction
  risk : MemoryRisk
  requestedVisibility : List MemoryVisibility
  requested_ne_nil : requestedVisibility ≠ []

/-- `FamilyAuthorizationDecision`. -/
structure FamilyAuthorizationDecision where
  effect : AuthorizationEffect
  allowedPersonIds : List String := []
  allowedVisibility : List MemoryVisibility := []
  allowedActions : List MemoryAction := []
  consentIds : List String := []
  identifiers : ∀ p ∈ allowedPersonIds ++ consentIds, IsIdentifier p

/-- `FamilyAuthorizationContext`, the fields that are read: `platformRole` is the requester's, `roomId` that
of the room context.  A lifetime has at most 120 seconds. -/
structure FamilyAuthorizationContext where
  authorizationId : String
  coreId : String
  householdId : String
  platformRole : PlatformRole
  participants : List FamilyParticipant := []
  roomId : Option String
  operation : FamilyOperation
  decision : FamilyAuthorizationDecision
  issuedAt : ℤ
  expiresAt : ℤ
  identifiers : IsIdentifier authorizationId ∧ IsIdentifier coreId ∧ IsIdentifier householdId
  room_identifier : ∀ r ∈ roomId, IsIdentifier r
  lifetime : issuedAt < expiresAt ∧ expiresAt - issuedAt ≤ 120000000

namespace FamilyAuthorizationContext

/-- The `person_id`s of the participants that have one. -/
def participantIds (ctx : FamilyAuthorizationContext) : List String :=
  ctx.participants.filterMap FamilyParticipant.personId

/-- The identity states of the participants. -/
def identityStates (ctx : FamilyAuthorizationContext) : List IdentityState :=
  ctx.participants.map FamilyParticipant.identityState

end FamilyAuthorizationContext

end FamilyMemory
end HexeAiNode
