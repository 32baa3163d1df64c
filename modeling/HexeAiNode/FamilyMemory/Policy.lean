import HexeAiNode.FamilyMemory.Models

/-!
# The family memory policy

`evaluate_family_memory_access` answers a request by the first of its guards that holds, and allows it when
none does.  The guards are kept as a list, in the order of the source; `granted_of_allowed` is what an answer
that allows says about the authorization.
-/

namespace HexeAiNode
namespace FamilyMemory

open Py

/-- `FamilyMemoryPolicyDecision`. -/
structure FamilyMemoryPolicyDecision where
  allowed : Bool
  reason : String
  authorizationId : Option String := none
  allowedPersonIds : List String := []
  allowedVisibility : List MemoryVisibility := []
  deriving DecidableEq

/-- `_deny`. -/
def deny (reason : String) (context : Option FamilyAuthorizationContext) : FamilyMemoryPolicyDecision :=
  { allowed := false, reason := reason, authorizationId := context.map fun ctx => ctx.authorizationId }

/-- The arguments of `evaluate_family_memory_access`. -/
structure AccessRequest where
  authorization : Option FamilyAuthorizationContext
  action : MemoryAction
  visibility : MemoryVisibility
  subjectPersonIds : List String
  expectedCoreId : String
  expectedHouseholdId : String
  expectedRoomId : Option String := none
  now : Option Moment := none

/-- `set(xs).issubset(set(ys))`. -/
def isSubset (xs ys : List String) : Bool := xs.all fun x => ys.contains x

@[simp] theorem isSubset_iff {xs ys : List String} : isSubset xs ys = true ↔ xs ⊆ ys := by
  simp [isSubset, List.subset_def]

/-- The reason of the first guard that holds. -/
def firstDenial (guards : List (Bool × String)) : Option String := (guards.find? Prod.fst).map Prod.snd

theorem firstDenial_eq_none {guards : List (Bool × String)} :
    firstDenial guards = none ↔ ∀ guard ∈ guards, guard.1 = false := by
  simp [firstDenial]

/-- `normalized_subjects`. -/
def normalizedSubjects (subjectPersonIds : List String) : List String :=
  fromkeys ((subjectPersonIds.map strip).filter fun p => p != "")

theorem mem_normalizedSubjects {subjectPersonIds : List String} {p : String} :
    p ∈ normalizedSubjects subjectPersonIds ↔ p ≠ "" ∧ ∃ q ∈ subjectPersonIds, strip q = p := by
  simp [normalizedSubjects, and_comm]

/-- The visibilities that need a certain identity. -/
def MemoryVisibility.needsIdentity (visibility : MemoryVisibility) : Bool :=
  visibility ∈ [.privateOnly, .explicit, .guardianManaged]

namespace AccessRequest

/-- The guards of `evaluate_family_memory_access`, for an authorization and the time of the request. -/
def guards (a : AccessRequest) (ctx : FamilyAuthorizationContext) (currentTime : Moment) : List (Bool × String) :=
  let subjects := normalizedSubjects a.subjectPersonIds
  let participants := fromkeys ctx.participantIds
  let states := ctx.identityStates
  [(!currentTime.aware, "authorization_expired"),
    (currentTime.microseconds < ctx.issuedAt || ctx.expiresAt ≤ currentTime.microseconds, "authorization_expired"),
    (ctx.coreId != a.expectedCoreId, "wrong_core"),
    (ctx.householdId != a.expectedHouseholdId, "wrong_household"),
    (a.expectedRoomId.isSome && ctx.roomId != a.expectedRoomId, "wrong_room"),
    (a.visibility == .room && ctx.roomId.isNone, "wrong_room"),
    (ctx.decision.effect != .allow, "operation_denied"),
    (ctx.operation.kind != a.action || !ctx.decision.allowedActions.contains a.action, "operation_denied"),
    (!ctx.operation.requestedVisibility.contains a.visibility, "visibility_denied"),
    (!ctx.decision.allowedVisibility.contains a.visibility, "visibility_denied"),
    (subjects.isEmpty, "identity_required"),
    (!isSubset subjects ctx.decision.allowedPersonIds, "visibility_denied"),
    (ctx.decision.consentIds.isEmpty, "consent_required"),
    ((states.contains .unknown || states.contains .conflicted) && a.visibility.needsIdentity,
      "identity_uncertain"),
    (states.contains .probable &&
      (a.visibility.needsIdentity || ctx.operation.risk == .personalSensitive), "identity_uncertain"),
    (ctx.platformRole == .guest && (a.action != .read ||
      a.visibility == .privateOnly || a.visibility == .guardianManaged), "operation_denied"),
    (a.visibility == .privateOnly && subjects.length != 1, "visibility_denied"),
    (a.visibility == .privateOnly &&
      (participants.length != 1 || !(isSubset participants subjects && isSubset subjects participants)),
      "visibility_denied"),
    (1 < participants.length && !isSubset participants ctx.decision.allowedPersonIds, "visibility_denied")]

/-- `now or datetime.now(timezone.utc)`. -/
def currentTime (a : AccessRequest) (clock : ℤ) : Moment := a.now.getD { microseconds := clock }

/-- `evaluate_family_memory_access`. -/
def evaluateFamilyMemoryAccess (a : AccessRequest) (clock : ℤ) : FamilyMemoryPolicyDecision :=
  match a.authorization with
  | none => deny "identity_required" none
  | some ctx =>
    match firstDenial (a.guards ctx (a.currentTime clock)) with
    | some reason => deny reason (some ctx)
    | none =>
      { allowed := true
        reason := "family_memory_allowed"
        authorizationId := some ctx.authorizationId
        allowedPersonIds := normalizedSubjects a.subjectPersonIds
        allowedVisibility := [a.visibility] }

variable {a : AccessRequest} {clock : ℤ} {ctx : FamilyAuthorizationContext}

theorem allowed_iff : (a.evaluateFamilyMemoryAccess clock).allowed = true ↔
    ∃ ctx, a.authorization = some ctx ∧ ∀ guard ∈ a.guards ctx (a.currentTime clock), guard.1 = false := by
  unfold evaluateFamilyMemoryAccess
  rcases a.authorization with _ | ctx
  · simp [deny]
  · dsimp only
    rcases h : firstDenial (a.guards ctx (a.currentTime clock)) with _ | reason
    · exact iff_of_true rfl ⟨ctx, rfl, firstDenial_eq_none.mp h⟩
    · refine iff_of_false (by simp [deny]) ?_
      rintro ⟨ctx', hctx, hguards⟩
      obtain rfl := Option.some.inj hctx
      rw [firstDenial_eq_none.mpr hguards] at h
      cases h

theorem allowedPersonIds_of_allowed (h : (a.evaluateFamilyMemoryAccess clock).allowed = true) :
    (a.evaluateFamilyMemoryAccess clock).allowedPersonIds = normalizedSubjects a.subjectPersonIds := by
  obtain ⟨ctx, hctx, hguards⟩ := allowed_iff.mp h
  unfold evaluateFamilyMemoryAccess
  rw [hctx]
  dsimp only
  rw [firstDenial_eq_none.mpr hguards]

/-- What a request that is allowed has, as far as it decides which records may be read. -/
structure Granted (a : AccessRequest) (ctx : FamilyAuthorizationContext) : Prop where
  core : ctx.coreId = a.expectedCoreId
  household : ctx.householdId = a.expectedHouseholdId
  room : a.visibility = .room → ∃ roomId, ctx.roomId = some roomId
  subjects_ne_nil : normalizedSubjects a.subjectPersonIds ≠ []
  subjects_subset : normalizedSubjects a.subjectPersonIds ⊆ ctx.decision.allowedPersonIds
  identified : a.visibility.needsIdentity = true → ∀ participant ∈ ctx.participants,
    participant.identityState ≠ .unknown ∧ participant.identityState ≠ .conflicted
  alone : a.visibility = .privateOnly → ∃ p, normalizedSubjects a.subjectPersonIds = [p] ∧
    ∀ q, q ∈ ctx.participantIds ↔ q = p

theorem granted_of_guards {currentTime : Moment} (h : ∀ guard ∈ a.guards ctx currentTime, guard.1 = false) :
    a.Granted ctx := by
  simp only [guards, List.forall_mem_cons, List.not_mem_nil, false_imp_iff, implies_true, and_true] at h
  obtain ⟨-, -, hcore, hhousehold, -, hroom, -, -, -, -, hne, hsubset, -, huncertain, -, -, hone, halone, -⟩ := h
  refine ⟨by simpa using hcore, by simpa using hhousehold, fun hv => ?_, by simpa using hne,
    by simpa using hsubset, fun hv => ?_, fun hv => ?_⟩
  · have hsome : ctx.roomId.isNone = false := by simpa [hv] using hroom
    exact Option.isSome_iff_exists.mp (by simpa using hsome)
  · have hstates : IdentityState.unknown ∉ ctx.identityStates ∧ IdentityState.conflicted ∉ ctx.identityStates := by
      simpa [hv] using huncertain
    intro participant hparticipant
    have hmem : participant.identityState ∈ ctx.identityStates := List.mem_map_of_mem hparticipant
    exact ⟨fun hstate => hstates.1 (hstate ▸ hmem), fun hstate => hstates.2 (hstate ▸ hmem)⟩
  · have hlength : (normalizedSubjects a.subjectPersonIds).length = 1 := by simpa [hv] using hone
    obtain ⟨p, hp⟩ := List.length_eq_one_iff.mp hlength
    have hset : (fromkeys ctx.participantIds).length = 1 ∧ (fromkeys ctx.participantIds ⊆ [p] ∧
        [p] ⊆ fromkeys ctx.participantIds) := by
      simpa [hv, hp] using halone
    refine ⟨p, hp, fun q => ⟨fun hq => ?_, ?_⟩⟩
    · exact List.mem_singleton.mp (hset.2.1 (List.mem_eraseDups.mpr hq))
    · rintro rfl
      exact List.mem_eraseDups.mp (hset.2.2 (List.mem_singleton.mpr rfl))

theorem granted_of_allowed (h : (a.evaluateFamilyMemoryAccess clock).allowed = true) :
    ∃ ctx, a.authorization = some ctx ∧ a.Granted ctx := by
  obtain ⟨ctx, hctx, hguards⟩ := allowed_iff.mp h
  exact ⟨ctx, hctx, granted_of_guards hguards⟩

end AccessRequest

end FamilyMemory
end HexeAiNode
