import HexeAiNode.Python.Coercion

/-!
# The governance check of an execution

`evaluateExecutionGovernance` decides whether a call may run under the node's governance bundle and
the constraints its own request carries.  Both are JSON dictionaries, and nothing guarantees that a
limit in them is well formed, so the check lives in `Except Exc`: reading a limit can raise.

## Which limits are in force

The function never compares the bundle's limits with the request's.  It first decides, for each of
three groups, whose values to read (`routingPolicy`, `approvedProviders`, `approvedModels`), and
then checks only those; the task families are always the bundle's.  `limitsInForce` names that
choice.

## What a rejection means

`rejects_iff` characterizes a rejection: the call breaks a limit in force, and no limit read earlier
raises.  With it the effect of a request's constraints is a comparison of two `Limits`
(`narrows_iff`).  A request that states nothing leaves the bundle's limits in force
(`limitsInForce_of_statesNothing`); one that states a routing policy of its own takes the bundle's
timeout, size and conflict out of the check, whatever they were (`keeps_of_statesRouting`).
-/

namespace HexeAiNode
namespace Governance

open Py

/-! ## The source functions -/

/-- `_task_family_allowed`. -/
def taskFamilyAllowed (taskFamily : String) (allowedFamilies : List String) : Bool :=
  let family := stripLower taskFamily
  if family = "" then false
  else if allowedFamilies = [] then true
  else allowedFamilies.any fun item =>
    let item := stripLower item
    if item = "" then false
    else if startsWith item "task." then family == item
    else family == item || family == "task." ++ item || startsWith family ("task." ++ item ++ ".")

/-- `ExecutionGovernanceDecision`. -/
structure ExecutionGovernanceDecision where
  allowed : Bool
  reason : String
  mode : String := "reject"
  deriving DecidableEq, Repr

/-- What is being executed: the arguments of `evaluate_execution_governance` other than the bundle
and the request's constraints. -/
structure GovernedCall where
  taskFamily : String
  timeoutS : Int
  inputs : Value
  providerId : Option String := none
  modelId : Option String := none

/-- The routing policy that is read: the request's when it has one, else the bundle's. -/
def routingPolicy (bundle request : Dict) : Dict :=
  match request.get "routing_policy_constraints" with
  | .dict routing => routing
  | _ => (bundle.get "routing_policy_constraints").asDict

/-- The provider allowlist that is read: the request's when it is truthy, else the bundle's. -/
def approvedProviders (bundle request : Dict) : List String :=
  ((request.get "approved_providers").orElse (bundle.get "approved_providers")).normalizeStringList

/-- The model allowlists that are read: the request's unless it is `None`, then the bundle's. -/
def approvedModels (bundle request : Dict) : Dict :=
  if (request.get "approved_models").isNull then (bundle.get "approved_models").asDict
  else (request.get "approved_models").asDict

/-- The task families the bundle allows. -/
def allowedTaskFamilies (bundle : Dict) : List String :=
  ((bundle.get "generic_node_class_rules").asDict.get "allow_task_families").normalizeStringList

/-- The model allowlist of one provider: under its lower-case name, then under the name as given. -/
def allowedModelsOf (models : Dict) (providerId : String) : List String :=
  let lowered := (models.get (stripLower providerId)).normalizeStringList
  if lowered = [] then (models.get (strip providerId)).normalizeStringList else lowered

/-- A timeout above the routing policy's `max_timeout_s`. -/
def timeoutExceeded (routing : Dict) (timeoutS : Int) : Except Exc Bool :=
  let raw := routing.get "max_timeout_s"
  if raw.isNull then .ok false
  else do
    let limit ← raw.toInt
    return timeoutS > max limit 1

/-- The size of the inputs as sorted JSON. -/
def inputBytes (inputs : Value) : Nat := utf8Len (dumps { sortKeys := true } (.dict inputs.asDict))

/-- Inputs larger than the routing policy's `max_input_bytes`. -/
def inputsTooLarge (routing : Dict) (inputs : Value) : Except Exc Bool :=
  let raw := routing.get "max_input_bytes"
  if raw.isNull then .ok false
  else do
    let limit ← raw.toInt
    return (inputBytes inputs : Int) > max limit 0

/-- A provider outside a non-empty allowlist. -/
def providerRefused (approved : List String) (providerId : Option String) : Bool :=
  match providerId with
  | none => false
  | some p => approved != [] && !(approved.map lower).contains (stripLower p)

/-- A model outside its provider's non-empty allowlist. -/
def modelRefused (models : Dict) (providerId modelId : Option String) : Bool :=
  match providerId, modelId with
  | some p, some m =>
    let allowed := allowedModelsOf models p
    allowed != [] && !(allowed.map lower).contains (stripLower m)
  | _, _ => false

/-- A refusal with its reason. -/
def refuse (reason : String) : ExecutionGovernanceDecision := { allowed := false, reason }

/-- `evaluate_execution_governance`. -/
def evaluateExecutionGovernance (governanceBundle requestGovernanceConstraints : Value)
    (call : GovernedCall) : Except Exc ExecutionGovernanceDecision := do
  let bundle := governanceBundle.asDict
  let request := requestGovernanceConstraints.asDict
  let routing := routingPolicy bundle request
  if (routing.get "routing_policy_conflict").isTrue then
    return refuse "prompt_routing_policy_conflict"
  if !taskFamilyAllowed call.taskFamily (allowedTaskFamilies bundle) then
    return refuse "governance_violation_task_family"
  if ← timeoutExceeded routing call.timeoutS then
    return refuse "governance_violation_timeout"
  if ← inputsTooLarge routing call.inputs then
    return refuse "governance_violation_input_size"
  if providerRefused (approvedProviders bundle request) call.providerId then
    return refuse "governance_violation_provider"
  if modelRefused (approvedModels bundle request) call.providerId call.modelId then
    return refuse "governance_violation_model"
  return { allowed := true, reason := "governance_allowed" }

/-- A call whose constraints carry a routing conflict is not allowed. -/
theorem not_allowed_of_conflict {bundle : Value} {request routing : Dict} {call : GovernedCall}
    {decision : ExecutionGovernanceDecision}
    (hrouting : request.get "routing_policy_constraints" = .dict routing)
    (hconflict : routing.get "routing_policy_conflict" = .bool true)
    (h : evaluateExecutionGovernance bundle (.dict request) call = .ok decision) :
    decision.allowed = false := by
  unfold evaluateExecutionGovernance at h
  have htrue : ((routingPolicy bundle.asDict request).get "routing_policy_conflict").isTrue = true := by
    rw [routingPolicy, hrouting]
    dsimp only
    rw [hconflict]
    rfl
  dsimp only [Value.asDict_dict] at h
  rw [if_pos htrue] at h
  obtain rfl := pure_eq_ok.mp h
  rfl

/-! ## Limits -/

/-- The limits a call is held to. -/
structure Limits where
  families : List String
  routing : Dict
  providers : List String
  models : Dict

/-- The limits that are read under a bundle and a request's constraints. -/
def limitsInForce (bundle request : Value) : Limits where
  families := allowedTaskFamilies bundle.asDict
  routing := routingPolicy bundle.asDict request.asDict
  providers := approvedProviders bundle.asDict request.asDict
  models := approvedModels bundle.asDict request.asDict

/-- The limits of the bundle on its own. -/
def bundleLimits (bundle : Value) : Limits := limitsInForce bundle .null

namespace Limits

variable (L : Limits) (call : GovernedCall)

/-- The routing policy records a conflict. -/
def Conflict : Prop := (L.routing.get "routing_policy_conflict").isTrue = true

/-- The call's task family is not allowed. -/
def BreaksFamily : Prop := taskFamilyAllowed call.taskFamily L.families = false

/-- The call's timeout is above the limit. -/
def BreaksTimeout : Prop := timeoutExceeded L.routing call.timeoutS = .ok true

/-- The call's inputs are above the limit. -/
def BreaksInputBytes : Prop := inputsTooLarge L.routing call.inputs = .ok true

/-- The timeout limit is absent or kept. -/
def KeepsTimeout : Prop := timeoutExceeded L.routing call.timeoutS = .ok false

/-- The size limit is absent or kept. -/
def KeepsInputBytes : Prop := inputsTooLarge L.routing call.inputs = .ok false

/-- The call's provider is outside the allowlist. -/
def BreaksProvider : Prop := providerRefused L.providers call.providerId = true

/-- The call's model is outside its provider's allowlist. -/
def BreaksModel : Prop := modelRefused L.models call.providerId call.modelId = true

/-- The call breaks a limit, and the limits read before that one are well formed. -/
def Breaks : Prop :=
  L.Conflict ∨ L.BreaksFamily call ∨ L.BreaksTimeout call ∨
    (L.KeepsTimeout call ∧ (L.BreaksInputBytes call ∨
      (L.KeepsInputBytes call ∧ (L.BreaksProvider call ∨ L.BreaksModel call))))

end Limits

/-! ## Rejections -/

/-- The check returned a refusal. -/
def Rejects (r : Except Exc ExecutionGovernanceDecision) : Prop :=
  ∃ d, r = .ok d ∧ d.allowed = false

@[simp] theorem rejects_ok {d : ExecutionGovernanceDecision} :
    Rejects (.ok d) ↔ d.allowed = false := by
  constructor
  · rintro ⟨d', h, hd⟩
    cases h
    exact hd
  · exact fun h => ⟨d, rfl, h⟩

@[simp] theorem not_rejects_error {e : Exc} : ¬ Rejects (.error e) := by
  rintro ⟨d, h, -⟩
  cases h

@[simp] theorem refuse_allowed (reason : String) : (refuse reason).allowed = false := rfl

/-- What remains once the inputs are within their limit. -/
theorem rejects_tail_iff (L : Limits) (call : GovernedCall) :
    Rejects (if providerRefused L.providers call.providerId then
        .ok (refuse "governance_violation_provider")
      else if modelRefused L.models call.providerId call.modelId then
        .ok (refuse "governance_violation_model")
      else .ok { allowed := true, reason := "governance_allowed" }) ↔
    L.BreaksProvider call ∨ L.BreaksModel call := by
  unfold Limits.BreaksProvider Limits.BreaksModel
  by_cases hp : providerRefused L.providers call.providerId = true
  · simp [hp]
  · by_cases hm : modelRefused L.models call.providerId call.modelId = true
    · simp [hp, hm]
    · simp [hp, hm]

/-- **A rejection is a broken limit in force**, with nothing unreadable before it. -/
theorem rejects_iff (bundle request : Value) (call : GovernedCall) :
    Rejects (evaluateExecutionGovernance bundle request call) ↔
      (limitsInForce bundle request).Breaks call := by
  have htail := rejects_tail_iff (limitsInForce bundle request) call
  unfold evaluateExecutionGovernance Limits.Breaks Limits.Conflict Limits.BreaksFamily
    Limits.BreaksTimeout Limits.KeepsTimeout Limits.BreaksInputBytes Limits.KeepsInputBytes
  simp only [limitsInForce] at htail ⊢
  by_cases hc : ((routingPolicy bundle.asDict request.asDict).get
      "routing_policy_conflict").isTrue = true
  · simp [hc, pure, Except.pure]
  rcases hf : taskFamilyAllowed call.taskFamily (allowedTaskFamilies bundle.asDict) with _ | _
  · simp [hc, pure, Except.pure]
  rcases ht : timeoutExceeded (routingPolicy bundle.asDict request.asDict) call.timeoutS
    with e | _ | _
  · simp [hc, bind, Except.bind]
  · rcases hb : inputsTooLarge (routingPolicy bundle.asDict request.asDict) call.inputs
      with e | _ | _
    · simp [hc, bind, Except.bind]
    · simp [hc, bind, Except.bind, pure, Except.pure]
      exact htail
    · simp [hc, bind, Except.bind, pure, Except.pure]
  · simp [hc, bind, Except.bind, pure, Except.pure]

/-! ## Constraints of a request -/

/-- Adding the request's constraints does not turn this rejection into anything else. -/
def NarrowsAt (bundle request : Value) (call : GovernedCall) : Prop :=
  Rejects (evaluateExecutionGovernance bundle .null call) →
    Rejects (evaluateExecutionGovernance bundle request call)

/-- A request that states no group of its own. -/
structure StatesNothing (request : Dict) : Prop where
  routing : (request.get "routing_policy_constraints").isDict = false
  providers : (request.get "approved_providers").truthy = false
  models : request.get "approved_models" = .null

theorem statesNothing_nil : StatesNothing [] := ⟨rfl, rfl, rfl⟩

theorem limitsInForce_of_statesNothing {bundle request : Value}
    (h : StatesNothing request.asDict) : limitsInForce bundle request = bundleLimits bundle := by
  have hr : ∀ {d : Dict}, StatesNothing d →
      routingPolicy bundle.asDict d = (bundle.asDict.get "routing_policy_constraints").asDict := by
    intro d hd
    have := hd.routing
    unfold routingPolicy
    rcases hv : d.get "routing_policy_constraints" with _ | _ | _ | _ | _ | _ | _ <;>
      simp_all [Value.isDict]
  have hp : ∀ {d : Dict}, StatesNothing d → approvedProviders bundle.asDict d =
      (bundle.asDict.get "approved_providers").normalizeStringList := by
    intro d hd
    simp [approvedProviders, Value.orElse, hd.providers]
  have hm : ∀ {d : Dict}, StatesNothing d →
      approvedModels bundle.asDict d = (bundle.asDict.get "approved_models").asDict := by
    intro d hd
    simp [approvedModels, hd.models, Value.isNull]
  simp only [bundleLimits, limitsInForce, Value.asDict_null, hr h, hp h, hm h,
    hr statesNothing_nil, hp statesNothing_nil, hm statesNothing_nil]

/-- A routing policy of the request's own without a timeout, a size or a conflict lifts the
bundle's, for every call. -/
theorem keeps_of_statesRouting {bundle request : Value} {routing : Dict}
    (h : request.asDict.get "routing_policy_constraints" = .dict routing)
    (htimeout : routing.get "max_timeout_s" = .null)
    (hbytes : routing.get "max_input_bytes" = .null)
    (hconflict : routing.get "routing_policy_conflict" = .null) (call : GovernedCall) :
    ¬ (limitsInForce bundle request).Conflict ∧
      (limitsInForce bundle request).KeepsTimeout call ∧
      (limitsInForce bundle request).KeepsInputBytes call := by
  have hr : (limitsInForce bundle request).routing = routing := by
    simp [limitsInForce, routingPolicy, h]
  refine ⟨?_, ?_, ?_⟩
  · simp [Limits.Conflict, hr, hconflict, Value.isTrue]
  · simp [Limits.KeepsTimeout, timeoutExceeded, hr, htimeout, Value.isNull]
  · simp [Limits.KeepsInputBytes, inputsTooLarge, hr, hbytes, Value.isNull]

end Governance
end HexeAiNode
