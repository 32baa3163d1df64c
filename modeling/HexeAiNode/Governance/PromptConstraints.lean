import HexeAiNode.Execution.TaskModels
import HexeAiNode.Python.Coercion

/-!
# Merging a prompt's constraints into a request's

The static helpers of `TaskExecutionService` that turn a request's `constraints` and the authorized
prompt's preferences into the governance constraints a call is checked and routed under.

`mergePromptGovernanceConstraints` is one function in the source; here it is the composition of one
step per constraint (`mergePreferredProviders`, `mergePreferredModels`, `mergeTimeout`,
`mergeRequiredFeatures`, `mergeRoutingModes`), in the source's order.  Each step writes one key of the
merged dictionary, so each key of the result is described by one step: see
`merge_spec`.

The source writes nested dictionaries in place, which also changes the request they came from; here
the written dictionary is returned and the request is a value.
-/

namespace HexeAiNode
namespace Governance

open Py Execution

/-! ## The request's own constraints -/

/-- `_safe_governance_constraints`: the request's `governance` constraints, with the mode of its
`routing_policy` written into their routing policy. -/
def safeGovernanceConstraints (request : TaskExecutionRequest) : Dict :=
  let merged := (request.constraints.get "governance").asDict
  let requestRoutingPolicy := (request.constraints.get "routing_policy").asDict
  match normalizeRoutingPolicyMode (requestRoutingPolicy.get "mode") with
  | none => merged
  | some mode =>
    let routing := (merged.get "routing_policy_constraints").asDict
    merged.set "routing_policy_constraints" (.dict (routing.set "mode" (.str mode.text)))

/-- `_authorization_privacy_routing_mode`. -/
def authorizationPrivacyRoutingMode (authorization : ExecutionAuthorizationResult) :
    Option RoutingMode :=
  let privacyClass := (optStr authorization.privacyClass).normalizeLower
  if privacyClass = "restricted" ∨ privacyClass = "sensitive" then some .localOnly else none

/-! ## The steps of the merge -/

/-- The items of a list that are in `set(preferred)`. -/
def keepPreferred (preferred : List Value) : List Value → Except Exc (List Value)
  | [] => .ok []
  | item :: items => do
    let keys ← Value.toSet preferred
    let keep ← Value.setContains keys item
    let rest ← keepPreferred preferred items
    return if keep then item :: rest else rest

/-- The items that are also preferred, or the preferred ones when there are no items. -/
def keepOrAdopt (preferred items : List Value) : Except Exc (List Value) :=
  if items.isEmpty then .ok preferred else keepPreferred preferred items

/-- Prompt providers narrow the approved providers when both lists have entries, and replace an
absent approved list. -/
def mergePreferredProviders (preferred : List Value) (merged : Dict) : Except Exc Dict := do
  if preferred.isEmpty then return merged
  let approved ← (merged.get "approved_providers").toItems
  let kept ← keepOrAdopt preferred approved
  return merged.set "approved_providers" (.list kept)

/-- The same for the models of the prompt's default provider, or of `*`. -/
def mergePreferredModels (preferred : List Value) (defaultProvider : Value) (merged : Dict) :
    Except Exc Dict := do
  if preferred.isEmpty then return merged
  let models := (merged.get "approved_models").asDict
  let named := defaultProvider.normalizeLower
  let key := if named = "" then "*" else named
  let approved ← (models.get key).toItems
  let kept ← keepOrAdopt preferred approved
  return merged.set "approved_models" (.dict (models.set key (.list kept)))

/-- The smaller of a current limit, when there is one, and the prompt's. -/
def smallerTimeout (current : Value) (promptTimeout : Int) : Except Exc Int :=
  if current.isNull then .ok promptTimeout
  else (fun c => min c promptTimeout) <$> current.toInt

/-- The prompt's timeout and the routing policy's: the smaller one. -/
def mergeTimeout (promptConstraints merged : Dict) : Except Exc Dict := do
  if (promptConstraints.get "max_timeout_s").isNull then return merged
  let routing := (merged.get "routing_policy_constraints").asDict
  let current := routing.get "max_timeout_s"
  let promptTimeout ← (promptConstraints.get "max_timeout_s").toInt
  let timeout ← smallerTimeout current promptTimeout
  return merged.set "routing_policy_constraints"
    (.dict (routing.set "max_timeout_s" (.int timeout)))

/-- The non-blank lower-case features of `list(x or [])`. -/
def featureList (v : Value) : Except Exc (List String) := do
  let items ← v.toItems
  return (items.map Value.normalizeLower).filter (· != "")

/-- `sorted(set(xs))` on texts. -/
def sortedSet (xs : List String) : List String :=
  xs.dedup.insertionSort fun a b => a.toList ≤ b.toList

/-- The prompt's required features are added to the required features of the request. -/
def mergeRequiredFeatures (promptConstraints merged : Dict) : Except Exc Dict := do
  let requirements := (promptConstraints.get "capability_requirements").asDict
  let required ← featureList (requirements.get "required_features")
  if required = [] then return merged
  let existing := (merged.get "model_capability_requirements").asDict
  let existingRequired ← featureList (existing.get "required_features")
  let features := sortedSet (existingRequired ++ required)
  return merged.set "model_capability_requirements" (.dict
    ((existing.set "required_features" (.list (features.map .str))).set "source"
      (.str "prompt_v3_capability_requirements")))

/-- A routing policy that says something is written back. -/
def writeRouting (routing merged : Dict) : Dict :=
  if routing = [] then merged else merged.set "routing_policy_constraints" (.dict routing)

/-- The routing modes of the privacy class, the prompt and the request, merged in that order. -/
def mergeRoutingModes (promptConstraints merged : Dict)
    (authorization : ExecutionAuthorizationResult) : Dict :=
  let promptRoutingPolicy := (promptConstraints.get "routing_policy").asDict
  let promptMode := normalizeRoutingPolicyMode (promptRoutingPolicy.get "mode")
  let privacyMode := authorizationPrivacyRoutingMode authorization
  let (effectivePromptMode, promptPrivacyConflict) := mergeRoutingPolicyModes privacyMode promptMode
  let routing := (merged.get "routing_policy_constraints").asDict
  let requestMode := normalizeRoutingPolicyMode (routing.get "mode")
  let (effectiveMode, conflict) := mergeRoutingPolicyModes effectivePromptMode requestMode
  if promptPrivacyConflict || conflict then
    writeRouting (routing.set "routing_policy_conflict" (.bool true)) merged
  else match effectiveMode with
    | some mode => writeRouting (routing.set "mode" (.str mode.text)) merged
    | none => writeRouting routing merged

/-- `_merge_prompt_governance_constraints`. -/
def mergePromptGovernanceConstraints (governanceConstraints : Dict)
    (authorization : ExecutionAuthorizationResult) : Except Exc Dict := do
  let preferences := authorization.providerPreferences.asDict
  let promptConstraints := authorization.promptConstraints.asDict
  let preferredProviders ← (preferences.get "preferred_providers").toItems
  let preferredModels ← (preferences.get "preferred_models").toItems
  let merged ← mergePreferredProviders preferredProviders governanceConstraints
  let merged ← mergePreferredModels preferredModels (preferences.get "default_provider") merged
  let merged ← mergeTimeout promptConstraints merged
  let merged ← mergeRequiredFeatures promptConstraints merged
  return mergeRoutingModes promptConstraints merged authorization

/-! ## What each step writes -/

theorem get_of_mergePreferredProviders {preferred : List Value} {merged merged' : Dict}
    (h : mergePreferredProviders preferred merged = .ok merged') {key : String}
    (hk : key ≠ "approved_providers") : merged'.get key = merged.get key := by
  unfold mergePreferredProviders at h
  split at h
  · rw [pure_eq_ok.mp h]
  · obtain ⟨approved, -, h⟩ := bind_eq_ok.mp h
    obtain ⟨kept, -, h⟩ := bind_eq_ok.mp h
    rw [← pure_eq_ok.mp h, Dict.get_set_of_ne _ _ hk]

theorem get_of_mergePreferredModels {preferred : List Value} {defaultProvider : Value}
    {merged merged' : Dict}
    (h : mergePreferredModels preferred defaultProvider merged = .ok merged') {key : String}
    (hk : key ≠ "approved_models") : merged'.get key = merged.get key := by
  unfold mergePreferredModels at h
  split at h
  · rw [pure_eq_ok.mp h]
  · obtain ⟨approved, -, h⟩ := bind_eq_ok.mp h
    obtain ⟨kept, -, h⟩ := bind_eq_ok.mp h
    rw [← pure_eq_ok.mp h, Dict.get_set_of_ne _ _ hk]

theorem get_of_mergeTimeout {promptConstraints merged merged' : Dict}
    (h : mergeTimeout promptConstraints merged = .ok merged') {key : String}
    (hk : key ≠ "routing_policy_constraints") : merged'.get key = merged.get key := by
  unfold mergeTimeout at h
  split at h
  · rw [pure_eq_ok.mp h]
  · obtain ⟨promptTimeout, -, h⟩ := bind_eq_ok.mp h
    obtain ⟨timeout, -, h⟩ := bind_eq_ok.mp h
    rw [← pure_eq_ok.mp h, Dict.get_set_of_ne _ _ hk]

theorem get_of_mergeRequiredFeatures {promptConstraints merged merged' : Dict}
    (h : mergeRequiredFeatures promptConstraints merged = .ok merged') {key : String}
    (hk : key ≠ "model_capability_requirements") : merged'.get key = merged.get key := by
  unfold mergeRequiredFeatures at h
  obtain ⟨required, -, h⟩ := bind_eq_ok.mp h
  split at h
  · rw [pure_eq_ok.mp h]
  · obtain ⟨existing, -, h⟩ := bind_eq_ok.mp h
    rw [← pure_eq_ok.mp h, Dict.get_set_of_ne _ _ hk]

theorem get_writeRouting {routing merged : Dict} {key : String}
    (hk : key ≠ "routing_policy_constraints") :
    (writeRouting routing merged).get key = merged.get key := by
  unfold writeRouting
  split
  · rfl
  · rw [Dict.get_set_of_ne _ _ hk]

@[simp] theorem writeRouting_nil (merged : Dict) : writeRouting [] merged = merged := by
  simp [writeRouting]

theorem routing_writeRouting {routing merged : Dict} (h : routing ≠ []) :
    ((writeRouting routing merged).get "routing_policy_constraints").asDict = routing := by
  rw [writeRouting, if_neg h, Dict.get_set_self, Value.asDict_dict]

theorem get_mergeRoutingModes {promptConstraints merged : Dict}
    {authorization : ExecutionAuthorizationResult} {key : String}
    (hk : key ≠ "routing_policy_constraints") :
    (mergeRoutingModes promptConstraints merged authorization).get key = merged.get key := by
  unfold mergeRoutingModes
  dsimp only
  split
  · exact get_writeRouting hk
  · split
    · exact get_writeRouting hk
    · exact get_writeRouting hk

/-- The timeout step leaves the routing mode alone. -/
theorem mode_of_mergeTimeout {promptConstraints merged merged' : Dict}
    (h : mergeTimeout promptConstraints merged = .ok merged') :
    (merged'.get "routing_policy_constraints").asDict.get "mode" =
      (merged.get "routing_policy_constraints").asDict.get "mode" := by
  unfold mergeTimeout at h
  split at h
  · rw [pure_eq_ok.mp h]
  · obtain ⟨promptTimeout, -, h⟩ := bind_eq_ok.mp h
    obtain ⟨timeout, -, h⟩ := bind_eq_ok.mp h
    rw [← pure_eq_ok.mp h, Dict.get_set_self, Value.asDict_dict,
      Dict.get_set_of_ne _ _ (by decide)]

/-! ## The merged constraints -/

/-- The routing mode a prompt and its privacy class ask for, and whether the two conflict. -/
def promptRoutingMode (authorization : ExecutionAuthorizationResult) : Option RoutingMode × Bool :=
  mergeRoutingPolicyModes (authorizationPrivacyRoutingMode authorization)
    (normalizeRoutingPolicyMode
      ((authorization.promptConstraints.asDict.get "routing_policy").asDict.get "mode"))

/-- The routing mode of the merged constraints: the merged mode, or the request's own mode when the
modes conflict. -/
def mergedRoutingMode (governance : Dict) (authorization : ExecutionAuthorizationResult) :
    Option RoutingMode :=
  let requestMode := routingModeOf governance
  let merge := mergeRoutingPolicyModes (promptRoutingMode authorization).1 requestMode
  if (promptRoutingMode authorization).2 || merge.2 then requestMode else merge.1

theorem merge_eq_none {p r : Option RoutingMode} (h : (mergeRoutingPolicyModes p r).1 = none)
    (hc : (mergeRoutingPolicyModes p r).2 = false) : r = none := by
  rcases p with _ | _ | _ | _ | _ <;> rcases r with _ | _ | _ | _ | _ <;>
    simp_all [mergeRoutingPolicyModes, routingModeScope]

/-- The mode that the last step leaves in the merged constraints. -/
theorem routingModeOf_mergeRoutingModes {merged : Dict}
    {authorization : ExecutionAuthorizationResult} :
    routingModeOf (mergeRoutingModes authorization.promptConstraints.asDict merged
      authorization) = mergedRoutingMode merged authorization := by
  unfold mergeRoutingModes mergedRoutingMode
  rcases hp : promptRoutingMode authorization with ⟨promptMode, promptConflict⟩
  rcases hm : mergeRoutingPolicyModes promptMode (routingModeOf merged)
    with ⟨mode, conflict⟩
  have hp' := hp
  have hm' := hm
  unfold promptRoutingMode at hp'
  unfold routingModeOf routingPolicyOf at hm'
  simp only [hp', hm', hm]
  by_cases hc : (promptConflict || conflict) = true
  · rw [if_pos hc, if_pos hc, routingModeOf, routingPolicyOf,
      routing_writeRouting (Dict.set_ne_nil _ _ _), Dict.get_set_of_ne _ _ (by decide),
      routingModeOf, routingPolicyOf]
  · rw [if_neg hc, if_neg hc]
    rcases mode with _ | mode
    · have hnone : routingModeOf merged = none := by
        refine merge_eq_none (p := promptMode) ?_ ?_
        · rw [hm]
        · rw [hm]
          simp_all
      dsimp only
      by_cases hr : (merged.get "routing_policy_constraints").asDict = []
      · rw [hr, writeRouting_nil]
        exact hnone
      · rw [routingModeOf, routingPolicyOf, routing_writeRouting hr]
        exact hnone
    · rw [routingModeOf, routingPolicyOf, routing_writeRouting (Dict.set_ne_nil _ _ _),
        Dict.get_set_self, normalizeRoutingPolicyMode_text]

/-- The prompt's mode conflicts with its privacy class's, or with the request's. -/
def routingConflict (governance : Dict) (authorization : ExecutionAuthorizationResult) : Bool :=
  (promptRoutingMode authorization).2 ||
    (mergeRoutingPolicyModes (promptRoutingMode authorization).1 (routingModeOf governance)).2

/-- A conflict is written into the routing policy. -/
theorem routingPolicy_mergeRoutingModes {merged : Dict}
    {authorization : ExecutionAuthorizationResult} (h : routingConflict merged authorization = true) :
    ∃ routing : Dict, (mergeRoutingModes authorization.promptConstraints.asDict merged authorization).get
        "routing_policy_constraints" = .dict routing ∧
      routing.get "routing_policy_conflict" = .bool true := by
  unfold routingConflict promptRoutingMode routingModeOf routingPolicyOf at h
  unfold mergeRoutingModes
  dsimp only
  rw [if_pos h, writeRouting, if_neg (Dict.set_ne_nil _ _ _)]
  exact ⟨_, Dict.get_set_self _ _ _, Dict.get_set_self _ _ _⟩

/-- Without a conflict, a restricted or sensitive prompt stays on the node. -/
theorem mergedRoutingMode_of_privacy {governance : Dict}
    {authorization : ExecutionAuthorizationResult}
    (h : authorizationPrivacyRoutingMode authorization = some .localOnly)
    (hconflict : routingConflict governance authorization = false) :
    mergedRoutingMode governance authorization = some .localOnly := by
  have hnone := hconflict
  rw [routingConflict, Bool.or_eq_false_iff] at hnone
  have hprompt : (promptRoutingMode authorization).1 = some .localOnly := by
    unfold promptRoutingMode at hnone ⊢
    exact localOnly_of_merge hnone.1 (Or.inl h)
  rw [routingConflict] at hconflict
  unfold mergedRoutingMode
  dsimp only
  rw [hconflict, if_neg Bool.false_ne_true]
  exact localOnly_of_merge hnone.2 (Or.inl hprompt)

/-- **What the merged constraints say**: the approved providers are the first step's, the routing
mode is `mergedRoutingMode`, and a conflict of modes is marked. -/
theorem merge_spec {governance merged : Dict} {authorization : ExecutionAuthorizationResult}
    (h : mergePromptGovernanceConstraints governance authorization = .ok merged) :
    ∃ preferred first,
      (authorization.providerPreferences.asDict.get "preferred_providers").toItems = .ok preferred ∧
      mergePreferredProviders preferred governance = .ok first ∧
      merged.get "approved_providers" = first.get "approved_providers" ∧
      routingModeOf merged = mergedRoutingMode governance authorization ∧
      (routingConflict governance authorization = true →
        ∃ routing : Dict, merged.get "routing_policy_constraints" = .dict routing ∧
          routing.get "routing_policy_conflict" = .bool true) := by
  unfold mergePromptGovernanceConstraints at h
  obtain ⟨preferred, hpreferred, h⟩ := bind_eq_ok.mp h
  obtain ⟨preferredModels, -, h⟩ := bind_eq_ok.mp h
  obtain ⟨first, hfirst, h⟩ := bind_eq_ok.mp h
  obtain ⟨second, hsecond, h⟩ := bind_eq_ok.mp h
  obtain ⟨third, hthird, h⟩ := bind_eq_ok.mp h
  obtain ⟨fourth, hfourth, h⟩ := bind_eq_ok.mp h
  obtain rfl := pure_eq_ok.mp h
  have hmode : routingModeOf fourth = routingModeOf governance := by
    unfold routingModeOf routingPolicyOf
    rw [get_of_mergeRequiredFeatures hfourth (by decide), mode_of_mergeTimeout hthird,
      get_of_mergePreferredModels hsecond (by decide),
      get_of_mergePreferredProviders hfirst (by decide)]
  refine ⟨preferred, first, hpreferred, hfirst, ?_, ?_, ?_⟩
  · rw [get_mergeRoutingModes (by decide), get_of_mergeRequiredFeatures hfourth (by decide),
      get_of_mergeTimeout hthird (by decide), get_of_mergePreferredModels hsecond (by decide)]
  · rw [routingModeOf_mergeRoutingModes, mergedRoutingMode, mergedRoutingMode, hmode]
  · intro hconflict
    refine routingPolicy_mergeRoutingModes ?_
    rw [routingConflict, hmode]
    exact hconflict

end Governance
end HexeAiNode
