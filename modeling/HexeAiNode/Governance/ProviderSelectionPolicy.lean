import HexeAiNode.Governance.RoutingMode
import HexeAiNode.Python.Coercion

/-!
# The provider selection policy

`buildProviderSelectionPolicy` turns the node's provider context and the governance constraints of a
request into the order in which providers may serve it, a model allowlist for each, a timeout and
retry counts.

## Shape of the function

The order is computed in three narrowing steps, and each can end in a rejection:

1. `enabledProviders`, and of those the governance-approved ones (`governanceEligible`);
2. of those the ones the routing mode permits (`routingEligible`);
3. of those the ones that are healthy and within budget (`selectable`), collected without repetition
   from `candidateOrder` by `selectProviders`.

`mem_selectProviders` describes step 3 as a set: the order only decides positions, never membership.
`policy_cases` lists how the function can return, and `mem_providerOrder_iff` puts the steps
together: the order holds exactly the providers that are `Approved` and `Usable`.

## Empty lists

An empty approved list means that no list was given, and then every enabled provider is approved.
The same holds for the models of a provider: `modelAllowlist` is empty both when nothing restricts
the provider's models and when the restrictions leave nothing.
-/

namespace HexeAiNode
namespace Governance

open Py

/-! ## Normalized inputs -/

/-- `ProviderSelectionPolicyInput`. -/
structure ProviderSelectionPolicyInput where
  enabledProviders : List Value
  defaultProvider : Value := .null
  requestedProvider : Value := .null
  requestedModel : Value := .null
  providerHealth : Dict := []
  usableModelsByProvider : Value := .null
  modelFeaturesByProvider : Value := .null
  providerRetryCount : Dict := []
  providerBudgetLimits : Value := .null
  requestTimeoutS : Int := 60
  requestMaxCostCents : Option Int := none
  governanceConstraints : Dict := []

/-- `ProviderSelectionPolicyDecision`. -/
structure ProviderSelectionPolicyDecision where
  providerOrder : List String
  modelAllowlistByProvider : List (String × List String)
  timeoutS : Int
  retryCountByProvider : List (String × Int)
  fallbackAllowed : Bool
  rejectionReason : Option String := none
  deriving DecidableEq, Repr

/-- The lower-case entries of a normalized list. -/
def lowerList (v : Value) : List String := v.normalizeStringList.map lower

theorem mem_lowerList {v : Value} {p : String} (h : p ∈ lowerList v) : strip p = p ∧ p ≠ "" := by
  obtain ⟨t, ht, rfl⟩ := List.mem_map.mp h
  have hstrip := Value.strip_of_mem_normalizeStringList ht
  refine ⟨?_, ?_⟩
  · rw [← hstrip, strip_lower_strip]
  · rw [Ne, lower_eq_empty_iff]
    exact Value.ne_empty_of_mem_normalizeStringList ht

theorem mem_lowerList_list {items : List Value} {p : String} :
    p ∈ lowerList (.list items) ↔ p ≠ "" ∧ ∃ item ∈ items, item.normalizeLower = p := by
  unfold lowerList
  rw [List.mem_map]
  constructor
  · rintro ⟨t, ht, rfl⟩
    obtain ⟨hne, item, hitem, rfl⟩ := Value.mem_normalizeStringList_list.mp ht
    exact ⟨fun h => hne (lower_eq_empty_iff.mp h), item, hitem, rfl⟩
  · rintro ⟨hne, item, hitem, rfl⟩
    refine ⟨item.normalizeString, Value.mem_normalizeStringList_list.mpr ⟨fun h => hne ?_, item, hitem, rfl⟩, rfl⟩
    exact lower_eq_empty_iff.mpr h

/-- `_normalize_provider_models`. -/
def normalizeProviderModels : Value → List (String × List String)
  | .dict kvs => kvs.foldl (fun acc kv =>
      if stripLower kv.1 = "" then acc else Assoc.set acc (stripLower kv.1) (lowerList kv.2)) []
  | _ => []

/-- Every list of the normalized models is a lower-case list. -/
theorem normalizeProviderModels_entry {v : Value} {p : String} {models : List String}
    (h : Assoc.get? (normalizeProviderModels v) p = some models) : ∃ w, models = lowerList w := by
  rcases v with _ | _ | _ | _ | _ | _ | kvs
  case dict =>
    have hfold : ∀ q ms, Assoc.get? (normalizeProviderModels (.dict kvs)) q = some ms →
        ∃ w, ms = lowerList w := by
      refine List.foldlRecOn (motive := fun acc : List (String × List String) => ∀ q ms,
        Assoc.get? acc q = some ms → ∃ w, ms = lowerList w) kvs _ (by simp) ?_
      intro acc hacc kv _ q ms hq
      split at hq
      · exact hacc q ms hq
      · rw [Assoc.get?_set] at hq
        split at hq
        · exact ⟨kv.2, (Option.some.inj hq).symm⟩
        · exact hacc q ms hq
    exact hfold p models h
  all_goals cases h

/-- `_normalize_provider_budget_limits`, one entry at a time. -/
def normalizeProviderBudgetLimitsFrom (acc : List (String × Int)) :
    Dict → Except Exc (List (String × Int))
  | [] => .ok acc
  | (providerId, payload) :: rest =>
    if stripLower providerId = "" ∨ payload.isDict = false then
      normalizeProviderBudgetLimitsFrom acc rest
    else if (payload.asDict.get "max_cost_cents").isNull then
      normalizeProviderBudgetLimitsFrom acc rest
    else do
      let limit ← (payload.asDict.get "max_cost_cents").toInt
      normalizeProviderBudgetLimitsFrom (Assoc.set acc (stripLower providerId) (max limit 0)) rest

/-- `_normalize_provider_budget_limits`. -/
def normalizeProviderBudgetLimits (v : Value) : Except Exc (List (String × Int)) :=
  normalizeProviderBudgetLimitsFrom [] v.asDict

/-- The features of one model: lower-case names with their truth value. -/
def normalizeFeatures (features : Dict) : List (String × Bool) :=
  features.foldl (fun acc kv =>
    if strip kv.1 = "" then acc else Assoc.set acc (stripLower kv.1) kv.2.truthy) []

/-- The models of one provider with their features. -/
def normalizeModelFeatures (models : Dict) : List (String × List (String × Bool)) :=
  models.foldl (fun acc kv =>
    if stripLower kv.1 = "" ∨ kv.2.isDict = false then acc
    else Assoc.set acc (stripLower kv.1) (normalizeFeatures kv.2.asDict)) []

/-- `_normalize_provider_model_features`. -/
def normalizeProviderModelFeatures (v : Value) :
    List (String × List (String × List (String × Bool))) :=
  v.asDict.foldl (fun acc kv =>
    if stripLower kv.1 = "" ∨ kv.2.isDict = false then acc
    else Assoc.set acc (stripLower kv.1) (normalizeModelFeatures kv.2.asDict)) []

/-- `_required_capability_features`. -/
def requiredCapabilityFeatures (governance : Dict) : List String :=
  let requirements := governance.get "model_capability_requirements"
  let requirements :=
    if requirements.isDict then requirements else governance.get "capability_requirements"
  if requirements.isDict then lowerList (requirements.asDict.get "required_features") else []

/-- `_is_local_provider`. -/
def isLocalProvider (providerId : String) : Bool := stripLower providerId == "local"

/-- The health reports by normalized provider. -/
def normalizeProviderHealth (health : Dict) : List (String × Dict) :=
  health.foldl (fun acc kv => Assoc.set acc (stripLower kv.1) kv.2.asDict) []

/-! ## The order of providers -/

/-- The enabled providers, in lower case. -/
def enabledProviders (policy : ProviderSelectionPolicyInput) : List String :=
  lowerList (.list policy.enabledProviders)

/-- The enabled providers that governance approves: all of them when it names none. -/
def governanceEligible (enabled : List String) (governance : Dict) : List String :=
  let approved := lowerList (governance.get "approved_providers")
  if approved = [] then enabled.filter fun p => enabled.contains p
  else enabled.filter fun p => approved.contains p

/-- The eligible providers the routing mode permits, or the reason why there is none. -/
def routingEligible (mode : Option RoutingMode) (enabled eligible : List String) :
    Except String (List String) :=
  match mode with
  | some .localOnly =>
    let kept := eligible.filter isLocalProvider
    if !enabled.contains "local" || kept.isEmpty then .error "local_only_provider_unavailable"
    else .ok kept
  | some .cloudOnly =>
    let kept := eligible.filter fun p => !isLocalProvider p
    if kept.isEmpty then .error "cloud_only_provider_unavailable" else .ok kept
  | _ => .ok eligible

/-- The order in which candidates are tried. -/
def candidateOrder (mode : Option RoutingMode) (requested default : String)
    (eligible : List String) : List String :=
  match mode with
  | some .localPreferred => [requested] ++ (["local"] ++ eligible) ++ [default]
  | some .cloudFallback =>
    [requested] ++ (eligible.filter (fun p => !isLocalProvider p) ++ eligible.filter isLocalProvider)
      ++ [default]
  | _ => [requested, default] ++ eligible

/-- A provider's availability: `unavailable` when nothing is reported. -/
def availabilityOf (health : List (String × Dict)) (providerId : String) : String :=
  let reported := ((Assoc.get? health providerId).getD []).get "availability"
  stripLower (if reported.truthy then reported.toStr else "unavailable")

/-- Available or degraded; a blank report counts. -/
def healthy (health : List (String × Dict)) (providerId : String) : Bool :=
  let availability := availabilityOf health providerId
  availability == "available" || availability == "degraded" || availability == ""

/-- The request's cost limit does not exceed the provider's. -/
def withinBudget (limits : List (String × Int)) (maxCostCents : Option Int)
    (providerId : String) : Bool :=
  match maxCostCents, Assoc.get? limits providerId with
  | some cost, some limit => cost ≤ limit
  | _, _ => true

/-- What a candidate must satisfy besides being eligible. -/
def selectable (health : List (String × Dict)) (limits : List (String × Int))
    (maxCostCents : Option Int) (providerId : String) : Bool :=
  healthy health providerId && withinBudget limits maxCostCents providerId

/-- The candidates that pass, without repetition, in the order they are tried. -/
def selectProviders (eligible : List String) (pass : String → Bool) (acc : List String) :
    List String → List String
  | [] => acc
  | candidate :: rest =>
    if candidate = "" ∨ candidate ∈ acc ∨ candidate ∉ eligible ∨ pass candidate = false then
      selectProviders eligible pass acc rest
    else selectProviders eligible pass (acc ++ [candidate]) rest

/-! ## Models, timeout and retries -/

/-- The usable and approved models of a provider: both lists when both have entries, else the one
that has. -/
def allowedModels (usable approved : List String) : List String :=
  if usable ≠ [] ∧ approved ≠ [] then usable.filter fun m => approved.contains m
  else if usable ≠ [] then usable
  else approved

/-- A model has all required features. -/
def hasFeatures (features : List (String × Bool)) (required : List String) : Bool :=
  required.all fun f => (Assoc.get? features f).getD false

/-- The models of a list that have all required features; of the feature table when the list is
empty. -/
def withFeatures (table : List (String × List (String × Bool))) (required allowed : List String) :
    List String :=
  if required = [] then allowed
  else if allowed ≠ [] then
    allowed.filter fun m => hasFeatures ((Assoc.get? table m).getD []) required
  else (table.filter fun e => hasFeatures e.2 required).map Prod.fst

/-- A requested model that is allowed stands alone; one that nothing restricts does too. -/
def narrowToRequested (requested : String) (required allowed : List String) : List String :=
  if requested = "" then allowed
  else if allowed ≠ [] ∧ allowed.contains requested then [requested]
  else if allowed = [] ∧ required = [] then [requested]
  else allowed

/-- The model allowlist of one provider. -/
def modelAllowlist (usable approved : List (String × List String))
    (features : List (String × List (String × List (String × Bool)))) (required : List String)
    (requestedModel providerId : String) : List String :=
  narrowToRequested requestedModel required
    (withFeatures ((Assoc.get? features providerId).getD []) required
      (allowedModels ((Assoc.get? usable providerId).getD [])
        ((Assoc.get? approved providerId).getD [])))

/-- The retries of one provider: configured, and at most the governance limit. -/
def retryCount (configured : Dict) (governanceMaxRetries : Value) (providerId : String) :
    Except Exc Int := do
  let raw := configured.get providerId
  let retries ← if raw.truthy then raw.toInt else pure 0
  if governanceMaxRetries.isNull then return max retries 0
  let limit ← governanceMaxRetries.toInt
  return min (max retries 0) (max limit 0)

/-- The retries of every provider in the order. -/
def retryCounts (configured : Dict) (governanceMaxRetries : Value) :
    List String → Except Exc (List (String × Int))
  | [] => .ok []
  | providerId :: rest => do
    let retries ← retryCount configured governanceMaxRetries providerId
    let counts ← retryCounts configured governanceMaxRetries rest
    return (providerId, retries) :: counts

/-- The request's timeout, and at most the governance limit. -/
def policyTimeout (requestTimeoutS : Int) (maxTimeout : Value) : Except Exc Int := do
  if maxTimeout.isNull then return max requestTimeoutS 1
  let limit ← maxTimeout.toInt
  return min (max requestTimeoutS 1) (max limit 1)

/-- A decision without providers. -/
def rejectPolicy (policy : ProviderSelectionPolicyInput) (reason : String) :
    ProviderSelectionPolicyDecision where
  providerOrder := []
  modelAllowlistByProvider := []
  timeoutS := max policy.requestTimeoutS 1
  retryCountByProvider := []
  fallbackAllowed := false
  rejectionReason := some reason

/-- The model allowlist the policy computes for a provider. -/
def policyAllowlist (policy : ProviderSelectionPolicyInput) (p : String) : List String :=
  modelAllowlist (normalizeProviderModels policy.usableModelsByProvider)
    (normalizeProviderModels (policy.governanceConstraints.get "approved_models"))
    (normalizeProviderModelFeatures policy.modelFeaturesByProvider)
    (requiredCapabilityFeatures policy.governanceConstraints) policy.requestedModel.normalizeLower p

/-- The order of providers, from those the routing mode kept. -/
def selectedProviders (policy : ProviderSelectionPolicyInput) (limits : List (String × Int))
    (kept : List String) : List String :=
  selectProviders kept
    (selectable (normalizeProviderHealth policy.providerHealth) limits policy.requestMaxCostCents) []
    (candidateOrder (routingModeOf policy.governanceConstraints)
      policy.requestedProvider.normalizeLower policy.defaultProvider.normalizeLower kept)

/-- The decision for a non-empty order. -/
def servePolicy (policy : ProviderSelectionPolicyInput) (order : List String) :
    Except Exc ProviderSelectionPolicyDecision := do
  let routing := routingPolicyOf policy.governanceConstraints
  let timeout ← policyTimeout policy.requestTimeoutS (routing.get "max_timeout_s")
  let retries ← retryCounts policy.providerRetryCount (routing.get "max_retry_count") order
  return {
    providerOrder := order
    modelAllowlistByProvider := order.map fun p => (p, policyAllowlist policy p)
    timeoutS := timeout
    retryCountByProvider := retries
    fallbackAllowed := order.length > 1 }

/-- `build_provider_selection_policy`. -/
def buildProviderSelectionPolicy (policy : ProviderSelectionPolicyInput) :
    Except Exc ProviderSelectionPolicyDecision := do
  let enabled := enabledProviders policy
  if enabled.isEmpty then return rejectPolicy policy "no_enabled_providers"
  let eligible := governanceEligible enabled policy.governanceConstraints
  if eligible.isEmpty then return rejectPolicy policy "no_governance_approved_providers"
  let limits ← normalizeProviderBudgetLimits policy.providerBudgetLimits
  let mode := routingModeOf policy.governanceConstraints
  match routingEligible mode enabled eligible with
  | .error reason => return rejectPolicy policy reason
  | .ok kept =>
    let order := selectedProviders policy limits kept
    if order.isEmpty then
      return rejectPolicy policy (if mode = some .localOnly then "local_only_provider_unavailable"
        else "no_eligible_provider_available")
    servePolicy policy order

/-! ## Membership in the order -/

theorem mem_selectProviders {eligible : List String} {pass : String → Bool} {acc cs : List String}
    {p : String} :
    p ∈ selectProviders eligible pass acc cs ↔
      p ∈ acc ∨ (p ∈ cs ∧ p ≠ "" ∧ p ∈ eligible ∧ pass p = true) := by
  induction cs generalizing acc with
  | nil => simp [selectProviders]
  | cons c cs ih =>
    by_cases hskip : c = "" ∨ c ∈ acc ∨ c ∉ eligible ∨ pass c = false
    · rw [selectProviders, if_pos hskip, ih]
      constructor
      · rintro (h | ⟨h, hrest⟩)
        · exact Or.inl h
        · exact Or.inr ⟨List.mem_cons_of_mem _ h, hrest⟩
      · rintro (h | ⟨h, hne, helig, hpass⟩)
        · exact Or.inl h
        · rcases List.mem_cons.mp h with rfl | h
          · rcases hskip with h0 | h0 | h0 | h0
            · exact absurd h0 hne
            · exact Or.inl h0
            · exact absurd helig h0
            · rw [hpass] at h0
              cases h0
          · exact Or.inr ⟨h, hne, helig, hpass⟩
    · rw [selectProviders, if_neg hskip, ih]
      push Not at hskip
      obtain ⟨hne, -, helig, hpass⟩ := hskip
      have hpass : pass c = true := by simpa using hpass
      constructor
      · rintro (h | ⟨h, hrest⟩)
        · rcases List.mem_append.mp h with h | h
          · exact Or.inl h
          · obtain rfl := List.mem_singleton.mp h
            exact Or.inr ⟨List.mem_cons_self, hne, helig, hpass⟩
        · exact Or.inr ⟨List.mem_cons_of_mem _ h, hrest⟩
      · rintro (h | ⟨h, hrest⟩)
        · exact Or.inl (List.mem_append_left _ h)
        · rcases List.mem_cons.mp h with rfl | h
          · exact Or.inl (by simp)
          · exact Or.inr ⟨h, hrest⟩

/-- Every eligible provider is a candidate, whatever the routing mode. -/
theorem mem_candidateOrder_of_eligible {mode : Option RoutingMode} {requested default p : String}
    {eligible : List String} (h : p ∈ eligible) :
    p ∈ candidateOrder mode requested default eligible := by
  rcases mode with _ | _ | _ | _ | _ <;> simp only [candidateOrder, List.mem_append]
  · exact Or.inr h
  · exact Or.inr h
  · exact Or.inl (Or.inr (Or.inr h))
  · exact Or.inr h
  · refine Or.inl (Or.inr ?_)
    by_cases hp : isLocalProvider p = true
    · exact Or.inr (List.mem_filter.mpr ⟨h, hp⟩)
    · exact Or.inl (List.mem_filter.mpr ⟨h, by simpa using hp⟩)

/-- The routing mode permits a provider; `local_only` also asks for a provider named `local`. -/
def routingPermits (mode : Option RoutingMode) (enabled : List String) (p : String) : Bool :=
  match mode with
  | some .localOnly => enabled.contains "local" && isLocalProvider p
  | some .cloudOnly => !isLocalProvider p
  | _ => true

theorem mem_of_routingEligible {mode : Option RoutingMode} {enabled eligible kept : List String}
    (h : routingEligible mode enabled eligible = .ok kept) {p : String} :
    p ∈ kept ↔ p ∈ eligible ∧ routingPermits mode enabled p = true := by
  rcases mode with _ | _ | _ | _ | _
  · obtain rfl := Except.ok.inj h
    simp [routingPermits]
  · simp only [routingEligible] at h
    split at h
    · cases h
    · next hc =>
      obtain rfl := Except.ok.inj h
      have hlocal : enabled.contains "local" = true := by simp_all
      simp only [routingPermits, hlocal, Bool.true_and, List.mem_filter]
  · obtain rfl := Except.ok.inj h
    simp [routingPermits]
  · simp only [routingEligible] at h
    split at h
    · cases h
    · obtain rfl := Except.ok.inj h
      simp only [routingPermits, List.mem_filter]
  · obtain rfl := Except.ok.inj h
    simp [routingPermits]

/-- A routing mode rejects only when it permits none of the eligible providers. -/
theorem not_permits_of_routingEligible_error {mode : Option RoutingMode}
    {enabled eligible : List String} {reason : String}
    (h : routingEligible mode enabled eligible = .error reason) {p : String} (hp : p ∈ eligible) :
    routingPermits mode enabled p = false := by
  rcases mode with _ | _ | _ | _ | _
  · cases h
  · simp only [routingEligible] at h
    split at h
    · next hc =>
      simp only [Bool.or_eq_true, List.isEmpty_iff, List.filter_eq_nil_iff] at hc
      rcases hc with hc | hc
      · simp_all [routingPermits]
      · simp [routingPermits, hc p hp]
    · cases h
  · cases h
  · simp only [routingEligible] at h
    split at h
    · next hc =>
      simp only [List.isEmpty_iff, List.filter_eq_nil_iff] at hc
      simpa [routingPermits] using hc p hp
    · cases h
  · cases h

/-- The providers' cost limits, where they can be read. -/
def budgetLimits (policy : ProviderSelectionPolicyInput) : List (String × Int) :=
  match normalizeProviderBudgetLimits policy.providerBudgetLimits with
  | .ok limits => limits
  | .error _ => []

/-- A provider may serve under a routing mode, apart from governance approval: it is enabled,
permitted by the mode, healthy and within budget. -/
structure Usable (policy : ProviderSelectionPolicyInput) (mode : Option RoutingMode) (p : String) :
    Prop where
  name : p ≠ ""
  enabled : p ∈ enabledProviders policy
  permitted : routingPermits mode (enabledProviders policy) p = true
  selectable : selectable (normalizeProviderHealth policy.providerHealth) (budgetLimits policy)
    policy.requestMaxCostCents p = true

/-- Governance approves a provider: it is listed, or no provider is. -/
def Approved (governance : Dict) (p : String) : Prop :=
  lowerList (governance.get "approved_providers") = [] ∨
    p ∈ lowerList (governance.get "approved_providers")

theorem mem_governanceEligible {enabled : List String} {governance : Dict} {p : String} :
    p ∈ governanceEligible enabled governance ↔ p ∈ enabled ∧ Approved governance p := by
  unfold governanceEligible Approved
  dsimp only
  split
  · next h => simp [h]
  · next h => simp [h, List.mem_filter]

@[simp] theorem rejectPolicy_order (policy : ProviderSelectionPolicyInput) (reason : String) :
    (rejectPolicy policy reason).providerOrder = [] := rfl

/-- What `servePolicy` returns for an order. -/
structure Serves (policy : ProviderSelectionPolicyInput) (order : List String)
    (decision : ProviderSelectionPolicyDecision) : Prop where
  providers : decision.providerOrder = order
  allowlist : decision.modelAllowlistByProvider = order.map fun p => (p, policyAllowlist policy p)
  accepted : decision.rejectionReason = none
  timeout : policyTimeout policy.requestTimeoutS
    ((routingPolicyOf policy.governanceConstraints).get "max_timeout_s") = .ok decision.timeoutS
  retries : retryCounts policy.providerRetryCount
    ((routingPolicyOf policy.governanceConstraints).get "max_retry_count") order =
      .ok decision.retryCountByProvider

theorem serves_of_servePolicy {policy : ProviderSelectionPolicyInput} {order : List String}
    {decision : ProviderSelectionPolicyDecision} (h : servePolicy policy order = .ok decision) :
    Serves policy order decision := by
  unfold servePolicy at h
  obtain ⟨timeout, htimeout, h⟩ := bind_eq_ok.mp h
  obtain ⟨retries, hretries, h⟩ := bind_eq_ok.mp h
  obtain rfl := pure_eq_ok.mp h
  exact { providers := rfl, allowlist := rfl, accepted := rfl, timeout := htimeout, retries := hretries }

/-- The providers that the routing mode leaves, before health and budget. -/
def keptProviders (policy : ProviderSelectionPolicyInput) : Except String (List String) :=
  routingEligible (routingModeOf policy.governanceConstraints) (enabledProviders policy)
    (governanceEligible (enabledProviders policy) policy.governanceConstraints)

/-- **How the policy can return.**  It rejects because no provider is approved or permitted, it
rejects because none of them is selectable, or it serves the selected ones. -/
theorem policy_cases {policy : ProviderSelectionPolicyInput}
    {decision : ProviderSelectionPolicyDecision}
    (h : buildProviderSelectionPolicy policy = .ok decision) :
    (∃ reason, decision = rejectPolicy policy reason ∧
      (governanceEligible (enabledProviders policy) policy.governanceConstraints = [] ∨
        ∃ e, keptProviders policy = .error e)) ∨
    (∃ reason kept, decision = rejectPolicy policy reason ∧ keptProviders policy = .ok kept ∧
      selectedProviders policy (budgetLimits policy) kept = []) ∨
    ∃ kept, keptProviders policy = .ok kept ∧
      selectedProviders policy (budgetLimits policy) kept ≠ [] ∧
      Serves policy (selectedProviders policy (budgetLimits policy) kept) decision := by
  unfold buildProviderSelectionPolicy at h
  dsimp only at h
  split at h
  · next henabled =>
    obtain rfl := pure_eq_ok.mp h
    refine Or.inl ⟨_, rfl, Or.inl ?_⟩
    rw [List.isEmpty_iff.mp henabled]
    unfold governanceEligible
    dsimp only
    split <;> rfl
  split at h
  · next heligible =>
    obtain rfl := pure_eq_ok.mp h
    exact Or.inl ⟨_, rfl, Or.inl (List.isEmpty_iff.mp heligible)⟩
  obtain ⟨limits, hlimits, h⟩ := bind_eq_ok.mp h
  have hbudget : budgetLimits policy = limits := by simp [budgetLimits, hlimits]
  rw [hbudget]
  split at h
  · next reason hrouting =>
    obtain rfl := pure_eq_ok.mp h
    exact Or.inl ⟨_, rfl, Or.inr ⟨reason, hrouting⟩⟩
  · next kept hrouting =>
    split at h
    · next hempty =>
      obtain rfl := pure_eq_ok.mp h
      exact Or.inr (Or.inl ⟨_, kept, rfl, hrouting, List.isEmpty_iff.mp hempty⟩)
    · next hne =>
      rw [List.isEmpty_iff] at hne
      exact Or.inr (Or.inr ⟨kept, hrouting, hne, serves_of_servePolicy h⟩)

/-- The selected providers as a set. -/
theorem mem_selectedProviders {policy : ProviderSelectionPolicyInput} {kept : List String}
    (h : keptProviders policy = .ok kept) {p : String} :
    p ∈ selectedProviders policy (budgetLimits policy) kept ↔
      Approved policy.governanceConstraints p ∧
        Usable policy (routingModeOf policy.governanceConstraints) p := by
  rw [selectedProviders, mem_selectProviders]
  constructor
  · rintro (hm | ⟨-, hne, hkept, hsel⟩)
    · simp at hm
    · obtain ⟨helig, hperm⟩ := (mem_of_routingEligible h).mp hkept
      obtain ⟨hen, happ⟩ := mem_governanceEligible.mp helig
      exact ⟨happ, hne, hen, hperm, hsel⟩
  · rintro ⟨happ, hne, hen, hperm, hsel⟩
    have hkept := (mem_of_routingEligible h).mpr ⟨mem_governanceEligible.mpr ⟨hen, happ⟩, hperm⟩
    exact Or.inr ⟨mem_candidateOrder_of_eligible hkept, hne, hkept, hsel⟩

/-- Only an accepted decision has an order; its allowlists are the policy's. -/
theorem serves_of_accepted {policy : ProviderSelectionPolicyInput}
    {decision : ProviderSelectionPolicyDecision}
    (h : buildProviderSelectionPolicy policy = .ok decision)
    (haccepted : decision.rejectionReason = none) :
    Serves policy decision.providerOrder decision := by
  rcases policy_cases h with ⟨reason, rfl, -⟩ | ⟨reason, kept, rfl, -, -⟩ | ⟨kept, -, -, hserves⟩
  · cases haccepted
  · cases haccepted
  · rw [hserves.providers]
    exact hserves

/-- **The order as a set**: the approved and usable providers, whenever the policy returns. -/
theorem mem_providerOrder_iff {policy : ProviderSelectionPolicyInput}
    {decision : ProviderSelectionPolicyDecision}
    (h : buildProviderSelectionPolicy policy = .ok decision) {p : String} :
    p ∈ decision.providerOrder ↔ Approved policy.governanceConstraints p ∧
      Usable policy (routingModeOf policy.governanceConstraints) p := by
  rcases policy_cases h with ⟨reason, rfl, hnone⟩ | ⟨reason, kept, rfl, hkept, hnone⟩ |
    ⟨kept, hkept, -, hserves⟩
  · rw [rejectPolicy_order]
    refine iff_of_false List.not_mem_nil ?_
    rintro ⟨happ, hu⟩
    have hmem := mem_governanceEligible.mpr ⟨hu.enabled, happ⟩
    rcases hnone with hnone | ⟨e, herr⟩
    · rw [hnone] at hmem
      exact List.not_mem_nil hmem
    · have hno := not_permits_of_routingEligible_error herr hmem
      rw [hu.permitted] at hno
      cases hno
  · rw [rejectPolicy_order, ← mem_selectedProviders hkept, hnone]
  · rw [hserves.providers, mem_selectedProviders hkept]

/-- The providers of an order are stripped and not blank. -/
theorem strip_of_mem_providerOrder {policy : ProviderSelectionPolicyInput}
    {decision : ProviderSelectionPolicyDecision}
    (h : buildProviderSelectionPolicy policy = .ok decision) {p : String}
    (hp : p ∈ decision.providerOrder) : strip p = p :=
  (mem_lowerList ((mem_providerOrder_iff h).mp hp).2.enabled).1

/-- The allowlist stored for a provider of the order. -/
theorem allowlist_of_mem_providerOrder {policy : ProviderSelectionPolicyInput}
    {order : List String} {decision : ProviderSelectionPolicyDecision}
    (h : Serves policy order decision) {p : String} (hp : p ∈ order) :
    (Assoc.get? decision.modelAllowlistByProvider p).getD [] = policyAllowlist policy p := by
  rw [h.allowlist, Assoc.get?_map_of_mem hp, Option.getD_some]

end Governance
end HexeAiNode
