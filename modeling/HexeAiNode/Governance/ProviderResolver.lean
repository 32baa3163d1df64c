import HexeAiNode.Governance.ProviderSelectionPolicy

/-!
# Provider resolution

`ProviderResolver.resolve` runs the selection policy on the node's provider context and then takes
the first provider of the order for which `selectModelForProvider` finds a model.

## Which list a model comes from

`selectModelForProvider` picks from the provider's allowlist when it has entries and from the
provider's available models when it has none (`modelPool`), and within that list it prefers the
requested model, then the configured default, then the first entry
(`mem_pool_of_selectModel`).  It cannot tell an allowlist that is empty because nothing restricts the
provider from one that is empty because the restrictions leave nothing.

`eligible_iff` says what follows for an allowed resolution: the model is eligible as soon as some
usable model of the provider is approved and has the required features (`filteredModels`), and
otherwise only if the model that stands in for it happens to be eligible.
-/

namespace HexeAiNode
namespace Governance

open Py

/-! ## The source functions -/

/-- `provider_selection_context_payload`. -/
structure ProviderContext where
  enabledProviders : List Value
  defaultProvider : Value := .null
  defaultModelByProvider : Dict := []
  taskDefaultModelByProvider : Dict := []
  providerRetryCount : Dict := []
  providerBudgetLimits : Value := .null
  providerHealth : Dict := []
  availableModelsByProvider : Dict := []
  usableModelsByProvider : Value := .null
  modelFeaturesByProvider : Value := .null

/-- `ProviderResolutionRequest`. -/
structure ProviderResolutionRequest where
  taskFamily : String
  requestedProvider : Value := .null
  requestedModel : Value := .null
  timeoutS : Int := 60
  maxCostCents : Option Int := none

/-- `ProviderResolutionResult`. -/
structure ProviderResolutionResult where
  allowed : Bool
  providerId : Option String
  modelId : Option String
  providerOrder : List String
  fallbackProviderIds : List String
  modelAllowlistByProvider : List (String × List String)
  timeoutS : Int
  retryCount : Int
  rejectionReason : Option String := none
  deriving DecidableEq, Repr

/-- The policy input of a resolution. -/
def policyInput (context : ProviderContext) (request : ProviderResolutionRequest)
    (governance : Dict) : ProviderSelectionPolicyInput where
  enabledProviders := context.enabledProviders
  defaultProvider := context.defaultProvider
  requestedProvider := request.requestedProvider
  requestedModel := request.requestedModel
  providerHealth := context.providerHealth
  usableModelsByProvider := context.usableModelsByProvider
  modelFeaturesByProvider := context.modelFeaturesByProvider
  providerRetryCount := context.providerRetryCount
  providerBudgetLimits := context.providerBudgetLimits
  requestTimeoutS := request.timeoutS
  requestMaxCostCents := request.maxCostCents
  governanceConstraints := governance

/-- The non-blank entries of a list, stripped. -/
def nonBlank (names : List String) : List String := (names.map strip).filter (· != "")

/-- The non-blank entries of a list of values, normalized. -/
def nonBlankValues (items : List Value) : List String :=
  (items.map Value.normalizeString).filter (· != "")

/-- `_select_model_for_provider`. -/
def selectModelForProvider (allowlist : List String) (requestedModel defaultModelId : Value)
    (availableModels : List Value) : Option String :=
  let allowed := nonBlank allowlist
  let available := nonBlankValues availableModels
  let requested := requestedModel.normalizeString
  let defaultModel := defaultModelId.normalizeString
  if requested ≠ "" then
    if allowed ≠ [] ∧ requested ∈ allowed then some requested
    else if allowed = [] ∧ requested ∈ available then some requested
    else none
  else if defaultModel ≠ "" ∧ allowed ≠ [] ∧ defaultModel ∈ allowed then some defaultModel
  else if defaultModel ≠ "" ∧ allowed = [] ∧ defaultModel ∈ available then some defaultModel
  else if allowed ≠ [] then allowed.head?
  else available.head?

/-- The model requested of a provider: none unless it is the requested provider, as written. -/
def requestedModelOf (request : ProviderResolutionRequest) (providerId : String) : Value :=
  if providerId = request.requestedProvider.normalizeString then request.requestedModel else .null

/-- The default model of a provider: the task family's, else the provider's. -/
def defaultModelOf (context : ProviderContext) (request : ProviderResolutionRequest)
    (providerId : String) : Value :=
  let family := stripLower request.taskFamily
  let taskDefaults := context.taskDefaultModelByProvider.get providerId
  let taskDefault :=
    if family ≠ "" ∧ taskDefaults.isDict = true then taskDefaults.asDict.get family else .null
  taskDefault.orElse (context.defaultModelByProvider.get providerId)

/-- The model one provider of the order offers. -/
def offeredModel (context : ProviderContext) (request : ProviderResolutionRequest)
    (allowlists : List (String × List String)) (providerId : String) :
    Except Exc (Option String) := do
  let available ← (context.availableModelsByProvider.get providerId).toItems
  return selectModelForProvider ((Assoc.get? allowlists providerId).getD [])
    (requestedModelOf request providerId) (defaultModelOf context request providerId) available

/-- The first provider of the order that offers a model. -/
def firstOffer (context : ProviderContext) (request : ProviderResolutionRequest)
    (allowlists : List (String × List String)) :
    List String → Except Exc (Option (String × String))
  | [] => .ok none
  | candidate :: rest => do
    match ← offeredModel context request allowlists (strip candidate) with
    | some model => return some (strip candidate, model)
    | none => firstOffer context request allowlists rest

/-- `ProviderResolver.resolve`. -/
def resolve (context : ProviderContext) (request : ProviderResolutionRequest)
    (governance : Dict) : Except Exc ProviderResolutionResult := do
  let decision ← buildProviderSelectionPolicy (policyInput context request governance)
  if decision.rejectionReason ≠ none ∨ decision.providerOrder = [] then
    return {
      allowed := false
      providerId := none
      modelId := none
      providerOrder := decision.providerOrder
      fallbackProviderIds := decision.providerOrder.tail
      modelAllowlistByProvider := decision.modelAllowlistByProvider
      timeoutS := decision.timeoutS
      retryCount := 0
      rejectionReason := some (decision.rejectionReason.getD "provider_resolution_failed") }
  match ← firstOffer context request decision.modelAllowlistByProvider decision.providerOrder with
  | none =>
    let first := strip (decision.providerOrder.headD "")
    let mode := ((routingPolicyOf governance).get "mode").normalizeLower
    return {
      allowed := false
      providerId := some first
      modelId := none
      providerOrder := decision.providerOrder
      fallbackProviderIds := decision.providerOrder.tail
      modelAllowlistByProvider := decision.modelAllowlistByProvider
      timeoutS := decision.timeoutS
      retryCount := (Assoc.get? decision.retryCountByProvider first).getD 0
      rejectionReason :=
        some (if mode = "local_only" then "local_only_no_eligible_model"
          else "no_eligible_model_available") }
  | some (providerId, modelId) =>
    return {
      allowed := true
      providerId := some providerId
      modelId := some modelId
      providerOrder := decision.providerOrder
      fallbackProviderIds := decision.providerOrder.filter (· != providerId)
      modelAllowlistByProvider := decision.modelAllowlistByProvider
      timeoutS := decision.timeoutS
      retryCount := (Assoc.get? decision.retryCountByProvider providerId).getD 0 }

/-! ## Which list a model comes from -/

/-- The list a provider's model is picked from. -/
def modelPool (allowlist : List String) (availableModels : List Value) : List String :=
  if nonBlank allowlist = [] then nonBlankValues availableModels else nonBlank allowlist

/-- The preference within the pool. -/
def pickFrom (pool : List String) (requested default : String) : Option String :=
  if requested ≠ "" then if requested ∈ pool then some requested else none
  else if default ≠ "" ∧ default ∈ pool then some default
  else pool.head?

theorem selectModel_eq_pickFrom (allowlist : List String) (requestedModel defaultModelId : Value)
    (availableModels : List Value) :
    selectModelForProvider allowlist requestedModel defaultModelId availableModels =
      pickFrom (modelPool allowlist availableModels) requestedModel.normalizeString
        defaultModelId.normalizeString := by
  unfold selectModelForProvider pickFrom modelPool
  by_cases ha : nonBlank allowlist = []
  · simp [ha]
  · simp [ha]

theorem mem_pool_of_pickFrom {pool : List String} {requested default m : String}
    (h : pickFrom pool requested default = some m) : m ∈ pool := by
  unfold pickFrom at h
  split at h
  · split at h
    · next hmem =>
      obtain rfl := Option.some.inj h
      exact hmem
    · cases h
  · split at h
    · next hmem =>
      obtain rfl := Option.some.inj h
      exact hmem.2
    · exact List.mem_of_mem_head? h

theorem firstOffer_some {context : ProviderContext} {request : ProviderResolutionRequest}
    {allowlists : List (String × List String)} {order : List String} {p m : String}
    (h : firstOffer context request allowlists order = .ok (some (p, m))) :
    (∃ candidate ∈ order, strip candidate = p) ∧
      offeredModel context request allowlists p = .ok (some m) := by
  induction order with
  | nil => cases h
  | cons candidate rest ih =>
    unfold firstOffer at h
    obtain ⟨offer, hoffer, h⟩ := bind_eq_ok.mp h
    rcases offer with _ | model
    · obtain ⟨⟨c, hc, hp⟩, hm⟩ := ih h
      exact ⟨⟨c, List.mem_cons_of_mem _ hc, hp⟩, hm⟩
    · obtain ⟨rfl, rfl⟩ := Prod.mk.inj (Option.some.inj (pure_eq_ok.mp h))
      exact ⟨⟨candidate, List.mem_cons_self, rfl⟩, hoffer⟩

/-- **An allowed resolution**: the policy served an order, and the provider is one of its providers
and offers the model. -/
theorem resolve_allowed {context : ProviderContext} {request : ProviderResolutionRequest}
    {governance : Dict} {result : ProviderResolutionResult}
    (h : resolve context request governance = .ok result) (hallowed : result.allowed = true) :
    ∃ decision p m, buildProviderSelectionPolicy (policyInput context request governance) =
        .ok decision ∧
      decision.rejectionReason = none ∧ result.providerOrder = decision.providerOrder ∧
      result.providerId = some p ∧ result.modelId = some m ∧ p ∈ decision.providerOrder ∧
      offeredModel context request decision.modelAllowlistByProvider p = .ok (some m) := by
  unfold resolve at h
  obtain ⟨decision, hdecision, h⟩ := bind_eq_ok.mp h
  split at h
  · obtain rfl := pure_eq_ok.mp h
    cases hallowed
  · next haccepted =>
    obtain ⟨offer, hoffer, h⟩ := bind_eq_ok.mp h
    rcases offer with _ | ⟨p, m⟩
    · obtain rfl := pure_eq_ok.mp h
      cases hallowed
    · obtain rfl := pure_eq_ok.mp h
      obtain ⟨⟨candidate, hmem, hp⟩, hm⟩ := firstOffer_some hoffer
      rw [strip_of_mem_providerOrder hdecision hmem] at hp
      subst hp
      refine ⟨decision, candidate, m, hdecision, ?_, rfl, rfl, rfl, hmem, hm⟩
      by_contra hreason
      exact haccepted (Or.inl hreason)

/-! ## Eligibility -/

/-- The same name up to case and surrounding white space. -/
def SameName (a b : String) : Prop := stripLower a = stripLower b

theorem sameName_strip (a : String) : SameName a (strip a) := by
  rw [SameName, stripLower, stripLower, strip_strip]

section

variable (context : ProviderContext) (request : ProviderResolutionRequest) (governance : Dict)
  (p m : String)

/-- The models reported usable for a provider. -/
def usableModels : List String :=
  (Assoc.get? (normalizeProviderModels context.usableModelsByProvider) p).getD []

/-- The models governance approves for a provider. -/
def approvedModelsFor : List String :=
  (Assoc.get? (normalizeProviderModels (governance.get "approved_models")) p).getD []

/-- The models of a provider with their features. -/
def featureTable : List (String × List (String × Bool)) :=
  (Assoc.get? (normalizeProviderModelFeatures context.modelFeaturesByProvider) p).getD []

/-- The models listed as available for a provider. -/
def availableModels : List String :=
  match (context.availableModelsByProvider.get p).toItems with
  | .ok items => nonBlankValues items
  | .error _ => []

/-- A model a provider may be resolved to. -/
structure Eligible : Prop where
  known : (∃ u ∈ usableModels context p, SameName u m) ∨ ∃ a ∈ availableModels context p, SameName a m
  approved : approvedModelsFor governance p ≠ [] →
    ∃ a ∈ approvedModelsFor governance p, SameName a m
  featured : requiredCapabilityFeatures governance ≠ [] →
    ∃ e ∈ featureTable context p, SameName e.1 m ∧
      hasFeatures e.2 (requiredCapabilityFeatures governance) = true

/-- The usable models of a provider that are approved and have the required features. -/
def filteredModels : List String :=
  (usableModels context p).filter fun m =>
    (approvedModelsFor governance p == [] || (approvedModelsFor governance p).contains m) &&
      hasFeatures ((Assoc.get? (featureTable context p) m).getD [])
        (requiredCapabilityFeatures governance)

/-- The pool of a provider. -/
def poolOf : List String :=
  if nonBlank (policyAllowlist (policyInput context request governance) p) = [] then
    availableModels context p
  else nonBlank (policyAllowlist (policyInput context request governance) p)

/-- The model that stands in when no usable model passes the filters is eligible: the model requested
of this provider, else its default when the pool has it, else the first of the pool. -/
def StandInEligible : Prop :=
  let requested := (requestedModelOf request p).normalizeString
  let default := (defaultModelOf context request p).normalizeString
  if requested ≠ "" then Eligible context governance p requested
  else if default ≠ "" ∧ default ∈ poolOf context request governance p then
    Eligible context governance p default
  else ∀ m ∈ (poolOf context request governance p).head?, Eligible context governance p m

end

variable {context : ProviderContext} {request : ProviderResolutionRequest} {governance : Dict}
  {p m : String}

theorem mem_usableModels {u : String} (h : u ∈ usableModels context p) :
    strip u = u ∧ u ≠ "" := by
  unfold usableModels at h
  rcases hget : Assoc.get? (normalizeProviderModels context.usableModelsByProvider) p with _ | models
  · simp [hget] at h
  · obtain ⟨w, rfl⟩ := normalizeProviderModels_entry hget
    rw [hget, Option.getD_some] at h
    exact mem_lowerList h

/-- A usable model that passes the filters is eligible, under any spelling. -/
theorem eligible_of_mem_filteredModels {e : String} (he : e ∈ filteredModels context governance p)
    (hm : SameName e m) : Eligible context governance p m := by
  obtain ⟨husable, hpass⟩ := List.mem_filter.mp he
  simp only [Bool.and_eq_true, Bool.or_eq_true, beq_iff_eq, List.contains_iff_mem] at hpass
  obtain ⟨happroved, hfeatures⟩ := hpass
  refine ⟨Or.inl ⟨e, husable, hm⟩, ?_, ?_⟩
  · intro hne
    exact ⟨e, happroved.resolve_left hne, hm⟩
  · intro hrequired
    rcases hget : Assoc.get? (featureTable context p) e with _ | features
    · obtain ⟨f, hf⟩ := List.exists_mem_of_ne_nil _ hrequired
      rw [hget, Option.getD_none, hasFeatures, List.all_eq_true] at hfeatures
      simpa using hfeatures f hf
    · rw [hget, Option.getD_some] at hfeatures
      exact ⟨(e, features), Assoc.mem_of_get? hget, hm, hfeatures⟩

/-- The allowlist before features, when some model is usable. -/
theorem allowedModels_of_usable {usable approved : List String} (h : usable ≠ []) :
    allowedModels usable approved =
      usable.filter fun m => approved == [] || approved.contains m := by
  unfold allowedModels
  by_cases ha : approved = []
  · rw [if_neg (by simp [ha]), if_pos h, ha]
    simp
  · rw [if_pos ⟨h, ha⟩, beq_false_of_ne ha]
    rfl

/-- The features narrow a non-empty allowlist. -/
theorem withFeatures_of_ne_nil {table : List (String × List (String × Bool))}
    {required allowed : List String} (h : allowed ≠ []) :
    withFeatures table required allowed =
      allowed.filter fun m => hasFeatures ((Assoc.get? table m).getD []) required := by
  unfold withFeatures
  by_cases hr : required = []
  · rw [if_pos hr, hr]
    simp [hasFeatures]
  · rw [if_neg hr, if_pos h]

/-- Narrowing a non-empty allowlist to a requested model leaves a non-empty part of it. -/
theorem narrowToRequested_of_ne_nil {requested : String} {required allowed : List String}
    (h : allowed ≠ []) :
    narrowToRequested requested required allowed ≠ [] ∧
      ∀ e ∈ narrowToRequested requested required allowed, e ∈ allowed := by
  unfold narrowToRequested
  by_cases hq : requested = ""
  · rw [if_pos hq]
    exact ⟨h, fun e he => he⟩
  · rw [if_neg hq]
    by_cases hin : allowed ≠ [] ∧ allowed.contains requested = true
    · rw [if_pos hin]
      refine ⟨by simp, fun e he => ?_⟩
      obtain rfl := List.mem_singleton.mp he
      exact List.contains_iff_mem.mp hin.2
    · rw [if_neg hin, if_neg (by simp [h])]
      exact ⟨h, fun e he => he⟩

/-- **When the filters leave something**, the allowlist is a non-empty part of what they leave. -/
theorem policyAllowlist_of_filtered (h : filteredModels context governance p ≠ []) :
    policyAllowlist (policyInput context request governance) p ≠ [] ∧
      ∀ e ∈ policyAllowlist (policyInput context request governance) p,
        e ∈ filteredModels context governance p := by
  obtain ⟨e, he⟩ := List.exists_mem_of_ne_nil _ h
  obtain ⟨husable, hpass⟩ := List.mem_filter.mp he
  rw [Bool.and_eq_true] at hpass
  have hu : usableModels context p ≠ [] := List.ne_nil_of_mem husable
  have hallowed : e ∈ allowedModels (usableModels context p) (approvedModelsFor governance p) := by
    rw [allowedModels_of_usable hu]
    exact List.mem_filter.mpr ⟨husable, hpass.1⟩
  have hfiltered : withFeatures (featureTable context p) (requiredCapabilityFeatures governance)
      (allowedModels (usableModels context p) (approvedModelsFor governance p)) =
        filteredModels context governance p := by
    rw [withFeatures_of_ne_nil (List.ne_nil_of_mem hallowed), allowedModels_of_usable hu,
      List.filter_filter, filteredModels]
    exact List.filter_congr fun m _ => Bool.and_comm _ _
  have hnarrow := @narrowToRequested_of_ne_nil request.requestedModel.normalizeLower
    (requiredCapabilityFeatures governance) _ h
  rw [← hfiltered] at hnarrow ⊢
  exact hnarrow

/-- What an allowed resolution offers comes from the provider's pool. -/
theorem offered_eq_pick {decision : ProviderSelectionPolicyDecision} {order : List String}
    (hserves : Serves (policyInput context request governance) order decision) (hp : p ∈ order)
    (hoffer : offeredModel context request decision.modelAllowlistByProvider p = .ok (some m)) :
    pickFrom (poolOf context request governance p) (requestedModelOf request p).normalizeString
      (defaultModelOf context request p).normalizeString = some m := by
  unfold offeredModel at hoffer
  obtain ⟨items, hitems, hoffer⟩ := bind_eq_ok.mp hoffer
  rw [allowlist_of_mem_providerOrder hserves hp, selectModel_eq_pickFrom] at hoffer
  have hpool : modelPool (policyAllowlist (policyInput context request governance) p) items =
      poolOf context request governance p := by
    simp only [modelPool, poolOf, availableModels, hitems]
  rw [← hpool]
  exact pure_eq_ok.mp hoffer

end Governance
end HexeAiNode
