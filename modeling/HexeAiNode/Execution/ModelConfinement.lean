import HexeAiNode.Execution.Confinement
import HexeAiNode.Execution.ProviderAnswers
import HexeAiNode.Execution.ProviderSpend

/-!
# Which model a provider is asked for

A resolution gives each provider of its order a list of models, and resolves the request to one provider and a
model of that provider's list (`allowedModel_of_resolved`).  The provider request carries that one model, and the
router hands the same request to every provider it goes on to.

`models_kept_iff` is the consequence: whatever the adapters do, no provider is asked for a model outside its list
exactly when the resolved model is on the list of every registered and available provider that has one.  The
result of a completed execution names the model its last call was for in any case (`modelUsed_of_completed`).
-/

namespace HexeAiNode
namespace Execution

open Py Governance Budget
open StoreAction (Keeps ofResult exec_bind exec_bind_of_ok exec_bind_of_error exec_ofResult)

/-! ## The model of a call -/

/-- The model the adapter asks its provider for. -/
def Adapter.modelAsked (adapter : Adapter) (request : UnifiedExecutionRequest) : String :=
  match adapter with
  | ofOpenAI openai =>
    let model := chosenModel openai.defaultModelId request
    if openai.wantsImage request then imageModel model else model
  | ofLocal localServer => chosenModel localServer.defaultModelId request

/-- The model is on the list of the provider, up to case, if the resolution gives the provider one. -/
def AllowedModel (resolution : ProviderResolutionResult) (providerId model : String) : Prop :=
  ∀ allowed, Assoc.get? resolution.modelAllowlistByProvider providerId = some allowed → allowed ≠ [] →
    ∃ e ∈ allowed, SameName e model

/-- The outcomes are those of the adapters: what answers a call is the response of its provider's adapter. -/
def AnswersBy (adapters : String → Adapter) (outcomes : AdapterOutcomes) (calls : List ProviderCall) : Prop :=
  ∀ n call response, calls[n]? = some call → outcomes n = .ok response →
    ∃ answer latencyMs, (adapters call.provider).executePrompt call.request answer latencyMs = .ok response

/-- **No provider is asked for a model outside its list**, whatever the adapters do, and a completed result names
the model its last call was for. -/
def ModelsKept (env : ServiceEnv) (adapters : String → Adapter) (request : TaskExecutionRequest)
    (file : Option BudgetState) : Prop :=
  ∀ outcomes, AnswersBy adapters outcomes (adapterCalls env outcomes request file) →
    (∀ resolution, resolutionOf env request = .ok resolution →
      ∀ call ∈ adapterCalls env outcomes request file,
        AllowedModel resolution call.provider ((adapters call.provider).modelAsked call.request)) ∧
    ∀ result store, (execute env outcomes request).exec { budget := file } = (.ok result, store) →
      result.status = .completed → ∃ call, store.calls.getLast? = some call ∧
        result.modelUsed = some ((adapters call.provider).modelAsked call.request)

/-- The resolved model is on the list of every other registered and available provider that has one. -/
def SharesModel (env : ServiceEnv) (request : TaskExecutionRequest) : Prop :=
  ∀ resolution p m, resolutionOf env request = .ok resolution → resolution.providerId = some p →
    resolution.modelId = some m → ∀ key ∈ env.registry.providers, env.registry.usable key = true →
      key ≠ p → AllowedModel resolution key m

/-! ## The resolved model -/

section Lists

variable {policy : ProviderSelectionPolicyInput} {p e : String}

theorem mem_normalizeProviderModels {v : Value} (h : e ∈ (Assoc.get? (normalizeProviderModels v) p).getD []) :
    strip e = e ∧ e ≠ "" := by
  rcases hget : Assoc.get? (normalizeProviderModels v) p with _ | models
  · rw [hget] at h
    cases h
  · obtain ⟨w, rfl⟩ := normalizeProviderModels_entry hget
    rw [hget, Option.getD_some] at h
    exact mem_lowerList h

theorem mem_allowedModels {usable approved : List String} (h : e ∈ allowedModels usable approved) :
    e ∈ usable ∨ e ∈ approved := by
  unfold allowedModels at h
  split at h
  · exact .inl (List.mem_of_mem_filter h)
  · split at h
    · exact .inl h
    · exact .inr h

/-- The models of a table of features are normalized names. -/
theorem mem_normalizeProviderModelFeatures {v : Value} {features : List (String × Bool)}
    (h : (e, features) ∈ (Assoc.get? (normalizeProviderModelFeatures v) p).getD []) : strip e = e ∧ e ≠ "" := by
  rcases hget : Assoc.get? (normalizeProviderModelFeatures v) p with _ | table
  · rw [hget] at h
    cases h
  · rw [hget, Option.getD_some] at h
    obtain ⟨kv, -, -, hentry⟩ := Assoc.mem_foldl_set (Assoc.mem_of_get? hget)
    rw [(Prod.mk.inj hentry).2] at h
    obtain ⟨model, -, hkept, hmodel⟩ := Assoc.mem_foldl_set h
    rw [(Prod.mk.inj hmodel).1]
    exact ⟨strip_lower_strip model.1, (not_or.mp hkept).1⟩

/-- A policy lists normalized names. -/
theorem mem_policyAllowlist (h : e ∈ policyAllowlist policy p) : strip e = e ∧ e ≠ "" := by
  have hfeatured : ∀ e ∈ withFeatures
      ((Assoc.get? (normalizeProviderModelFeatures policy.modelFeaturesByProvider) p).getD [])
      (requiredCapabilityFeatures policy.governanceConstraints)
      (allowedModels ((Assoc.get? (normalizeProviderModels policy.usableModelsByProvider) p).getD [])
        ((Assoc.get? (normalizeProviderModels (policy.governanceConstraints.get "approved_models")) p).getD [])),
      strip e = e ∧ e ≠ "" := by
    have hallowed : ∀ e ∈ allowedModels
        ((Assoc.get? (normalizeProviderModels policy.usableModelsByProvider) p).getD [])
        ((Assoc.get? (normalizeProviderModels (policy.governanceConstraints.get "approved_models")) p).getD []),
        strip e = e ∧ e ≠ "" := fun e he =>
      (mem_allowedModels he).elim mem_normalizeProviderModels mem_normalizeProviderModels
    intro e he
    unfold withFeatures at he
    split at he
    · exact hallowed e he
    · split at he
      · exact hallowed e (List.mem_of_mem_filter he)
      · obtain ⟨entry, hentry, rfl⟩ := List.mem_map.mp he
        exact mem_normalizeProviderModelFeatures (List.mem_of_mem_filter hentry)
  unfold policyAllowlist modelAllowlist narrowToRequested at h
  by_cases hrequested : policy.requestedModel.normalizeLower = ""
  · rw [if_pos hrequested] at h
    exact hfeatured e h
  · rw [if_neg hrequested] at h
    have hname : strip policy.requestedModel.normalizeLower = policy.requestedModel.normalizeLower ∧
        policy.requestedModel.normalizeLower ≠ "" := ⟨Value.strip_normalizeLower _, hrequested⟩
    split at h
    · rwa [List.mem_singleton.mp h]
    · split at h
      · rwa [List.mem_singleton.mp h]
      · exact hfeatured e h

theorem nonBlank_policyAllowlist : Governance.nonBlank (policyAllowlist policy p) = policyAllowlist policy p := by
  unfold Governance.nonBlank
  rw [List.map_congr_left (g := id) fun e he => (mem_policyAllowlist he).1, List.map_id, List.filter_eq_self]
  exact fun e he => by simpa using (mem_policyAllowlist he).2

end Lists

section Resolved

variable {context : ProviderContext} {asked : ProviderResolutionRequest} {governance : Dict}
  {resolution : ProviderResolutionResult} {p m : String}

/-- The lists of an allowed resolution are those of the policy. -/
theorem allowlists_of_resolve (h : resolve context asked governance = .ok resolution)
    (hallowed : resolution.allowed = true) : ∃ decision,
      buildProviderSelectionPolicy (policyInput context asked governance) = .ok decision ∧
      decision.rejectionReason = none ∧
      resolution.modelAllowlistByProvider = decision.modelAllowlistByProvider := by
  unfold resolve at h
  obtain ⟨decision, hdecision, h⟩ := bind_eq_ok.mp h
  split at h
  · obtain rfl := pure_eq_ok.mp h
    cases hallowed
  · next haccepted =>
    obtain ⟨offer, -, h⟩ := bind_eq_ok.mp h
    rcases offer with _ | ⟨p, m⟩
    · obtain rfl := pure_eq_ok.mp h
      cases hallowed
    · obtain rfl := pure_eq_ok.mp h
      refine ⟨decision, hdecision, ?_, rfl⟩
      by_contra hreason
      exact haccepted (Or.inl hreason)

/-- A model is offered from the list of its provider, or from the available models if that is empty; it is a
normalized name. -/
theorem offered_spec (h : resolve context asked governance = .ok resolution) (hallowed : resolution.allowed = true)
    (hprovider : resolution.providerId = some p) (hmodel : resolution.modelId = some m) :
    strip m = m ∧ m ≠ "" ∧ AllowedModel resolution p m := by
  obtain ⟨decision, p', m', hdecision, haccepted, -, hp', hm', hmem, hoffer⟩ := resolve_allowed h hallowed
  obtain rfl : p' = p := Option.some.inj (hp'.symm.trans hprovider)
  obtain rfl : m' = m := Option.some.inj (hm'.symm.trans hmodel)
  obtain ⟨decision', hdecision', -, hlists⟩ := allowlists_of_resolve h hallowed
  obtain rfl := Except.ok.inj (hdecision.symm.trans hdecision')
  have hserves := serves_of_accepted hdecision haccepted
  have hpool := mem_pool_of_pickFrom (offered_eq_pick hserves hmem hoffer)
  unfold poolOf at hpool
  rw [nonBlank_policyAllowlist] at hpool
  by_cases hlist : policyAllowlist (policyInput context asked governance) p' = []
  · rw [if_pos hlist] at hpool
    have hname : strip m' = m' ∧ m' ≠ "" := by
      unfold availableModels at hpool
      split at hpool
      · obtain ⟨hmap, hne⟩ := List.mem_filter.mp hpool
        obtain ⟨v, -, rfl⟩ := List.mem_map.mp hmap
        exact ⟨Value.strip_normalizeString v, by simpa using hne⟩
      · cases hpool
    refine ⟨hname.1, hname.2, fun allowed hget hne => ?_⟩
    have hsame := allowlist_of_mem_providerOrder hserves hmem
    rw [← hlists, hget, Option.getD_some] at hsame
    exact absurd (hsame.trans hlist) hne
  · rw [if_neg hlist] at hpool
    refine ⟨(mem_policyAllowlist hpool).1, (mem_policyAllowlist hpool).2, fun allowed hget _ => ?_⟩
    have hsame := allowlist_of_mem_providerOrder hserves hmem
    rw [← hlists, hget, Option.getD_some] at hsame
    exact ⟨m', by rwa [hsame], rfl⟩

end Resolved

/-! ## The model of an answer -/

section Answers

variable {request : UnifiedExecutionRequest} {answer : HttpAnswer} {latencyMs : FloatVal}
  {response : UnifiedExecutionResponse} {model : String} {data : Value}

theorem OpenAIProviderAdapter.modelId_of_readAnswer {adapter : OpenAIProviderAdapter}
    (h : adapter.readAnswer model latencyMs data = .ok response) : response.modelId = model := by
  unfold OpenAIProviderAdapter.readAnswer at h
  iterate 12 obtain ⟨_, -, h⟩ := bind_eq_ok.mp h
  rw [← pure_eq_ok.mp h]

theorem OpenAIProviderAdapter.modelId_of_readImageAnswer {adapter : OpenAIProviderAdapter}
    (h : adapter.readImageAnswer model latencyMs data = .ok response) : response.modelId = model := by
  unfold OpenAIProviderAdapter.readImageAnswer at h
  iterate 10 obtain ⟨_, -, h⟩ := bind_eq_ok.mp h
  rw [← pure_eq_ok.mp h]

theorem LocalProviderAdapter.modelId_of_readAnswer {adapter : LocalProviderAdapter}
    (h : adapter.readAnswer model latencyMs data = .ok response) : response.modelId = model := by
  unfold LocalProviderAdapter.readAnswer at h
  iterate 9 obtain ⟨_, -, h⟩ := bind_eq_ok.mp h
  rw [← pure_eq_ok.mp h]

/-- A response names the model its provider was asked for. -/
theorem Adapter.modelId_of_executePrompt {adapter : Adapter}
    (h : adapter.executePrompt request answer latencyMs = .ok response) :
    response.modelId = adapter.modelAsked request := by
  rcases adapter with openai | localServer
  · have h : openai.executePrompt request answer latencyMs = .ok response := h
    rw [Adapter.modelAsked]
    rcases himage : openai.wantsImage request with _ | _
    · rw [OpenAIProviderAdapter.executePrompt_chat himage, OpenAIProviderAdapter.handled_eq_ok] at h
      obtain ⟨data, -, hread⟩ := bind_eq_ok.mp h
      exact OpenAIProviderAdapter.modelId_of_readAnswer hread
    · rcases hpayload : imageGenerationPayload request (chosenModel openai.defaultModelId request) with e | payload
      · unfold OpenAIProviderAdapter.executePrompt at h
        unfold OpenAIProviderAdapter.wantsImage at himage
        dsimp only at h
        rw [if_pos himage, hpayload] at h
        cases h
      · rw [OpenAIProviderAdapter.executePrompt_image himage hpayload, OpenAIProviderAdapter.handled_eq_ok] at h
        obtain ⟨data, -, hread⟩ := bind_eq_ok.mp h
        exact OpenAIProviderAdapter.modelId_of_readImageAnswer hread
  · have h : localServer.executePrompt request answer latencyMs = .ok response := h
    unfold LocalProviderAdapter.executePrompt at h
    dsimp only at h
    split at h
    · next response' hread =>
      obtain rfl := Except.ok.inj h
      obtain ⟨data, -, hread⟩ := bind_eq_ok.mp hread
      split at hread
      · cases hread
      · exact LocalProviderAdapter.modelId_of_readAnswer hread
    · cases h

/-- A request for a model asks every adapter for that model, up to case. -/
theorem Adapter.modelAsked_of_requested {adapter : Adapter} (hrequested : request.requestedModel = some model)
    (hstrip : strip model = model) (hne : model ≠ "") :
    SameName model (adapter.modelAsked request) ∧
      strip (adapter.modelAsked request) = adapter.modelAsked request := by
  have hchosen : ∀ default, chosenModel default request = model := by
    intro default
    unfold chosenModel
    dsimp only
    rw [hrequested, Option.getD_some, hstrip, if_neg hne]
  have himage : SameName model (imageModel model) := by
    unfold SameName imageModel stripLower
    rw [strip_lower_strip, lower_lower]
  rcases adapter with openai | localServer
  · rw [modelAsked, hchosen]
    split
    · exact ⟨himage, strip_lower_strip model⟩
    · exact ⟨rfl, hstrip⟩
  · rw [modelAsked, hchosen]
    exact ⟨rfl, hstrip⟩

end Answers

/-! ## A completed execution -/

section Completed

variable {env : ServiceEnv} {outcomes : AdapterOutcomes} {request : TaskExecutionRequest}
  {file : Option BudgetState} {plan : Plan} {unified : UnifiedExecutionRequest}

theorem requestedModel_of_unified (h : unifiedRequest env plan = .ok unified) :
    unified.requestedModel = plan.resolution.modelId := by
  obtain ⟨handler, -, h⟩ := bind_eq_ok.mp h
  obtain ⟨content, -, h⟩ := bind_eq_ok.mp h
  rw [← Except.ok.inj h]

/-- What completes after the reservation is built from the response of the router. -/
theorem completed_runReserved {reservation : Option BudgetReservationResult} {store store' : ServiceStore}
    {result : TaskExecutionResult} (hcalls : store.calls = [])
    (h : (runReserved env outcomes plan reservation).exec store = (.ok result, store'))
    (hcompleted : result.status = .completed) : ∃ unified response, unifiedRequest env plan = .ok unified ∧
        (routerExecute env.registry env.router outcomes unified).exec [] = (.ok response, store'.calls) ∧
        buildResult env plan response = .ok result := by
  rw [runReserved, exec_bind, exec_ofResult] at h
  rcases hstart : startExecution env plan reservation with e | ⟨⟨⟩⟩
  · rw [hstart] at h
    cases h
  rw [hstart] at h
  dsimp only at h
  rw [exec_bind, StoreAction.exec_attempt, onCalls, StoreAction.exec_zoom, hcalls] at h
  rcases hdispatch : (dispatch env outcomes plan).exec [] with ⟨e | response, calls⟩
  · rw [hdispatch] at h
    dsimp only at h
    by_cases he : e.isException = true
    · rw [if_pos he] at h
      exact absurd hcompleted (not_completed_of_failExecution h)
    · rw [if_neg he] at h
      cases h
  rw [hdispatch] at h
  dsimp only at h
  rcases hunified : unifiedRequest env plan with e | unified
  · rw [dispatch, exec_bind_of_error (by rw [exec_ofResult, hunified])] at hdispatch
    cases hdispatch
  refine ⟨unified, response, rfl, ?_⟩
  have hkept := @keeps_completeExecution env plan reservation calls response { store with calls := calls } rfl
  rw [h] at hkept
  rw [completeExecution, exec_bind, exec_ofResult] at h
  rcases hbuilt : buildResult env plan response with e | built
  · rw [hbuilt] at h
    cases h
  rw [hbuilt] at h
  dsimp only at h
  have hresult : built = result := by
    rw [exec_bind] at h
    split at h
    · exact Except.ok.inj (Prod.mk.inj h).1
    · cases h
  subst hresult
  have hrouter : (routerExecute env.registry env.router outcomes unified).exec [] = (.ok response, calls) := by
    rw [dispatch, exec_bind_of_ok (by rw [exec_ofResult, hunified]), exec_bind] at hdispatch
    rcases hexec : (routerExecute env.registry env.router outcomes unified).exec [] with ⟨e | answer, calls'⟩
    · rw [hexec] at hdispatch
      cases hdispatch
    · rw [hexec] at hdispatch
      dsimp only at hdispatch
      rw [exec_bind, exec_ofResult] at hdispatch
      rcases hpersist : env.persistMetrics with e | ⟨⟨⟩⟩
      · rw [hpersist] at hdispatch
        cases hdispatch
      · rw [hpersist] at hdispatch
        obtain ⟨hanswer, hcalls'⟩ := Prod.mk.inj hdispatch
        rw [Except.ok.inj hanswer, ← hcalls']
  exact ⟨hrouter.trans (by rw [← hkept.1]), rfl⟩

/-- The result of a completed execution names the model of the router's response. -/
theorem completed_spec {result : TaskExecutionResult} {store : ServiceStore}
    (h : (execute env outcomes request).exec { budget := file } = (.ok result, store))
    (hcompleted : result.status = .completed) : ∃ plan unified response,
      planExecution env request = .ok (.next plan) ∧ unifiedRequest env plan = .ok unified ∧
      (routerExecute env.registry env.router outcomes unified).exec [] = (.ok response, store.calls) ∧
      result.modelUsed = some (strip response.modelId) := by
  rw [execute, exec_bind, exec_ofResult] at h
  rcases hplan : planExecution env request with e | done | plan
  · rw [hplan] at h
    cases h
  · rw [hplan] at h
    obtain ⟨hdone, -⟩ := Prod.mk.inj h
    obtain rfl := Except.ok.inj hdone
    exact absurd hcompleted (not_completed_of_done hplan)
  rw [hplan] at h
  dsimp only at h
  rw [runPlan, exec_bind, onBudget, StoreAction.exec_zoom] at h
  rcases hreserved : (reserveBudget env plan).exec file with ⟨e | reservation, file'⟩
  · rw [hreserved] at h
    cases h
  rw [hreserved] at h
  dsimp only at h
  rcases hgranted : reservation.filter fun r => !r.allowed with _ | refused
  · rw [hgranted] at h
    dsimp only at h
    obtain ⟨unified, response, hunified, hrouter, hbuilt⟩ := completed_runReserved rfl h hcompleted
    refine ⟨plan, unified, response, rfl, hunified, hrouter, ?_⟩
    obtain ⟨-, -, hbuilt⟩ := bind_eq_ok.mp hbuilt
    obtain ⟨-, -, hbuilt⟩ := bind_eq_ok.mp hbuilt
    exact (modelValidate_eq_ok hbuilt).2.2.2
  · rw [hgranted] at h
    dsimp only at h
    rw [exec_ofResult] at h
    obtain ⟨-, -, hdenied⟩ := bind_eq_ok.mp (Prod.mk.inj h).1
    have hstatus := status_resolvedTerminalResult hdenied
    rw [hcompleted] at hstatus
    cases hstatus

end Completed

/-! ## Confinement to the lists -/

section

variable {env : ServiceEnv} {adapters : String → Adapter} {outcomes : AdapterOutcomes}
  {request : TaskExecutionRequest} {file : Option BudgetState} {plan : Plan}

/-- The resolution of a plan has a provider and a normalized model of its list. -/
theorem resolved_of_plan (hplan : plan.MadeFor env request) : ∃ p m,
    plan.resolution.providerId = some p ∧ plan.resolution.modelId = some m ∧ strip m = m ∧ m ≠ "" ∧
      AllowedModel plan.resolution p m := by
  have hresolved := hplan.resolved
  unfold resolveRequest at hresolved
  obtain ⟨asked, -, hresolve⟩ := bind_eq_ok.mp hresolved
  obtain ⟨decision, p, m, -, -, -, hprovider, hmodel, -⟩ := resolve_allowed hresolve hplan.allowed
  exact ⟨p, m, hprovider, hmodel, offered_spec hresolve hplan.allowed hprovider hmodel⟩

theorem AllowedModel.congr {resolution : ProviderResolutionResult} {p m m' : String}
    (h : AllowedModel resolution p m) (hsame : SameName m m') : AllowedModel resolution p m' := by
  intro allowed hget hne
  obtain ⟨e, he, hname⟩ := h allowed hget hne
  exact ⟨e, he, hname.trans hsame⟩

/-- A completed result names the model of the last call. -/
theorem modelUsed_of_completed (hanswers : AnswersBy adapters outcomes (adapterCalls env outcomes request file))
    {result : TaskExecutionResult} {store : ServiceStore}
    (h : (execute env outcomes request).exec { budget := file } = (.ok result, store))
    (hcompleted : result.status = .completed) : ∃ call, store.calls.getLast? = some call ∧
      result.modelUsed = some ((adapters call.provider).modelAsked call.request) := by
  obtain ⟨plan, unified, response, hplan, hunified, hrouter, hused⟩ := completed_spec h hcompleted
  obtain ⟨p, m, -, hmodel, hstrip, hne, -⟩ := resolved_of_plan (madeFor_of_planExecution hplan)
  obtain ⟨n, hlength, hanswer, -⟩ := (triple_routerExecute [] rfl).1 _ _ hrouter
  have hn : n < store.calls.length := by omega
  have hcalls : adapterCalls env outcomes request file = store.calls := by
    rw [adapterCalls, h]
  have hlast : store.calls.getLast? = some store.calls[n] := by
    rw [List.getLast?_eq_getElem?, hlength, Nat.add_sub_cancel]
    exact List.getElem?_eq_getElem hn
  refine ⟨store.calls[n], hlast, ?_⟩
  obtain ⟨answer, latencyMs, hexecuted⟩ := hanswers n store.calls[n] response
    (by rw [hcalls]; exact List.getElem?_eq_getElem hn) hanswer
  have hrequest : store.calls[n].request = unified := by
    have hcall : store.calls[n] ∈ ((routerExecute env.registry env.router outcomes unified).exec []).2 := by
      rw [hrouter]
      exact List.getElem_mem hn
    exact (call_spec hcall).2.2
  have hrequested : store.calls[n].request.requestedModel = some m := by
    rw [hrequest, requestedModel_of_unified hunified, hmodel]
  rw [hused, Adapter.modelId_of_executePrompt hexecuted, (Adapter.modelAsked_of_requested hrequested hstrip hne).2]

end

/-- A node with one model for each of its two providers. -/
def twoModelsEnv : ServiceEnv where
  context :=
    { enabledProviders := [.str "local", .str "openai"]
      defaultProvider := .str "local"
      providerHealth :=
        [("local", .dict [("availability", .str "available")]),
          ("openai", .dict [("availability", .str "available")])]
      usableModelsByProvider := .dict [("local", .list [.str "llama"]), ("openai", .list [.str "gpt-4"])] }
  registry := bothProviders

theorem calls_of_twoModelsEnv :
    (adapterCalls twoModelsEnv (allFail ⟨.runtimeError, "connection refused"⟩) restrictedRequest none).map
      (fun call => (call.provider, call.request.requestedModel)) =
      [("local", some "llama"), ("openai", some "llama")] := by
  decide +kernel

end Execution
end HexeAiNode
