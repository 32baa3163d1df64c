import HexeAiNode.Library.StoreAction
import HexeAiNode.Python.Coercion

/-!
# The provider execution router

`ProviderExecutionRouter.execute` asks one provider after the other until one answers: the requested
one, the router's default, its fallback, and then every registered provider.  A provider that is not
registered or not reported available is passed over; one that raises is asked again as often as the
router retries, and then passed over too.

The store of an execution is the list of the calls made so far.  The adapters are an oracle: the
outcome of the n-th call is `adapter n`, so every sequence of answers and failures is some `adapter`.

`exists_call_iff` says which providers can be called: whatever was requested, the registered and
available ones, each of them.  `routerExecute_ok_iff` says that an answered call is the last one and its response
the result.
-/

namespace HexeAiNode
namespace Execution

open Py
open StoreAction (Keeps Triple read write ofResult exec_bind_of_ok)

/-! ## The source functions -/

/-- `UnifiedExecutionRequest`. -/
structure UnifiedExecutionRequest where
  taskFamily : String
  prompt : Option String := none
  systemPrompt : Option String := none
  messages : List Value := []
  requestedProvider : Option String := none
  requestedModel : Option String := none
  temperature : Option FloatVal := none
  maxTokens : Option Int := none
  metadata : Dict := []

/-- `UnifiedExecutionResponse`, with its usage. -/
structure UnifiedExecutionResponse where
  providerId : String
  modelId : String
  outputText : String
  finishReason : Option String := none
  promptTokens : Int := 0
  cachedInputTokens : Int := 0
  completionTokens : Int := 0
  totalTokens : Int := 0
  latencyMs : FloatVal := .finite 0
  estimatedCost : Option FloatVal := none

/-- `ProviderRegistry`: the names of the registered adapters, and the last health report of each.
`register_provider` strips a name and refuses a blank one. -/
structure ProviderRegistry where
  providers : List String
  registered : ∀ key ∈ providers, strip key = key ∧ key ≠ "" := by decide
  health : Dict := []

/-- `list_providers`. -/
def ProviderRegistry.listProviders (registry : ProviderRegistry) : List String :=
  registry.providers.insertionSort fun a b => a.toList ≤ b.toList

/-- The availability the router reads from a health report. -/
def ProviderRegistry.availability (registry : ProviderRegistry) (providerId : String) : String :=
  let reported := Dict.get (Dict.get registry.health (strip providerId)).asDict "availability"
  if reported.truthy then reported.toStr else "unavailable"

/-- The provider is registered and reported available or degraded. -/
def ProviderRegistry.usable (registry : ProviderRegistry) (providerId : String) : Bool :=
  registry.providers.contains (strip providerId) &&
    ["available", "degraded"].contains (registry.availability providerId)

/-- The settings of a `ProviderExecutionRouter`. -/
structure RouterConfig where
  defaultProvider : Option String := none
  fallbackProvider : Option String := none
  retryCount : Nat := 0

/-- One call of `adapter.execute_prompt`: the name the adapter is registered under, and what it
receives. -/
structure ProviderCall where
  provider : String
  request : UnifiedExecutionRequest

/-- The outcomes of the adapter calls of one execution, in order. -/
abbrev AdapterOutcomes := Nat → Except Exc UnifiedExecutionResponse

/-- A computation that calls adapters. -/
abbrev RouterAction := StoreAction (List ProviderCall) Exc

/-- Add a provider to the order unless it is there. -/
def appendNew (order : List String) (providerId : String) : List String :=
  if providerId ∈ order then order else order ++ [providerId]

/-- Add a configured provider to the order, if there is one. -/
def appendConfigured (order : List String) (providerId : Option String) : List String :=
  match providerId with
  | none => order
  | some p => if p = "" then order else appendNew order p

/-- The order in which `execute` goes through the providers. -/
def providerOrder (registry : ProviderRegistry) (config : RouterConfig)
    (request : UnifiedExecutionRequest) : List String :=
  let requested := strip (request.requestedProvider.getD "")
  let order := if requested = "" then [] else [requested]
  let order := appendConfigured order config.defaultProvider
  let order := appendConfigured order config.fallbackProvider
  registry.listProviders.foldl appendNew order

/-- `adapter.execute_prompt`, with the recording of its success. -/
def executePrompt (adapter : AdapterOutcomes) (providerId : String)
    (request : UnifiedExecutionRequest) : RouterAction UnifiedExecutionResponse := do
  let calls ← read
  write (calls ++ [{ provider := strip providerId, request := request }])
  ofResult (adapter calls.length)

/-- What the attempts at one provider end with. -/
inductive AttemptResult where
  | answered (response : UnifiedExecutionResponse)
  | failed (firstError : Option Exc)

/-- The attempts at one provider.  Only an `Exception` counts as a failure of the attempt. -/
def attempts (adapter : AdapterOutcomes) (providerId : String)
    (request : UnifiedExecutionRequest) : Nat → Option Exc → RouterAction AttemptResult
  | 0, firstError => pure (.failed firstError)
  | n + 1, firstError =>
    StoreAction.recover
      (do
        let response ← executePrompt adapter providerId request
        pure (.answered response))
      fun e =>
        if e.isException then attempts adapter providerId request n (some (firstError.getD e))
        else throw e

/-- The loop over the providers. -/
def tryProviders (registry : ProviderRegistry) (config : RouterConfig) (adapter : AdapterOutcomes)
    (request : UnifiedExecutionRequest) :
    List String → Option Exc → RouterAction UnifiedExecutionResponse
  | [], firstError =>
    throw ⟨.runtimeError, (firstError.map Exc.text).getD "provider_execution_failed"⟩
  | providerId :: rest, firstError =>
    if registry.usable providerId then do
      let result ← attempts adapter providerId request (config.retryCount + 1) firstError
      match result with
      | .answered response => pure response
      | .failed firstError => tryProviders registry config adapter request rest firstError
    else tryProviders registry config adapter request rest firstError

/-- `ProviderExecutionRouter.execute`. -/
def routerExecute (registry : ProviderRegistry) (config : RouterConfig) (adapter : AdapterOutcomes)
    (request : UnifiedExecutionRequest) : RouterAction UnifiedExecutionResponse :=
  let order := providerOrder registry config request
  if order = [] then throw ⟨.runtimeError, "no_provider_configured"⟩
  else tryProviders registry config adapter request order none

/-! ## Which providers are called -/

section

variable {registry : ProviderRegistry} {config : RouterConfig} {adapter : AdapterOutcomes}
  {request : UnifiedExecutionRequest} {providerId : String}

/-- Every call is one of these. -/
def CallsOnly (S : ProviderCall → Prop) (calls : List ProviderCall) : Prop :=
  ∀ call ∈ calls, S call

theorem keeps_executePrompt {S : ProviderCall → Prop} (h : S ⟨strip providerId, request⟩) :
    Keeps (CallsOnly S) (executePrompt adapter providerId request) fun _ => True := by
  refine Keeps.read.bind fun calls hcalls => ?_
  refine (Keeps.write ?_).bind fun _ _ => Keeps.ofResult fun _ _ => trivial
  intro call hcall
  rcases List.mem_append.mp hcall with hcall | hcall
  · exact hcalls call hcall
  · obtain rfl := List.mem_singleton.mp hcall
    exact h

theorem keeps_attempts {S : ProviderCall → Prop} (h : S ⟨strip providerId, request⟩) (n : Nat)
    (firstError : Option Exc) :
    Keeps (CallsOnly S) (attempts adapter providerId request n firstError) fun _ => True := by
  induction n generalizing firstError with
  | zero => exact Keeps.pure trivial
  | succ n ih =>
    refine Keeps.recover ?_ fun e => ?_
    · exact (keeps_executePrompt h).bind fun _ _ => Keeps.pure trivial
    · exact Keeps.ite (fun _ => ih _) fun _ => Keeps.throw

theorem keeps_tryProviders {S : ProviderCall → Prop}
    (h : ∀ p, registry.usable p = true → S ⟨strip p, request⟩) (order : List String)
    (firstError : Option Exc) :
    Keeps (CallsOnly S) (tryProviders registry config adapter request order firstError)
      fun _ => True := by
  induction order generalizing firstError with
  | nil => exact Keeps.throw
  | cons p rest ih =>
    refine Keeps.ite (fun husable => ?_) fun _ => ih firstError
    refine (keeps_attempts (h p husable) _ firstError).bind fun result _ => ?_
    rcases result with response | firstError
    · exact Keeps.pure trivial
    · exact ih firstError

theorem keeps_routerExecute {S : ProviderCall → Prop}
    (h : ∀ p, registry.usable p = true → S ⟨strip p, request⟩) :
    Keeps (CallsOnly S) (routerExecute registry config adapter request) fun _ => True :=
  Keeps.ite (fun _ => Keeps.throw) fun _ => keeps_tryProviders h _ none

/-! ## When every attempt fails -/

/-- The outcomes when every call raises the same exception. -/
def allFail (e : Exc) : AdapterOutcomes := fun _ => .error e

variable {e : Exc}

theorem exec_executePrompt_allFail (calls : List ProviderCall) :
    (executePrompt (allFail e) providerId request).exec calls =
      (.error e, calls ++ [{ provider := strip providerId, request := request }]) := rfl

/-- Failing attempts make one call each, and the calls before them stay. -/
theorem exec_attempts_allFail (he : e.isException = true) (n : Nat) (firstError : Option Exc)
    (calls : List ProviderCall) :
    ∃ firstError', (attempts (allFail e) providerId request n firstError).exec calls =
      (.ok (.failed firstError'),
        calls ++ List.replicate n { provider := strip providerId, request := request }) := by
  induction n generalizing firstError calls with
  | zero => exact ⟨firstError, by rw [List.replicate_zero, List.append_nil]; rfl⟩
  | succ n ih =>
    obtain ⟨firstError', hrest⟩ := ih (some (firstError.getD e))
      (calls ++ [{ provider := strip providerId, request := request }])
    refine ⟨firstError', ?_⟩
    rw [attempts, StoreAction.exec_recover,
      StoreAction.exec_bind_of_error (exec_executePrompt_allFail calls)]
    dsimp only
    rw [if_pos he, hrest, List.append_assoc, List.singleton_append, List.replicate_succ]

/-- When every attempt fails, every usable provider of the order is called. -/
theorem called_of_allFail (he : e.isException = true) (order : List String)
    (firstError : Option Exc) (calls : List ProviderCall) :
    (∀ call ∈ calls, call ∈
      ((tryProviders registry config (allFail e) request order firstError).exec calls).2) ∧
    ∀ p ∈ order, registry.usable p = true → { provider := strip p, request := request } ∈
      ((tryProviders registry config (allFail e) request order firstError).exec calls).2 := by
  induction order generalizing firstError calls with
  | nil => exact ⟨fun call hcall => hcall, fun p hp => absurd hp List.not_mem_nil⟩
  | cons q rest ih =>
    by_cases husable : registry.usable q = true
    · obtain ⟨firstError', hattempts⟩ := @exec_attempts_allFail request q e he
        (config.retryCount + 1) firstError calls
      have hexec : (tryProviders registry config (allFail e) request (q :: rest) firstError).exec
          calls = (tryProviders registry config (allFail e) request rest firstError').exec
            (calls ++ List.replicate (config.retryCount + 1)
              { provider := strip q, request := request }) := by
        rw [tryProviders, if_pos husable, exec_bind_of_ok hattempts]
      rw [hexec]
      obtain ⟨hkept, hcalled⟩ := ih firstError' (calls ++ List.replicate (config.retryCount + 1)
        { provider := strip q, request := request })
      refine ⟨fun call hcall => hkept call (List.mem_append_left _ hcall), ?_⟩
      intro p hp hpusable
      rcases List.mem_cons.mp hp with rfl | hp
      · refine hkept _ (List.mem_append_right _ ?_)
        rw [List.replicate_succ]
        exact List.mem_cons_self
      · exact hcalled p hp hpusable
    · have hexec : tryProviders registry config (allFail e) request (q :: rest) firstError =
          tryProviders registry config (allFail e) request rest firstError := by
        rw [tryProviders, if_neg husable]
      rw [hexec]
      obtain ⟨hkept, hcalled⟩ := ih firstError calls
      refine ⟨hkept, ?_⟩
      intro p hp hpusable
      rcases List.mem_cons.mp hp with rfl | hp
      · exact absurd hpusable husable
      · exact hcalled p hp hpusable

end

/-! ## The order -/

theorem mem_appendNew {order : List String} {p q : String} :
    q ∈ appendNew order p ↔ q ∈ order ∨ q = p := by
  unfold appendNew
  split
  · next h =>
    refine ⟨Or.inl, ?_⟩
    rintro (hq | rfl)
    · exact hq
    · exact h
  · rw [List.mem_append, List.mem_singleton]

theorem mem_foldl_appendNew {providers order : List String} {q : String} :
    q ∈ providers.foldl appendNew order ↔ q ∈ order ∨ q ∈ providers := by
  induction providers generalizing order with
  | nil => simp
  | cons p providers ih =>
    rw [List.foldl_cons, ih, mem_appendNew, List.mem_cons, or_assoc]

/-- Every registered provider is in the order. -/
theorem mem_providerOrder_of_registered {registry : ProviderRegistry} {config : RouterConfig}
    {request : UnifiedExecutionRequest} {key : String} (h : key ∈ registry.providers) :
    key ∈ providerOrder registry config request := by
  refine mem_foldl_appendNew.mpr (Or.inr ?_)
  exact (List.mem_insertionSort _).mpr h

theorem usable_strip (registry : ProviderRegistry) (p : String) :
    registry.usable (strip p) = registry.usable p := by
  simp only [ProviderRegistry.usable, ProviderRegistry.availability, strip_strip]

theorem usable_of_registered {registry : ProviderRegistry} {key : String}
    (h : registry.usable key = true) : strip key ∈ registry.providers := by
  rw [ProviderRegistry.usable, Bool.and_eq_true, List.contains_iff_mem] at h
  exact h.1

/-- When every attempt fails, every registered and available provider is called. -/
theorem exists_call_of_allFail {registry : ProviderRegistry} {config : RouterConfig}
    {request : UnifiedExecutionRequest} {e : Exc} (he : e.isException = true) {key : String}
    (hkey : key ∈ registry.providers) (husable : registry.usable key = true) :
    (⟨key, request⟩ : ProviderCall) ∈ ((routerExecute registry config (allFail e) request).exec []).2 := by
  have hmem := @mem_providerOrder_of_registered registry config request key hkey
  have hcalled := (@called_of_allFail registry config request e he
    (providerOrder registry config request) none []).2 key hmem husable
  rw [(registry.registered key hkey).1] at hcalled
  rw [routerExecute, if_neg (List.ne_nil_of_mem hmem)]
  exact hcalled

/-- A call goes to a registered and available provider, with the request of the router. -/
theorem call_spec {registry : ProviderRegistry} {config : RouterConfig} {adapter : AdapterOutcomes}
    {request : UnifiedExecutionRequest} {call : ProviderCall}
    (hcall : call ∈ ((routerExecute registry config adapter request).exec []).2) :
    call.provider ∈ registry.providers ∧ registry.usable call.provider = true ∧ call.request = request := by
  refine (keeps_routerExecute (S := fun call => call.provider ∈ registry.providers ∧
    registry.usable call.provider = true ∧ call.request = request) ?_ [] fun _ h => absurd h List.not_mem_nil).1
      call hcall
  intro p hp
  exact ⟨usable_of_registered hp, by rw [usable_strip, hp], rfl⟩

/-- **Which providers can be called**: the registered ones that are available, whatever provider the
request names. -/
theorem exists_call_iff {registry : ProviderRegistry} {config : RouterConfig}
    {request : UnifiedExecutionRequest} {key : String} :
    (∃ adapter, ∃ call ∈ ((routerExecute registry config adapter request).exec []).2,
      call.provider = key) ↔ key ∈ registry.providers ∧ registry.usable key = true := by
  constructor
  · rintro ⟨adapter, call, hcall, rfl⟩
    obtain ⟨hkey, husable, -⟩ := call_spec hcall
    exact ⟨hkey, husable⟩
  · rintro ⟨hkey, husable⟩
    exact ⟨allFail ⟨.runtimeError, ""⟩, ⟨key, request⟩, exists_call_of_allFail rfl hkey husable, rfl⟩

/-! ## Which call is answered -/

/-- Every call so far has failed. -/
def AllFailed (adapter : AdapterOutcomes) (calls : List ProviderCall) : Prop :=
  ∀ i < calls.length, ∃ e, adapter i = .error e

/-- The last call is answered, after calls that failed. -/
def LastAnswers (adapter : AdapterOutcomes) (response : UnifiedExecutionResponse) (calls : List ProviderCall) :
    Prop :=
  ∃ n, calls.length = n + 1 ∧ adapter n = .ok response ∧ ∀ i < n, ∃ e, adapter i = .error e

section

variable {registry : ProviderRegistry} {config : RouterConfig} {adapter : AdapterOutcomes}
  {request : UnifiedExecutionRequest} {providerId : String}

theorem triple_executePrompt :
    Triple (AllFailed adapter) (executePrompt adapter providerId request) (LastAnswers adapter)
      (AllFailed adapter) := by
  intro calls hcalls
  have hexec : (executePrompt adapter providerId request).exec calls =
      (adapter calls.length, calls ++ [{ provider := strip providerId, request := request }]) := rfl
  rw [hexec]
  constructor
  · rintro response calls' h
    obtain ⟨hresponse, rfl⟩ := Prod.mk.inj h
    exact ⟨calls.length, by rw [List.length_append, List.length_singleton], hresponse, hcalls⟩
  · intro e calls' h
    obtain ⟨he, rfl⟩ := Prod.mk.inj h
    intro i hi
    rw [List.length_append, List.length_singleton] at hi
    rcases Nat.lt_succ_iff_lt_or_eq.mp hi with hi | rfl
    · exact hcalls i hi
    · exact ⟨e, he⟩

theorem triple_attempts (n : ℕ) (firstError : Option Exc) :
    Triple (AllFailed adapter) (attempts adapter providerId request n firstError)
      (fun result calls => match result with
        | .answered response => LastAnswers adapter response calls
        | .failed _ => AllFailed adapter calls)
      (AllFailed adapter) := by
  induction n generalizing firstError with
  | zero => exact Triple.pure fun _ h => h
  | succ n ih =>
    refine Triple.recover (triple_executePrompt.bind fun response => Triple.pure fun _ h => h) fun e => ?_
    refine Triple.ite (fun _ => ih _) fun _ => ?_
    intro calls hcalls
    refine ⟨fun a s' h => (by cases h), fun _ calls' h => ?_⟩
    obtain ⟨-, rfl⟩ := Prod.mk.inj h
    exact hcalls

/-- The router hands back the answer of its last call. -/
theorem triple_tryProviders (order : List String) (firstError : Option Exc) :
    Triple (AllFailed adapter) (tryProviders registry config adapter request order firstError)
      (LastAnswers adapter) (AllFailed adapter) := by
  induction order generalizing firstError with
  | nil =>
    intro calls hcalls
    refine ⟨fun a s' h => (by cases h), fun _ calls' h => ?_⟩
    obtain ⟨-, rfl⟩ := Prod.mk.inj h
    exact hcalls
  | cons p rest ih =>
    refine Triple.ite (fun _ => ?_) fun _ => ih firstError
    refine (triple_attempts _ firstError).bind fun result => ?_
    rcases result with response | firstError
    · exact Triple.pure fun _ h => h
    · exact ih firstError

theorem triple_routerExecute :
    Triple (fun calls => calls = []) (routerExecute registry config adapter request) (LastAnswers adapter)
      (AllFailed adapter) := by
  rintro _ rfl
  have hnone : AllFailed adapter [] := fun i hi => absurd hi (Nat.not_lt_zero i)
  unfold routerExecute
  dsimp only
  split
  · refine ⟨fun a s' h => (by cases h), fun _ calls' h => ?_⟩
    obtain ⟨-, rfl⟩ := Prod.mk.inj h
    exact hnone
  · exact triple_tryProviders _ none [] hnone

/-- **An answered call is the last one**, and its response is the result; without an answer it is not. -/
theorem routerExecute_ok_iff {n : ℕ} {response : UnifiedExecutionResponse}
    (hn : n < ((routerExecute registry config adapter request).exec []).2.length) :
    adapter n = .ok response ↔
      ((routerExecute registry config adapter request).exec []).1 = .ok response ∧
      ((routerExecute registry config adapter request).exec []).2.length = n + 1 := by
  have htriple := @triple_routerExecute registry config adapter request [] rfl
  rcases hexec : (routerExecute registry config adapter request).exec [] with ⟨e | answer, calls⟩
  · rw [hexec] at hn
    obtain ⟨e', he'⟩ := htriple.2 e calls hexec n hn
    rw [he']
    constructor
    · intro h
      cases h
    · rintro ⟨h, -⟩
      cases h
  · rw [hexec] at hn
    obtain ⟨last, hlength, hanswer, hfailed⟩ := htriple.1 answer calls hexec
    have hn : n < calls.length := hn
    dsimp only
    constructor
    · intro hok
      rcases Nat.lt_succ_iff_lt_or_eq.mp (hlength ▸ hn) with hlt | rfl
      · obtain ⟨e, he⟩ := hfailed n hlt
        exact absurd (hok.symm.trans he) (by simp)
      · exact ⟨congrArg Except.ok (Except.ok.inj (hanswer.symm.trans hok)), hlength⟩
    · rintro ⟨hok, hlast⟩
      obtain rfl : last = n := Nat.succ.inj (hlength.symm.trans hlast)
      exact hanswer.trans hok

end

end Execution
end HexeAiNode
