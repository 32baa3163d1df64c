import HexeAiNode.Governance.ProviderOrder
import HexeAiNode.Governance.ProviderResolver

/-!
# Resolution and letter case

The selection policy works with lower-case names; the resolver compares the requested provider with a provider of the
order as it is written, and the requested model with the models of the pool as they are written.  Two requests that
differ in letter case only are therefore given the same decision (`build_congr`), and differ at one place: what the
requested provider offers.

* Written in lower case, the provider offers the requested model if the pool has it as it is written, and else nothing.
* Written otherwise, it offers what it would offer to a request without a model.

`resolution_ignores_case_iff` says when that makes no difference and no other model stands in: both requests are
answered with the requested model, or the requested provider offers neither of them a model.
-/

namespace HexeAiNode
namespace Governance

open Py

variable {context : ProviderContext} {request request' : ProviderResolutionRequest} {governance : Dict}
  {decision : ProviderSelectionPolicyDecision} {p m : String}

/-! ## Requests that differ in case -/

/-- The requests differ in the letter case and the surrounding white space of the two names only. -/
structure SameUpToCase (request request' : ProviderResolutionRequest) : Prop where
  taskFamily : request'.taskFamily = request.taskFamily
  provider : request'.requestedProvider.normalizeLower = request.requestedProvider.normalizeLower
  model : request'.requestedModel.normalizeLower = request.requestedModel.normalizeLower
  timeout : request'.timeoutS = request.timeoutS
  cost : request'.maxCostCents = request.maxCostCents

/-- The two resolutions end alike: the same exception, or the same flag, the same provider and, up to case, the same
model. -/
def SameOutcome (x y : Except Exc ProviderResolutionResult) : Prop :=
  (∃ e, x = .error e ∧ y = .error e) ∨
    ∃ a b, x = .ok a ∧ y = .ok b ∧ a.allowed = b.allowed ∧ a.providerId = b.providerId ∧
      a.modelId.map stripLower = b.modelId.map stripLower

/-- The requested provider is resolved with the requested model, if one was requested. -/
def KeepsModel (context : ProviderContext) (governance : Dict) (request : ProviderResolutionRequest) : Prop :=
  ∀ result p m, resolve context request governance = .ok result → result.allowed = true →
    result.providerId = some p → stripLower p = request.requestedProvider.normalizeLower →
    request.requestedModel.normalizeLower ≠ "" → result.modelId = some m →
    stripLower m = request.requestedModel.normalizeLower

/-- The resolution ignores letter case. -/
structure IgnoresCase (context : ProviderContext) (governance : Dict)
    (request request' : ProviderResolutionRequest) : Prop where
  same : SameOutcome (resolve context request governance) (resolve context request' governance)
  keeps : KeepsModel context governance request
  keeps' : KeepsModel context governance request'

/-- The policy reads the two names in lower case. -/
theorem build_congr (context : ProviderContext) (governance : Dict) (h : SameUpToCase request request') :
    buildProviderSelectionPolicy (policyInput context request' governance) =
      buildProviderSelectionPolicy (policyInput context request governance) := by
  unfold buildProviderSelectionPolicy servePolicy selectedProviders policyAllowlist rejectPolicy enabledProviders
    policyInput
  simp only [h.provider, h.model, h.timeout, h.cost]

theorem poolOf_congr (h : SameUpToCase request request') :
    poolOf context request' governance p = poolOf context request governance p := by
  unfold poolOf policyAllowlist policyInput
  simp only [h.model]

theorem defaultModelOf_congr (h : SameUpToCase request request') :
    defaultModelOf context request' p = defaultModelOf context request p := by
  unfold defaultModelOf
  rw [h.taskFamily]

/-- A name is blank in lower case if it is blank. -/
theorem normalizeLower_eq_empty_iff {v : Value} : v.normalizeLower = "" ↔ v.normalizeString = "" :=
  lower_eq_empty_iff

/-! ## What a provider offers -/

/-- The model a provider of the order offers. -/
def offerOf (context : ProviderContext) (governance : Dict) (request : ProviderResolutionRequest) (p : String) :
    Option String :=
  pickFrom (poolOf context request governance p) (requestedModelOf request p).normalizeString
    (defaultModelOf context request p).normalizeString

theorem offeredModel_eq (hserves : Serves (policyInput context request governance) decision.providerOrder decision)
    (hp : p ∈ decision.providerOrder) :
    offeredModel context request decision.modelAllowlistByProvider p =
      (fun _ => offerOf context governance request p) <$> (context.availableModelsByProvider.get p).toItems := by
  unfold offeredModel
  rcases hitems : (context.availableModelsByProvider.get p).toItems with e | items
  · rfl
  · have hpool : modelPool (policyAllowlist (policyInput context request governance) p) items =
        poolOf context request governance p := by
      simp only [modelPool, poolOf, availableModels, hitems]
    show Except.ok _ = Except.ok _
    rw [allowlist_of_mem_providerOrder hserves hp, selectModel_eq_pickFrom, hpool]
    rfl

/-- Only the requested provider looks at the names as they are written. -/
theorem offerOf_congr (h : SameUpToCase request request') (hp : lower p = p)
    (hne : p ≠ request.requestedProvider.normalizeLower) :
    offerOf context governance request' p = offerOf context governance request p := by
  have hother : ∀ asked : ProviderResolutionRequest,
      asked.requestedProvider.normalizeLower = request.requestedProvider.normalizeLower →
        requestedModelOf asked p = .null := by
    intro asked hasked
    refine if_neg fun heq => hne ?_
    rw [← hasked, Value.normalizeLower, ← heq, hp]
  unfold offerOf
  rw [poolOf_congr h, defaultModelOf_congr h, hother request rfl, hother request' h.provider]

/-! ## The first offer -/

/-- The order holds the providers that qualify. -/
theorem mem_order_iff
    (hdecision : buildProviderSelectionPolicy (policyInput context request governance) = .ok decision) : p ∈ decision.providerOrder ↔ Qualifies (policyInput context request governance) p := by
  rw [mem_providerOrder_iff hdecision, qualifies_iff]

/-- The requested provider comes first in an order that holds it. -/
theorem exists_order_eq
    (hdecision : buildProviderSelectionPolicy (policyInput context request governance) = .ok decision)
    (hmem : request.requestedProvider.normalizeLower ∈ decision.providerOrder) :
    ∃ rest, decision.providerOrder = request.requestedProvider.normalizeLower :: rest ∧
      request.requestedProvider.normalizeLower ∉ rest := by
  have haccepted : decision.rejectionReason = none := by
    by_contra hrejected
    rw [(order_of_decision hdecision).2 hrejected] at hmem
    cases hmem
  have horder := (order_of_decision hdecision).1 haccepted
  rcases hlist : decision.providerOrder with _ | ⟨first, rest⟩
  · exact absurd hlist horder.nonempty
  have hordered := horder.ordered
  have hnodup := horder.nodup
  rw [hlist] at hmem hordered hnodup
  obtain rfl : first = request.requestedProvider.normalizeLower := by
    by_contra hne
    have hplace := (List.pairwise_cons.mp hordered).1 _ ((List.mem_cons.mp hmem).resolve_left (Ne.symm hne))
    rcases hplace with hrank | ⟨hrank, -⟩
    · rw [show (policyInput context request governance).requestedProvider.normalizeLower =
        request.requestedProvider.normalizeLower from rfl, orderRank_requested] at hrank
      exact absurd hrank (Nat.not_lt_zero _)
    · rw [show (policyInput context request governance).requestedProvider.normalizeLower =
        request.requestedProvider.normalizeLower from rfl, orderRank_requested] at hrank
      exact absurd hrank (orderRank_pos hne).ne'
  exact ⟨rest, rfl, (List.nodup_cons.mp hnodup).1⟩

/-- The providers of an order are written in lower case, without white space around. -/
theorem name_of_mem_order (hdecision : buildProviderSelectionPolicy (policyInput context request governance) =
    .ok decision) (hp : p ∈ decision.providerOrder) : strip p = p ∧ lower p = p := by
  have husable := ((mem_providerOrder_iff hdecision).mp hp).2
  exact ⟨(mem_lowerList husable.enabled).1, lower_of_mem_lowerList husable.enabled⟩

/-- What the first provider offers decides, if it offers something. -/
theorem firstOffer_cons {allowlists : List (String × List String)} {rest : List String} (hp : strip p = p) :
    firstOffer context request allowlists (p :: rest) =
      (offeredModel context request allowlists p >>= fun offer =>
        match offer with
        | some model => .ok (some (p, model))
        | none => firstOffer context request allowlists rest) := by
  rw [firstOffer, hp]
  rfl

/-- Providers other than the requested one offer both requests the same. -/
theorem firstOffer_congr (h : SameUpToCase request request')
    (hserves : Serves (policyInput context request governance) decision.providerOrder decision)
    (hserves' : Serves (policyInput context request' governance) decision.providerOrder decision) {order : List String}
    (hsub : ∀ p ∈ order, p ∈ decision.providerOrder) (hnames : ∀ p ∈ order, strip p = p ∧ lower p = p)
    (hne : request.requestedProvider.normalizeLower ∉ order) :
    firstOffer context request' decision.modelAllowlistByProvider order =
      firstOffer context request decision.modelAllowlistByProvider order := by
  induction order with
  | nil => rfl
  | cons p rest ih =>
    rw [List.mem_cons, not_or] at hne
    obtain ⟨hstrip, hlower⟩ := hnames p List.mem_cons_self
    have hp := hsub p List.mem_cons_self
    rw [firstOffer_cons hstrip, firstOffer_cons hstrip, offeredModel_eq hserves hp, offeredModel_eq hserves' hp,
      offerOf_congr h hlower (Ne.symm hne.1), ih (fun q hq => hsub q (List.mem_cons_of_mem _ hq))
        (fun q hq => hnames q (List.mem_cons_of_mem _ hq)) hne.2]

/-! ## Outcomes -/

/-- The result that is made of the first offer. -/
def resultOf (governance : Dict) (decision : ProviderSelectionPolicyDecision) :
    Option (String × String) → ProviderResolutionResult
  | none =>
    { allowed := false
      providerId := some (strip (decision.providerOrder.headD ""))
      modelId := none
      providerOrder := decision.providerOrder
      fallbackProviderIds := decision.providerOrder.tail
      modelAllowlistByProvider := decision.modelAllowlistByProvider
      timeoutS := decision.timeoutS
      retryCount := (Assoc.get? decision.retryCountByProvider (strip (decision.providerOrder.headD ""))).getD 0
      rejectionReason := some (if ((routingPolicyOf governance).get "mode").normalizeLower = "local_only" then
        "local_only_no_eligible_model" else "no_eligible_model_available") }
  | some (providerId, modelId) =>
    { allowed := true
      providerId := some providerId
      modelId := some modelId
      providerOrder := decision.providerOrder
      fallbackProviderIds := decision.providerOrder.filter (· != providerId)
      modelAllowlistByProvider := decision.modelAllowlistByProvider
      timeoutS := decision.timeoutS
      retryCount := (Assoc.get? decision.retryCountByProvider providerId).getD 0 }

/-- The resolution of a decision that serves. -/
theorem resolve_eq (hdecision : buildProviderSelectionPolicy (policyInput context request governance) = .ok decision)
    (hmem : decision.providerOrder ≠ []) :
    resolve context request governance =
      (firstOffer context request decision.modelAllowlistByProvider decision.providerOrder >>= fun offer =>
        .ok (resultOf governance decision offer)) := by
  have haccepted : decision.rejectionReason = none := by
    by_contra hrejected
    exact hmem ((order_of_decision hdecision).2 hrejected)
  unfold resolve
  rw [hdecision]
  dsimp only [bind, Except.bind]
  rw [if_neg (by simp [haccepted, hmem])]
  rcases firstOffer context request decision.modelAllowlistByProvider decision.providerOrder with e | _ | ⟨p, m⟩
  · rfl
  · rfl
  · rfl

/-- The result of a decision without providers. -/
def rejectedResult (decision : ProviderSelectionPolicyDecision) : ProviderResolutionResult where
  allowed := false
  providerId := none
  modelId := none
  providerOrder := decision.providerOrder
  fallbackProviderIds := decision.providerOrder.tail
  modelAllowlistByProvider := decision.modelAllowlistByProvider
  timeoutS := decision.timeoutS
  retryCount := 0
  rejectionReason := some (decision.rejectionReason.getD "provider_resolution_failed")

theorem resolve_of_nil (hdecision : buildProviderSelectionPolicy (policyInput context request governance) =
    .ok decision) (hnil : decision.providerOrder = []) :
    resolve context request governance = .ok (rejectedResult decision) := by
  unfold resolve
  rw [hdecision]
  dsimp only [bind, Except.bind]
  rw [if_pos (Or.inr hnil)]
  rfl

theorem sameOutcome_self (x : Except Exc ProviderResolutionResult) : SameOutcome x x := by
  rcases x with e | result
  · exact Or.inl ⟨e, rfl, rfl⟩
  · exact Or.inr ⟨result, result, rfl, rfl, rfl, rfl, rfl⟩

/-! ## What the requested provider makes of a request -/

section Requested

variable (context : ProviderContext) (governance : Dict) (request : ProviderResolutionRequest)

/-- The requested provider, in lower case. -/
def requestedName : String := request.requestedProvider.normalizeLower

/-- The model that stands in when none is requested: the default if the pool has it, else the first of the pool. -/
def standIn : Option String :=
  pickFrom (poolOf context request governance (requestedName request)) ""
    (defaultModelOf context request (requestedName request)).normalizeString

/-- The requested provider is written in lower case and its pool has the requested model as it is written; or it is
written otherwise and the model that stands in is the requested one. -/
def GetsModel : Prop :=
  if requestedName request = request.requestedProvider.normalizeString then
    request.requestedModel.normalizeString ∈ poolOf context request governance (requestedName request)
  else ∃ m, standIn context governance request = some m ∧ stripLower m = request.requestedModel.normalizeLower

/-- The requested provider is written in lower case and its pool does not have the requested model as it is written;
or it is written otherwise and has no model at all. -/
def GetsNothing : Prop :=
  if requestedName request = request.requestedProvider.normalizeString then
    request.requestedModel.normalizeString ∉ poolOf context request governance (requestedName request)
  else poolOf context request governance (requestedName request) = []

end Requested

theorem pickFrom_of_requested {pool : List String} {requested default : String} (h : requested ≠ "") :
    pickFrom pool requested default = if requested ∈ pool then some requested else none := if_pos h

theorem pickFrom_eq_none_iff {pool : List String} {default : String} : pickFrom pool "" default = none ↔ pool = [] := by
  unfold pickFrom
  rw [if_neg (not_not.mpr rfl)]
  split
  · next h => simp [List.ne_nil_of_mem h.2]
  · exact List.head?_eq_none_iff

/-- **The model requested** is what the requested provider offers. -/
theorem getsModel_iff (hmodel : request.requestedModel.normalizeLower ≠ "") :
    GetsModel context governance request ↔ ∃ m, offerOf context governance request (requestedName request) = some m ∧
      stripLower m = request.requestedModel.normalizeLower := by
  unfold GetsModel offerOf standIn requestedModelOf
  have hne : request.requestedModel.normalizeString ≠ "" := fun h => hmodel (normalizeLower_eq_empty_iff.mpr h)
  by_cases hexact : requestedName request = request.requestedProvider.normalizeString
  · rw [if_pos hexact, if_pos hexact, pickFrom_of_requested hne]
    constructor
    · intro hmem
      refine ⟨_, if_pos hmem, ?_⟩
      rw [stripLower, Value.strip_normalizeString]
      rfl
    · rintro ⟨m, hm, -⟩
      by_contra hmem
      rw [if_neg hmem] at hm
      cases hm
  · rw [if_neg hexact, if_neg hexact]
    rfl

/-- **Nothing** is offered. -/
theorem getsNothing_iff (hmodel : request.requestedModel.normalizeLower ≠ "") :
    GetsNothing context governance request ↔ offerOf context governance request (requestedName request) = none := by
  unfold GetsNothing offerOf requestedModelOf
  have hne : request.requestedModel.normalizeString ≠ "" := fun h => hmodel (normalizeLower_eq_empty_iff.mpr h)
  by_cases hexact : requestedName request = request.requestedProvider.normalizeString
  · rw [if_pos hexact, if_pos hexact, pickFrom_of_requested hne]
    split <;> simp_all
  · rw [if_neg hexact, if_neg hexact]
    exact pickFrom_eq_none_iff.symm

/-- Without a requested model the spelling of the provider does not matter. -/
theorem offerOf_of_blank (h : SameUpToCase request request') (hmodel : request.requestedModel.normalizeLower = "") :
    offerOf context governance request' p = offerOf context governance request p := by
  have hblank : ∀ asked : ProviderResolutionRequest, asked.requestedModel.normalizeLower = "" →
      (requestedModelOf asked p).normalizeString = "" := by
    intro asked hasked
    unfold requestedModelOf
    split
    · exact normalizeLower_eq_empty_iff.mp hasked
    · rfl
  unfold offerOf
  rw [poolOf_congr h, defaultModelOf_congr h, hblank request hmodel, hblank request' (h.model.trans hmodel)]

/-! ## Resolving from the requested provider on -/

theorem sameOutcome_symm {x y : Except Exc ProviderResolutionResult} (h : SameOutcome x y) : SameOutcome y x := by
  rcases h with ⟨e, hx, hy⟩ | ⟨a, b, hx, hy, hallowed, hprovider, hmodel⟩
  · exact Or.inl ⟨e, hy, hx⟩
  · exact Or.inr ⟨b, a, hy, hx, hallowed.symm, hprovider.symm, hmodel.symm⟩

/-- An allowed result is made of an offer. -/
theorem offer_of_allowed {offer : Option (String × String)}
    (hallowed : (resultOf governance decision offer).allowed = true)
    (hprovider : (resultOf governance decision offer).providerId = some p)
    (hmodel : (resultOf governance decision offer).modelId = some m) : offer = some (p, m) := by
  rcases offer with _ | ⟨q, model⟩
  · cases hallowed
  · obtain rfl := Option.some.inj hprovider
    obtain rfl := Option.some.inj hmodel
    rfl

/-- The offers of other providers than the requested one. -/
def FromOthers (request : ProviderResolutionRequest) (offers : Except Exc (Option (String × String))) : Prop :=
  ∀ p m, offers = .ok (some (p, m)) → stripLower p ≠ requestedName request

/-- A resolution from the offers of others keeps nothing. -/
theorem keepsModel_of_others {offers : Except Exc (Option (String × String))}
    (hresolve : resolve context request governance = offers >>= fun offer => .ok (resultOf governance decision offer))
    (hothers : FromOthers request offers) : KeepsModel context governance request := by
  intro result p m hresult hallowed hprovider hsame _ hmodel
  rw [hresolve] at hresult
  obtain ⟨offer, hoffer, hresult⟩ := bind_eq_ok.mp hresult
  obtain rfl := Except.ok.inj hresult
  rw [offer_of_allowed hallowed hprovider hmodel] at hoffer
  exact absurd hsame (hothers p m hoffer)

/-- A resolution from the offers of others does not end as one with the requested provider. -/
theorem not_sameOutcome_of_others {offers : Except Exc (Option (String × String))} {c : String}
    (hc : stripLower c = requestedName request) (hothers : FromOthers request offers) :
    ¬SameOutcome (offers >>= fun offer => .ok (resultOf governance decision offer))
      (.ok (resultOf governance decision (some (c, m)))) := by
  rintro (⟨e, -, herror⟩ | ⟨a, b, ha, hb, hallowed, hprovider, -⟩)
  · cases herror
  · obtain ⟨offer, hoffer, ha⟩ := bind_eq_ok.mp ha
    obtain rfl := Except.ok.inj ha
    obtain rfl := Except.ok.inj hb
    rcases offer with _ | ⟨q, model⟩
    · cases hallowed
    · obtain rfl := Option.some.inj hprovider
      exact hothers q model hoffer hc

/-- The offers of the providers after the requested one are offers of others. -/
theorem fromOthers_of_order {order : List String}
    (hnames : ∀ p ∈ order, strip p = p ∧ lower p = p) (hne : requestedName request ∉ order)
    {asked : ProviderResolutionRequest} {allowlists : List (String × List String)} :
    FromOthers request (firstOffer context asked allowlists order) := by
  intro p m hoffer hsame
  obtain ⟨⟨candidate, hmem, hcandidate⟩, -⟩ := firstOffer_some hoffer
  obtain ⟨hstrip, hlower⟩ := hnames candidate hmem
  rw [← hcandidate, stripLower, strip_strip, hstrip, hlower] at hsame
  exact hne (hsame ▸ hmem)

/-- The resolution when the requested provider is the first of the order. -/
theorem resolve_cons {rest : List String} {items : List Value}
    (hdecision : buildProviderSelectionPolicy (policyInput context request governance) = .ok decision)
    (horder : decision.providerOrder = requestedName request :: rest)
    (hitems : (context.availableModelsByProvider.get (requestedName request)).toItems = .ok items) :
    resolve context request governance = match offerOf context governance request (requestedName request) with
      | some m => .ok (resultOf governance decision (some (requestedName request, m)))
      | none => firstOffer context request decision.modelAllowlistByProvider rest >>= fun offer =>
          .ok (resultOf governance decision offer) := by
  have hmem : requestedName request ∈ decision.providerOrder := by simp [horder]
  have haccepted : decision.rejectionReason = none := by
    by_contra hrejected
    rw [(order_of_decision hdecision).2 hrejected] at hmem
    cases hmem
  rw [resolve_eq hdecision (List.ne_nil_of_mem hmem), horder, firstOffer_cons (name_of_mem_order hdecision hmem).1,
    offeredModel_eq (serves_of_accepted hdecision haccepted) hmem, hitems]
  rcases offerOf context governance request (requestedName request) with _ | m
  · rfl
  · rfl

/-! ## When case makes no difference -/

/-- A model is requested, and the requested provider qualifies, so that it is asked first. -/
structure AsksFirst (context : ProviderContext) (governance : Dict) (request : ProviderResolutionRequest) : Prop where
  returns : ∃ decision, buildProviderSelectionPolicy (policyInput context request governance) = .ok decision
  qualifies : Qualifies (policyInput context request governance) (requestedName request)
  listed : ∃ items, (context.availableModelsByProvider.get (requestedName request)).toItems = .ok items
  named : request.requestedModel.normalizeLower ≠ ""

/-- Two requests that ask the requested provider first end alike, and with the model they name, iff both get that model
there or both get nothing there. -/
theorem ignoresCase_iff_of_asksFirst (h : SameUpToCase request request') (hasks : AsksFirst context governance request) :
    IgnoresCase context governance request request' ↔
      (GetsModel context governance request ∧ GetsModel context governance request') ∨
        (GetsNothing context governance request ∧ GetsNothing context governance request') := by
  obtain ⟨⟨decision, hdecision⟩, hqualifies, ⟨items, hitems⟩, hmodel⟩ := hasks
  have hmem := (mem_order_iff hdecision).mpr hqualifies
  have hname : requestedName request' = requestedName request := h.provider
  have hmodel' : request'.requestedModel.normalizeLower ≠ "" := by rwa [h.model]
  have hdecision' := (build_congr context governance h).trans hdecision
  obtain ⟨rest, horder, hne⟩ := exists_order_eq hdecision hmem
  have haccepted : decision.rejectionReason = none := by
    by_contra hrejected
    rw [(order_of_decision hdecision).2 hrejected] at hmem
    cases hmem
  have hserves := serves_of_accepted hdecision haccepted
  have hserves' := serves_of_accepted hdecision' haccepted
  have hsub : ∀ p ∈ rest, p ∈ decision.providerOrder := fun p hp => horder ▸ List.mem_cons_of_mem _ hp
  have hnames : ∀ p ∈ rest, strip p = p ∧ lower p = p := fun p hp => name_of_mem_order hdecision (hsub p hp)
  have hfirst := name_of_mem_order hdecision hmem
  have hc : stripLower (requestedName request) = requestedName request := by
    rw [stripLower]
    exact (congrArg lower hfirst.1).trans hfirst.2
  have hrest := firstOffer_congr h hserves hserves' hsub hnames hne
  have hothers : FromOthers request (firstOffer context request decision.modelAllowlistByProvider rest) :=
    fromOthers_of_order hnames hne
  have hothers' : FromOthers request' (firstOffer context request decision.modelAllowlistByProvider rest) := by
    unfold FromOthers
    rw [hname]
    exact hothers
  have hresolve := resolve_cons hdecision horder hitems
  have hitems' : (context.availableModelsByProvider.get (requestedName request')).toItems = .ok items := by
    rw [hname]
    exact hitems
  have hresolve' := resolve_cons hdecision' (horder.trans (congrArg (· :: rest) hname.symm)) hitems'
  rw [hname, hrest] at hresolve'
  rw [getsModel_iff hmodel, getsModel_iff hmodel', getsNothing_iff hmodel, getsNothing_iff hmodel', hname, h.model]
  rcases hoffer : offerOf context governance request (requestedName request) with _ | m <;>
    rcases hoffer' : offerOf context governance request' (requestedName request) with _ | m' <;>
      rw [hoffer] at hresolve <;> rw [hoffer'] at hresolve'
  · refine iff_of_true ⟨?_, keepsModel_of_others hresolve hothers, keepsModel_of_others hresolve' hothers'⟩
      (Or.inr ⟨rfl, rfl⟩)
    rw [hresolve, hresolve']
    exact sameOutcome_self _
  · refine iff_of_false (fun hcase => ?_) (by simp)
    have hsame := hcase.same
    rw [hresolve, hresolve'] at hsame
    exact not_sameOutcome_of_others hc hothers hsame
  · refine iff_of_false (fun hcase => ?_) (by simp)
    have hsame := sameOutcome_symm hcase.same
    rw [hresolve, hresolve'] at hsame
    exact not_sameOutcome_of_others (hc.trans hname.symm) hothers' hsame
  · constructor
    · intro hcase
      exact Or.inl ⟨⟨m, rfl, hcase.keeps _ _ _ hresolve rfl rfl hc hmodel rfl⟩,
        m', rfl, (hcase.keeps' _ _ _ hresolve' rfl rfl (hc.trans hname.symm) hmodel' rfl).trans h.model⟩
    · rintro (⟨⟨n, hn, hm⟩, n', hn', hm'⟩ | ⟨hnone, -⟩)
      · obtain rfl := Option.some.inj hn
        obtain rfl := Option.some.inj hn'
        refine ⟨?_, ?_, ?_⟩
        · rw [hresolve, hresolve']
          exact Or.inr ⟨_, _, rfl, rfl, rfl, rfl, congrArg some (hm.trans hm'.symm)⟩
        · intro result p model hresult _ _ _ _ hmodelId
          rw [hresolve] at hresult
          obtain rfl := Except.ok.inj hresult
          obtain rfl := Option.some.inj hmodelId
          exact hm
        · intro result p model hresult _ _ _ _ hmodelId
          rw [hresolve'] at hresult
          obtain rfl := Except.ok.inj hresult
          obtain rfl := Option.some.inj hmodelId
          exact hm'.trans h.model.symm
      · cases hnone

/-- Two requests that are resolved alike and keep their model. -/
theorem ignoresCase_of_eq (h : resolve context request' governance = resolve context request governance)
    (hkeeps : KeepsModel context governance request) (hkeeps' : KeepsModel context governance request') :
    IgnoresCase context governance request request' := by
  refine ⟨?_, hkeeps, hkeeps'⟩
  rw [h]
  exact sameOutcome_self _

/-- A resolution that does not succeed keeps nothing. -/
theorem keepsModel_of_not_allowed
    (h : ∀ result, resolve context request governance = .ok result → result.allowed = false) :
    KeepsModel context governance request := by
  intro result p m hresult hallowed
  rw [h result hresult] at hallowed
  cases hallowed

theorem keepsModel_of_blank (h : request.requestedModel.normalizeLower = "") : KeepsModel context governance request :=
  fun _ _ _ _ _ _ _ hmodel => absurd h hmodel

/-- A provider whose available models are not a list stops the resolution. -/
theorem resolve_error {rest : List String} {e : Exc}
    (hdecision : buildProviderSelectionPolicy (policyInput context request governance) = .ok decision)
    (horder : decision.providerOrder = requestedName request :: rest)
    (hitems : (context.availableModelsByProvider.get (requestedName request)).toItems = .error e) :
    resolve context request governance = .error e := by
  have hmem : requestedName request ∈ decision.providerOrder := by simp [horder]
  rw [resolve_eq hdecision (List.ne_nil_of_mem hmem), horder, firstOffer_cons (name_of_mem_order hdecision hmem).1]
  unfold offeredModel
  rw [hitems]
  rfl

/-- Two requests that do not ask the requested provider for a model end alike. -/
theorem ignoresCase_of_not_asksFirst (h : SameUpToCase request request')
    (hasks : ¬AsksFirst context governance request) : IgnoresCase context governance request request' := by
  have hname : requestedName request' = requestedName request := h.provider
  have hbuild := build_congr context governance h
  rcases hdecision : buildProviderSelectionPolicy (policyInput context request governance) with e | decision
  · -- the policy raises
    have hresolve : ∀ asked, buildProviderSelectionPolicy (policyInput context asked governance) = .error e →
        resolve context asked governance = .error e := by
      intro asked hasked
      unfold resolve
      rw [hasked]
      rfl
    have hfirst := hresolve request hdecision
    have hsecond := hresolve request' (hbuild.trans hdecision)
    refine ignoresCase_of_eq (hsecond.trans hfirst.symm) (keepsModel_of_not_allowed fun result hresult => ?_)
      (keepsModel_of_not_allowed fun result hresult => ?_)
    · cases hfirst.symm.trans hresult
    · cases hsecond.symm.trans hresult
  have hdecision' := hbuild.trans hdecision
  by_cases hnil : decision.providerOrder = []
  · have hfirst := resolve_of_nil hdecision hnil
    have hsecond := resolve_of_nil hdecision' hnil
    refine ignoresCase_of_eq (hsecond.trans hfirst.symm) (keepsModel_of_not_allowed fun result hresult => ?_)
      (keepsModel_of_not_allowed fun result hresult => ?_)
    · obtain rfl := Except.ok.inj (hfirst.symm.trans hresult)
      rfl
    · obtain rfl := Except.ok.inj (hsecond.symm.trans hresult)
      rfl
  have haccepted : decision.rejectionReason = none := by
    by_contra hrejected
    exact hnil ((order_of_decision hdecision).2 hrejected)
  have hserves := serves_of_accepted hdecision haccepted
  have hserves' := serves_of_accepted hdecision' haccepted
  have hnames : ∀ p ∈ decision.providerOrder, strip p = p ∧ lower p = p := fun p hp => name_of_mem_order hdecision hp
  by_cases hmem : requestedName request ∈ decision.providerOrder
  · obtain ⟨rest, horder, hne⟩ := exists_order_eq hdecision hmem
    have horder' := horder.trans (congrArg (· :: rest) hname.symm)
    rcases hitems : (context.availableModelsByProvider.get (requestedName request)).toItems with e | items
    · -- its available models cannot be listed
      have hfirst := resolve_error hdecision horder hitems
      have hsecond := resolve_error hdecision' horder' (by rw [hname]; exact hitems)
      refine ignoresCase_of_eq (hsecond.trans hfirst.symm) (keepsModel_of_not_allowed fun result hresult => ?_)
        (keepsModel_of_not_allowed fun result hresult => ?_)
      · cases hfirst.symm.trans hresult
      · cases hsecond.symm.trans hresult
    · -- no model is requested
      have hmodel : request.requestedModel.normalizeLower = "" := by
        by_contra hmodel
        exact hasks ⟨⟨decision, hdecision⟩, (mem_order_iff hdecision).mp hmem, ⟨items, hitems⟩, hmodel⟩
      refine ignoresCase_of_eq ?_ (keepsModel_of_blank hmodel) (keepsModel_of_blank (h.model.trans hmodel))
      rw [resolve_cons hdecision horder hitems, resolve_cons hdecision' horder' (by rw [hname]; exact hitems), hname,
        offerOf_of_blank h hmodel, firstOffer_congr h hserves hserves'
          (fun p hp => horder ▸ List.mem_cons_of_mem _ hp)
          (fun p hp => hnames p (horder ▸ List.mem_cons_of_mem _ hp)) hne]
  · -- the requested provider is not asked
    have hoffers := firstOffer_congr h hserves hserves' (fun _ hp => hp) hnames hmem
    have hfirst := resolve_eq hdecision hnil
    have hsecond := resolve_eq hdecision' hnil
    rw [hoffers] at hsecond
    exact ignoresCase_of_eq (hsecond.trans hfirst.symm) (keepsModel_of_others hfirst (fromOthers_of_order hnames hmem))
      (keepsModel_of_others hsecond (fromOthers_of_order hnames (hname.symm ▸ hmem)))

/-- **Letter case** is ignored unless the requested provider qualifies and is asked for a model, and then it is ignored
exactly if both requests get that model from it, or both get nothing. -/
theorem resolution_ignores_case_iff (context : ProviderContext) (governance : Dict)
    (request request' : ProviderResolutionRequest) (h : SameUpToCase request request') :
    IgnoresCase context governance request request' ↔
      (AsksFirst context governance request →
        (GetsModel context governance request ∧ GetsModel context governance request') ∨
          (GetsNothing context governance request ∧ GetsNothing context governance request')) := by
  by_cases hasks : AsksFirst context governance request
  · rw [ignoresCase_iff_of_asksFirst h hasks]
    exact ⟨fun hgets _ => hgets, fun hgets => hgets hasks⟩
  · exact iff_of_true (ignoresCase_of_not_asksFirst h hasks) fun hfirst => absurd hfirst hasks

/-- A provider with one usable model. -/
def oneModelContext : ProviderContext where
  enabledProviders := [.str "openai"]
  providerHealth := [("openai", .dict [("availability", .str "available")])]
  availableModelsByProvider := [("openai", .list [.str "gpt-4"])]
  usableModelsByProvider := .dict [("openai", .list [.str "gpt-4"])]

/-- A chat request that names a provider and a model. -/
def asking (provider model : String) : ProviderResolutionRequest where
  taskFamily := "task.chat"
  requestedProvider := .str provider
  requestedModel := .str model

/-- The spelling of the provider does not matter here. -/
theorem provider_case_ignored : IgnoresCase oneModelContext [] (asking "openai" "gpt-4") (asking "OpenAI" "gpt-4") := by
  refine (resolution_ignores_case_iff oneModelContext [] (asking "openai" "gpt-4") (asking "OpenAI" "gpt-4")
    ⟨rfl, by decide +kernel, rfl, rfl, rfl⟩).mpr fun _ => Or.inl ⟨?_, ?_⟩
  · unfold GetsModel
    rw [if_pos (by decide +kernel)]
    decide +kernel
  · unfold GetsModel
    rw [if_neg (by decide +kernel)]
    exact ⟨"gpt-4", by decide +kernel, by decide +kernel⟩

/-- In capitals the provider is resolved to another model than the requested one; in lower case the same request is
refused. -/
theorem capital_provider_gets_another_model :
    ¬∀ (context : ProviderContext) (governance : Dict) (request request' : ProviderResolutionRequest),
      SameUpToCase request request' → IgnoresCase context governance request request' := by
  intro h
  have hcase := h oneModelContext [] (asking "openai" "gpt-5") (asking "OpenAI" "gpt-5")
    ⟨rfl, by decide +kernel, rfl, rfl, rfl⟩
  have hfacts : (resolve oneModelContext (asking "OpenAI" "gpt-5") []).toOption.map (fun result =>
      (result.allowed, result.providerId, result.modelId)) = some (true, some "openai", some "gpt-4") := by
    decide +kernel
  obtain ⟨result, hreturned, hresult⟩ := Option.map_eq_some_iff.mp hfacts
  simp only [Prod.mk.injEq] at hresult
  obtain ⟨hallowed, hprovider, hmodel⟩ := hresult
  have hresolve : resolve oneModelContext (asking "OpenAI" "gpt-5") [] = .ok result := by
    rcases hanswer : resolve oneModelContext (asking "OpenAI" "gpt-5") [] with e | answer
    · rw [hanswer] at hreturned
      cases hreturned
    · rw [hanswer] at hreturned
      rw [Option.some.inj hreturned]
  have hkept := hcase.keeps' result "openai" "gpt-4" hresolve hallowed hprovider (by decide +kernel) (by decide +kernel)
    hmodel
  exact absurd hkept (by decide +kernel)

end Governance
end HexeAiNode
