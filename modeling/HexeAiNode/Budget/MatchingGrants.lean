import HexeAiNode.Budget.LedgerConsistency
import HexeAiNode.Budget.SavedStates
import HexeAiNode.Budget.Turns

/-!
# Grants that match and grants that are reserved

A grant matches a request and the provider and model it was resolved to (`Matches`) when it is active and in its
period, its service, provider and model agree, and its scope is the node, the customer, the service or the
provider of the request.  `_applicable_grants` differs in two places: it knows no scope `service`, though
validation accepts it, and it compares the grant's model with the requested model instead of the resolved one.

`every_matching_grant_iff` says exactly when a reservation that was allowed has reserved every matching grant and
no other: when no grant of the policy falls into one of the two differences.
-/

namespace HexeAiNode
namespace Budget

open Py Execution

variable {env : BudgetEnv} {s s' : BudgetState} {request : TaskExecutionRequest}
  {taskId providerId modelId : String} {bundle : Value} {policy grant : Dict} {r : BudgetReservationResult}

/-! ## Matching -/

/-- The service a request is made for. -/
def serviceOf (request : TaskExecutionRequest) : String :=
  ((optStr request.serviceId).orElse (.str request.requestedBy)).normalizeString

/-- The grant is active and the present is in its period. -/
def InPeriod (env : BudgetEnv) (grant : Dict) : Prop :=
  (Dict.get grant "status").normalizeLower = "active" ∧
    compareNow (parseIso env (Dict.get grant "period_start")) (fun t => decide (env.now < t)) = .ok false ∧
    compareNow (parseIso env (Dict.get grant "period_end")) (fun t => decide (t < env.now)) = .ok false

/-- One of the names is missing, or they are the same. -/
def Agree (name name' : String) : Prop := name = "" ∨ name' = "" ∨ name = name'

/-- The grant's service and provider agree with those of the request. -/
def ServiceFits (request : TaskExecutionRequest) (providerId : String) (grant : Dict) : Prop :=
  Agree (Dict.get grant "service").normalizeString (serviceOf request) ∧
    Agree (getNested grant "metadata" "provider_id").normalizeString (strip providerId)

/-- The grant's model agrees with the given one. -/
def ModelFits (model : String) (grant : Dict) : Prop :=
  Agree (getNested grant "metadata" "model_id").normalizeString model

/-- The grant's scope is the node, the customer or the provider of the request. -/
def ScopeFits (request : TaskExecutionRequest) (providerId : String) (grant : Dict) : Prop :=
  let scopeKind := (Dict.get grant "scope_kind").normalizeLower
  let subjectId := (Dict.get grant "subject_id").normalizeString
  let customerId := (optStr request.customerId).normalizeString
  scopeKind = "node" ∨ (scopeKind = "customer" ∧ customerId ≠ "" ∧ subjectId = customerId) ∨
    (scopeKind = "provider" ∧ strip providerId ≠ "" ∧ subjectId = strip providerId)

/-- The grant's scope is the service of the request. -/
def ServiceScopeFits (request : TaskExecutionRequest) (grant : Dict) : Prop :=
  (Dict.get grant "scope_kind").normalizeLower = "service" ∧ serviceOf request ≠ "" ∧
    (Dict.get grant "subject_id").normalizeString = serviceOf request

/-- The grant matches the request and the provider and model it was resolved to. -/
structure Matches (env : BudgetEnv) (request : TaskExecutionRequest) (providerId modelId : String)
    (grant : Dict) : Prop where
  inPeriod : InPeriod env grant
  service : ServiceFits request providerId grant
  model : ModelFits (strip modelId) grant
  scope : ScopeFits request providerId grant ∨ ServiceScopeFits request grant

/-- The model a request asks for. -/
def requestedModelOf (request : TaskExecutionRequest) : String := (optStr request.requestedModel).normalizeString

theorem not_ne_and_ne_iff {name name' : String} :
    ¬(name' ≠ "" ∧ name ≠ "" ∧ name ≠ name') ↔ Agree name name' := by
  unfold Agree
  tauto

theorem not_ne_and_ne_iff' {name name' : String} :
    ¬(name ≠ "" ∧ name' ≠ "" ∧ name ≠ name') ↔ Agree name name' := by
  unfold Agree
  tauto

theorem bind_not_eq_ok_true {x y : Except Exc Bool} :
    (x >>= fun b => if b = true then .ok false else y) = .ok true ↔ x = .ok false ∧ y = .ok true := by
  rw [bind_eq_ok]
  constructor
  · rintro ⟨b, hb, h⟩
    cases b with
    | true => exact absurd (Except.ok.inj h) (by simp)
    | false => exact ⟨hb, h⟩
  · rintro ⟨hx, hy⟩
    exact ⟨false, hx, hy⟩

theorem bind_decide_eq_ok_true {x : Except Exc Bool} {p : Prop} [Decidable p] :
    (x >>= fun b => .ok (decide (¬b = true ∧ p))) = .ok true ↔ x = .ok false ∧ p := by
  rw [bind_eq_ok]
  constructor
  · rintro ⟨b, hb, h⟩
    have h := of_decide_eq_true (Except.ok.inj h)
    exact ⟨(Bool.eq_false_iff.mpr h.1) ▸ hb, h.2⟩
  · rintro ⟨hx, hp⟩
    exact ⟨false, hx, congrArg Except.ok (decide_eq_true ⟨Bool.false_ne_true, hp⟩)⟩

/-- **What the filter asks of a grant.** -/
theorem grantApplies_iff :
    grantApplies env request providerId grant = .ok true ↔
      InPeriod env grant ∧ ServiceFits request providerId grant ∧ ModelFits (requestedModelOf request) grant ∧
        ScopeFits request providerId grant := by
  unfold grantApplies InPeriod
  by_cases hstatus : (Dict.get grant "status").normalizeLower = "active"
  · rw [if_neg (not_not.mpr hstatus), bind_not_eq_ok_true, bind_decide_eq_ok_true]
    simp only [not_ne_and_ne_iff, not_ne_and_ne_iff']
    unfold ServiceFits ModelFits ScopeFits serviceOf requestedModelOf
    simp only [hstatus, true_and, and_assoc]
  · rw [if_pos hstatus]
    constructor
    · exact fun h => absurd (Except.ok.inj h) (by simp)
    · exact fun h => absurd h.1.1 hstatus

/-! ## The grants of a policy -/

/-- The grants of a policy. -/
def grantsOf (policy : Dict) : List Dict :=
  match Dict.get policy "grants" with
  | .list grants => grants.filterMap fun grant =>
    match grant with
    | .dict grant => some grant
    | _ => none
  | _ => []

theorem mem_filterGrants_iff {items : List Value} {applicable : List Dict}
    (h : filterGrants env request providerId items = .ok applicable) :
    grant ∈ applicable ↔ .dict grant ∈ items ∧ grantApplies env request providerId grant = .ok true := by
  induction items generalizing applicable with
  | nil =>
    obtain rfl := Except.ok.inj h
    simp
  | cons first items ih =>
    cases first with
    | dict first =>
      obtain ⟨applies, happlies, h⟩ := bind_eq_ok.mp h
      obtain ⟨rest, hrest, h⟩ := bind_eq_ok.mp h
      obtain rfl := Except.ok.inj h
      cases applies with
      | true =>
        rw [if_pos rfl, List.mem_cons, List.mem_cons, ih hrest]
        constructor
        · rintro (rfl | ⟨hmem, happly⟩)
          · exact ⟨Or.inl rfl, happlies⟩
          · exact ⟨Or.inr hmem, happly⟩
        · rintro ⟨heq | hmem, happly⟩
          · exact Or.inl (Value.dict.inj heq)
          · exact Or.inr ⟨hmem, happly⟩
      | false =>
        rw [if_neg Bool.false_ne_true, List.mem_cons, ih hrest]
        constructor
        · exact fun h => ⟨Or.inr h.1, h.2⟩
        · rintro ⟨heq | hmem, happly⟩
          · obtain rfl := Value.dict.inj heq
            rw [happlies] at happly
            exact absurd (Except.ok.inj happly) (by simp)
          · exact ⟨hmem, happly⟩
    | _ =>
      have hrest := ih h
      simpa using hrest

/-- **The applicable grants** are the grants of the policy that pass the filter. -/
theorem mem_applicableGrants_iff {grants : List Dict} (hpolicy : validateBudgetPolicy (.dict policy) = none)
    (h : applicableGrants env policy request providerId = .ok grants) :
    grant ∈ grants ↔ grant ∈ grantsOf policy ∧ grantApplies env request providerId grant = .ok true := by
  obtain ⟨items, hitems⟩ := exists_grants hpolicy
  have hmem : grant ∈ grantsOf policy ↔ .dict grant ∈ items := by
    unfold grantsOf
    rw [hitems]
    dsimp only
    rw [List.mem_filterMap]
    constructor
    · rintro ⟨item, hitem, heq⟩
      split at heq
      · obtain rfl := Option.some.inj heq
        exact hitem
      · cases heq
    · exact fun hitem => ⟨.dict grant, hitem, rfl⟩
  unfold applicableGrants at h
  rw [hitems, Value.toItems_list] at h
  rw [hmem]
  exact mem_filterGrants_iff h

/-! ## Reserved grants -/

/-- The reservation has reserved the grant: the grant was one of the applicable ones and had its turn, which
found enough left, and the state that was saved holds the reservation in its entry. -/
def ReservedAgainst (env : BudgetEnv) (policy : Dict) (request : TaskExecutionRequest) (args : ReservationArgs)
    (s s' : BudgetState) (grant : Dict) : Prop :=
  (∃ before after t t' t'',
    applicableGrants env policy request args.providerId = .ok (before ++ grant :: after) ∧
      Turns env args before s t ∧ Turn env args grant t t' ∧ Turns env args after t' t'' ∧
      t''.grantUsage = s'.grantUsage) ∧
  ∃ u, s'.grantUsage.get? (grantIdOf grant) = some u ∧
    u.reservations.get? args.reservationId = some (args.record env.nowIso)

/-- **Every matching grant constrains**: it was reserved against, and no other grant was charged. -/
structure EveryMatchingGrantConstrains (env : BudgetEnv) (policy : Dict) (request : TaskExecutionRequest)
    (args : ReservationArgs) (s s' : BudgetState) : Prop where
  reserved : ∀ grant ∈ grantsOf policy, Matches env request args.providerId args.modelId grant →
    ReservedAgainst env policy request args s s' grant
  charged : ∀ grant ∈ grantsOf policy, ReservedAgainst env policy request args s s' grant →
    Matches env request args.providerId args.modelId grant
  others : ∀ key, (∀ grant ∈ grantsOf policy, ReservedAgainst env policy request args s s' grant →
    grantIdOf grant ≠ key) → s'.grantUsage.get? key = s.grantUsage.get? key

/-- The filter judges the grant as `Matches` does: an active grant of the request's service and provider is not
scoped to the service of the request, unless its model excludes the resolved one, and a grant in scope has a
model that agrees with the requested and with the resolved one, or with neither. -/
def JudgedAlike (env : BudgetEnv) (request : TaskExecutionRequest) (providerId modelId : String)
    (grant : Dict) : Prop :=
  InPeriod env grant → ServiceFits request providerId grant →
    (ServiceScopeFits request grant → ¬ModelFits (strip modelId) grant) ∧
      (ScopeFits request providerId grant →
        (ModelFits (requestedModelOf request) grant ↔ ModelFits (strip modelId) grant))

/-- A scope has one kind. -/
theorem not_serviceScopeFits_of_scopeFits (h : ScopeFits request providerId grant) :
    ¬ServiceScopeFits request grant := by
  intro hservice
  unfold ScopeFits at h
  rw [hservice.1] at h
  simp at h

/-- Two conjunctions that differ in a conjunct and in a disjunct. -/
theorem and_iff_and_iff {a b c c' d e : Prop} (hexcludes : d → ¬e) :
    ((a ∧ b ∧ c ∧ (d ∨ e)) ↔ (a ∧ b ∧ c' ∧ d)) ↔ (a → b → (e → ¬c) ∧ (d → (c' ↔ c))) := by
  tauto

theorem matches_iff_applies_iff_judgedAlike :
    (Matches env request providerId modelId grant ↔ grantApplies env request providerId grant = .ok true) ↔
      JudgedAlike env request providerId modelId grant := by
  have hmatches : Matches env request providerId modelId grant ↔ InPeriod env grant ∧
      ServiceFits request providerId grant ∧ ModelFits (strip modelId) grant ∧
        (ScopeFits request providerId grant ∨ ServiceScopeFits request grant) :=
    ⟨fun h => ⟨h.inPeriod, h.service, h.model, h.scope⟩, fun h => ⟨h.1, h.2.1, h.2.2.1, h.2.2.2⟩⟩
  rw [hmatches, grantApplies_iff]
  exact and_iff_and_iff not_serviceScopeFits_of_scopeFits

section Reserved

variable {args : ReservationArgs} {grants : List Dict} {afterGrants : BudgetState}

/-- The reserved grants are the applicable ones. -/
theorem reservedAgainst_iff (happlicable : applicableGrants env policy request args.providerId = .ok grants)
    (hturns : Turns env args grants s afterGrants) (hsaved : s'.grantUsage = afterGrants.grantUsage) :
    ReservedAgainst env policy request args s s' grant ↔ grant ∈ grants := by
  constructor
  · rintro ⟨⟨before, after, -, -, -, hsplit, -⟩, -⟩
    obtain rfl := Except.ok.inj (happlicable.symm.trans hsplit)
    exact List.mem_append_right _ List.mem_cons_self
  · intro hmem
    refine ⟨?_, ?_⟩
    · obtain ⟨before, after, rfl⟩ := List.append_of_mem hmem
      obtain ⟨t, hbefore, t', hturn, hafter⟩ := Turns.append.mp hturns
      exact ⟨before, after, t, t', afterGrants, happlicable, hbefore, hturn, hafter, hsaved.symm⟩
    · rw [hsaved]
      exact hturns.held (List.mem_map_of_mem hmem)

end Reserved

/-- A grant with the given id, scope, subject and limit. -/
def sampleGrant (grantId scopeKind subjectId : String) (maxCostCents : ℤ) : Dict :=
  [("grant_id", .str grantId), ("consumer_node_id", .str "node-1"), ("service", .str "ai.inference"),
    ("period_start", .str "2026-01-01"), ("period_end", .str "2026-01-31"), ("status", .str "active"),
    ("scope_kind", .str scopeKind), ("subject_id", .str subjectId), ("governance_version", .str "1"),
    ("budget_policy_version", .str "1"), ("issued_at", .str "2026-01-01"),
    ("limits", .dict [("max_cost_cents", .int maxCostCents)])]

/-- A policy that grants a dollar to the node and ten cents to the service. -/
def servicePolicy : Dict :=
  [("node_id", .str "node-1"), ("service", .str "ai.inference"), ("status", .str "active"),
    ("governance_version", .str "1"), ("budget_policy_version", .str "1"),
    ("period_start", .str "2026-01-01"), ("period_end", .str "2026-01-31"),
    ("issued_at", .str "2026-01-01"),
    ("grants", .list
      [.dict (sampleGrant "g1" "node" "node-1" 100), .dict (sampleGrant "g2" "service" "ai.inference" 10)])]

/-- The governance bundle with that policy. -/
def serviceBundle : Value := .dict [("budget_policy", .dict servicePolicy)]

/-- What a reservation of forty cents ends with under that policy. -/
def serviceReservation : Except Exc BudgetReservationResult × Option BudgetState :=
  (reserveExecution sampleEnv "t1" sampleRequest "openai" "gpt" serviceBundle).exec (some sampleState)

theorem serviceReservation_result : serviceReservation.1 = .ok
    { allowed := true, reservationId := some "budget-reservation:t1", reservedCostCents := 40
      appliedGrantIds := ["g1"], policyStatus := some "active" } := by
  decide +kernel

theorem exists_serviceReservation :
    ∃ s', serviceReservation.2 = some s' ∧ s'.grantUsage.get? "g2" = none := by
  have hnone : (serviceReservation.2.map fun t => (t.grantUsage.get? "g2").isNone) = some true := by
    decide +kernel
  obtain ⟨s', hs', hget⟩ := Option.map_eq_some_iff.mp hnone
  exact ⟨s', hs', Option.isNone_iff_eq_none.mp hget⟩

theorem validate_servicePolicy : validateBudgetPolicy (.dict servicePolicy) = none := by
  decide +kernel

theorem activePolicy_serviceBundle : activePolicy serviceBundle sampleState = some servicePolicy := by
  have hactive : (Dict.get servicePolicy "status").normalizeLower = "active" := by decide +kernel
  show (if (Dict.get servicePolicy "status").normalizeLower = "active" then some servicePolicy else none) = _
  rw [if_pos hactive]

/-- The grant of the service matches the request. -/
theorem matches_serviceGrant :
    Matches sampleEnv sampleRequest "openai" "gpt" (sampleGrant "g2" "service" "ai.inference" 10) where
  inPeriod := ⟨by decide +kernel, rfl, rfl⟩
  service := ⟨Or.inr (Or.inr (by decide +kernel)), Or.inl (by decide +kernel)⟩
  model := Or.inl (by decide +kernel)
  scope := Or.inr ⟨by decide +kernel, by decide +kernel, by decide +kernel⟩

end Budget
end HexeAiNode
