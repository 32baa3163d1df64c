import HexeAiNode.Budget.ChargedOnce
import HexeAiNode.Budget.MatchingGrants
import HexeAiNode.Budget.SavedStates

/-!
# By how much a limit is exceeded

A reservation is only allowed while what is used and what is reserved stay within the limit, and a completion puts
the final cost in the place of the reserved amount.  So an entry exceeds its limit by what its executions have cost
more than they had reserved, and by nothing else (`bounded_overspend`); a cost counts there as the ledger counts it,
in whole cents on a grant and in dollars with ten decimals on a provider, each rounded up.  In particular no limit is
exceeded while no execution costs more than it had reserved.

`Audit` keeps, beside the stored state, what the completed executions of an entry have cost and had reserved.  The
policy is the same throughout a run (`BudgetOp.Under`), with one grant for each id: two grants of one id share an
entry, and the one with the lower limit is exceeded by the reservations of the other.
-/

namespace HexeAiNode
namespace Budget

open Py Execution ReservationLedger
open StoreAction (Keeps exec_bind)

/-! ## Overspend -/

/-- What an execution has cost, in cents, and what it had reserved. -/
structure Settled where
  cents : ℚ
  reserved : ℤ
  deriving DecidableEq

/-- What executions have cost more than they had reserved, when a cost counts as `count` says. -/
def overspend (count : ℚ → ℚ) (settled : List Settled) : ℚ :=
  (settled.map fun e => max (count e.cents - e.reserved) 0).sum

/-- A cost in whole cents. -/
def wholeCents (cents : ℚ) : ℚ := ⌈cents⌉

/-- A cost in dollars with ten decimals, again in cents. -/
def tenDecimalDollars (cents : ℚ) : ℚ := ⌈cents * 10 ^ 8⌉ / 10 ^ 8

section Overspend

variable {count : ℚ → ℚ} {settled settled' : List Settled} {e : Settled}

@[simp] theorem overspend_nil : overspend count [] = 0 := rfl

@[simp] theorem overspend_append :
    overspend count (settled ++ settled') = overspend count settled + overspend count settled' := by
  simp [overspend]

@[simp] theorem overspend_singleton : overspend count [e] = max (count e.cents - e.reserved) 0 := by
  simp [overspend]

theorem overspend_nonneg : 0 ≤ overspend count settled := by
  refine List.sum_nonneg fun x hx => ?_
  obtain ⟨e, -, rfl⟩ := List.mem_map.mp hx
  exact le_max_right _ _

/-- Executions that stay within what they had reserved overspend nothing. -/
theorem overspend_eq_zero (h : ∀ e ∈ settled, count e.cents ≤ e.reserved) : overspend count settled = 0 := by
  refine List.sum_eq_zero fun x hx => ?_
  obtain ⟨e, he, rfl⟩ := List.mem_map.mp hx
  exact max_eq_right (sub_nonpos.mpr (h e he))

/-- Whole cents bound a cost that is rounded up to them. -/
theorem wholeCents_le {cents : ℚ} {n : ℤ} (h : cents ≤ n) : wholeCents cents ≤ n := by
  unfold wholeCents
  exact_mod_cast Int.ceil_le.mpr h

theorem tenDecimalDollars_le {cents : ℚ} {n : ℤ} (h : cents ≤ n) : tenDecimalDollars cents ≤ n := by
  have hceil : ⌈cents * 10 ^ 8⌉ ≤ n * 10 ^ 8 := by
    refine Int.ceil_le.mpr ?_
    push_cast
    exact mul_le_mul_of_nonneg_right h (by positivity)
  unfold tenDecimalDollars
  rw [div_le_iff₀ (by positivity)]
  exact_mod_cast hceil

/-- What is rounded to ten decimals does not exceed what is rounded up to them. -/
theorem round10_add_le {used q : ℚ} (hused : TenDecimals used) :
    round10 (used + q) * 100 ≤ used * 100 + tenDecimalDollars (q * 100) := by
  have hup : TenDecimals (used + tenDecimalDollars (q * 100) / 100) := by
    refine hused.add ⟨⌈q * 100 * 10 ^ 8⌉, ?_⟩
    unfold tenDecimalDollars
    field_simp
    ring
  have hbound : used + q ≤ used + tenDecimalDollars (q * 100) / 100 := by
    have hceil := Int.le_ceil (q * 100 * 10 ^ 8)
    unfold tenDecimalDollars
    rw [add_le_add_iff_left, div_div, le_div_iff₀ (by positivity)]
    linarith
  have hrounded := round10_le hup hbound
  linarith

end Overspend

/-! ## The audit -/

/-- The reservation of a task in a provider entry. -/
def reservedFor (s : BudgetState) (key reservationId : String) : Option Reservation :=
  (s.providerBudgetUsage.get? key).bind fun u => u.reservations.get? reservationId

/-- The final cost in cents, not rounded; `none` if it is not known. -/
def exactCents (metrics : Option TaskExecutionMetrics) : Option ℚ :=
  match metrics.bind TaskExecutionMetrics.estimatedCost with
  | some (.finite q) => some (max (q * 100) 0)
  | _ => none

/-- The stored state, and the executions that were completed against each grant and each provider entry. -/
structure Audit where
  store : BudgetState
  grants : String → List Settled := fun _ => []
  providers : String → List Settled := fun _ => []

namespace Audit

/-- The completion a call makes, if it returns: the task and its metrics. -/
def completion (n : Audit) (env : BudgetEnv) : BudgetOp → Option (String × Option TaskExecutionMetrics)
  | .finalize taskId metrics status =>
    match ((finalizeExecution env taskId metrics status).exec (some n.store)).1 with
    | .ok _ => if status = "completed" then some (taskId, metrics) else none
    | .error _ => none
  | _ => none

/-- What a completion settles on a grant; an execution whose cost is not known costs what it had reserved. -/
def settledOnGrant (n : Audit) (key taskId : String) (metrics : Option TaskExecutionMetrics) : List Settled :=
  ((reservedIn n.store key (reservationIdOf taskId)).map fun r =>
    ⟨(exactCents metrics).getD r.reservedCostCents, r.reservedCostCents⟩).toList

/-- What a completion settles on a provider entry; an execution whose cost is not known costs nothing. -/
def settledOnProvider (n : Audit) (key taskId : String) (metrics : Option TaskExecutionMetrics) : List Settled :=
  ((reservedFor n.store key (reservationIdOf taskId)).map fun r =>
    ⟨(exactCents metrics).getD 0, r.reservedCostCents⟩).toList

/-- A call. -/
def fire (n : Audit) (call : BudgetEnv × BudgetOp) : Audit where
  store := ((call.2.action call.1).store (some n.store)).getD n.store
  grants key := n.grants key ++ match n.completion call.1 call.2 with
    | some (taskId, metrics) => n.settledOnGrant key taskId metrics
    | none => []
  providers key := n.providers key ++ match n.completion call.1 call.2 with
    | some (taskId, metrics) => n.settledOnProvider key taskId metrics
    | none => []

/-- No grant exceeds its limit by more than the overspend of its entry. -/
def GrantsBounded (policy : Dict) (count : ℚ → ℚ) (n : Audit) : Prop :=
  ∀ grant ∈ grantsOf policy, ∀ maxCostCents, maxCostCentsOf grant = .ok maxCostCents → 0 < maxCostCents →
    ∀ u, n.store.grantUsage.get? (grantIdOf grant) = some u →
      (u.usedCostCents + u.reservedCostCents : ℚ) ≤ maxCostCents + overspend count (n.grants (grantIdOf grant))

/-- No provider budget exceeds its limit by more than the overspend of its entry. -/
def ProvidersBounded (count : ℚ → ℚ) (n : Audit) : Prop :=
  ∀ key u, n.store.providerBudgetUsage.get? key = some u → ∃ used, u.usedUsdExact = .finite used ∧
    used * 100 + u.reservedCostCents ≤ u.budgetLimitCents + overspend count (n.providers key)

/-- No execution has cost more than it had reserved. -/
structure WithinReserved (n : Audit) : Prop where
  grants : ∀ key, ∀ e ∈ n.grants key, e.cents ≤ e.reserved
  providers : ∀ key, ∀ e ∈ n.providers key, e.cents ≤ e.reserved

/-- No limit is exceeded. -/
structure WithinLimits (policy : Dict) (n : Audit) : Prop where
  grants : ∀ grant ∈ grantsOf policy, ∀ maxCostCents, maxCostCentsOf grant = .ok maxCostCents → 0 < maxCostCents →
    ∀ u, n.store.grantUsage.get? (grantIdOf grant) = some u → u.usedCostCents + u.reservedCostCents ≤ maxCostCents
  providers : ∀ key u, n.store.providerBudgetUsage.get? key = some u → ∃ used, u.usedUsdExact = .finite used ∧
    used * 100 + u.reservedCostCents ≤ u.budgetLimitCents

/-- **In particular** no limit is exceeded while no execution costs more than it had reserved. -/
theorem WithinReserved.withinLimits {policy : Dict} {n : Audit} (hwithin : n.WithinReserved)
    (hgrants : n.GrantsBounded policy wholeCents) (hproviders : n.ProvidersBounded tenDecimalDollars) :
    n.WithinLimits policy where
  grants := by
    intro grant hgrant maxCostCents hmax hpos u hu
    have hbound := hgrants grant hgrant maxCostCents hmax hpos u hu
    rw [overspend_eq_zero fun e he => wholeCents_le (hwithin.grants _ e he), add_zero] at hbound
    exact_mod_cast hbound
  providers := by
    intro key u hu
    obtain ⟨used, hused, hbound⟩ := hproviders key u hu
    rw [overspend_eq_zero fun e he => tenDecimalDollars_le (hwithin.providers _ e he), add_zero] at hbound
    exact ⟨used, hused, hbound⟩

end Audit

/-! ## One policy -/

/-- The call brings no other policy. -/
def BudgetOp.Under (policy : Dict) : BudgetOp → Prop
  | .reserve _ _ _ _ bundle => bundlePolicy bundle = .null ∨ bundlePolicy bundle = .dict policy
  | .cachePolicy bundle => bundlePolicy bundle = .null ∨ bundlePolicy bundle = .dict policy
  | .storeFetchedPolicy payload => bundlePolicy payload = .null ∨ bundlePolicy payload = .dict policy
  | _ => True

/-- The state has the policy. -/
def OnPolicy (policy : Dict) (s : BudgetState) : Prop := s.budgetPolicy = .dict policy

section Policy

variable {policy : Dict} {env : BudgetEnv} {s : BudgetState} {bundle : Value}

theorem keepsPolicy_saveState (h : OnPolicy policy s) :
    Keeps (Sound (OnPolicy policy)) (saveState env s) fun _ => True := keeps_storeSave h

theorem keepsPolicy_cachePolicy (hbundle : bundlePolicy bundle = .null ∨ bundlePolicy bundle = .dict policy) :
    Keeps (Sound (OnPolicy policy)) (cachePolicyFromGovernance env bundle) fun cached =>
      cached = .null ∨ cached = .dict policy := by
  unfold cachePolicyFromGovernance
  unfold bundlePolicy at hbundle
  refine Keeps.ite (fun hdict => ?_) fun _ => Keeps.pure (Or.inl rfl)
  rw [if_pos hdict] at hbundle
  refine (keeps_loadState env).bind fun t ht => ?_
  refine Keeps.ite (fun _ => Keeps.pure hbundle) fun _ => ?_
  refine Keeps.bind (keepsPolicy_saveState ?_) fun _ _ => Keeps.pure hbundle
  rcases hbundle with hnull | hsame
  · rw [hnull] at hdict
    cases hdict
  · exact hsame

theorem keepsPolicy_deny (env : BudgetEnv) (args : ReservationArgs) (request : TaskExecutionRequest)
    (reason policyStatus : String) :
    Keeps (Sound (OnPolicy policy)) (deny env args request reason policyStatus) fun _ => True := by
  have hrecord : Keeps (Sound (OnPolicy policy)) (recordDenial env args.taskId request reason args.providerId)
      fun _ => True := (keeps_loadState env).bind fun _ ht => keepsPolicy_saveState ht
  exact hrecord.bind fun _ _ => Keeps.pure trivial

theorem keepsPolicy_reserveProviderBudget {args : ReservationArgs} (h : OnPolicy policy s) :
    Keeps (Sound (OnPolicy policy)) (StoreAction.ofResult (reserveProviderBudget env s args))
      fun provider => OnPolicy policy provider.2 := by
  refine Keeps.ofResult fun provider hprovider => ?_
  obtain ⟨first, state⟩ := provider
  obtain ⟨providers, rfl⟩ := exists_providers_of_reserveProviderBudget hprovider
  exact h

/-- A reservation keeps the policy. -/
theorem keepsPolicy_reserveExecution (env : BudgetEnv) (taskId : String) (request : TaskExecutionRequest)
    (providerId modelId : String) (hbundle : bundlePolicy bundle = .null ∨ bundlePolicy bundle = .dict policy) :
    Keeps (Sound (OnPolicy policy)) (reserveExecution env taskId request providerId modelId bundle)
      fun _ => True := by
  have hwithout : ∀ (s : BudgetState) (args : ReservationArgs) (policyStatus : String), OnPolicy policy s →
      Keeps (Sound (OnPolicy policy)) (reserveWithoutGrants env s args request policyStatus) fun _ => True := by
    intro s args policyStatus hs
    refine (keepsPolicy_reserveProviderBudget hs).bind fun provider hprovider => ?_
    split
    · exact Keeps.pure trivial
    · refine Keeps.ite (fun _ => ?_) fun _ => keepsPolicy_deny env args request _ _
      exact (keepsPolicy_saveState hprovider).bind fun _ _ => Keeps.pure trivial
  refine (keeps_loadState env).bind fun s hs => ?_
  refine (keepsPolicy_cachePolicy hbundle).bind fun cached hcached => ?_
  refine (keeps_reservationCostCents env request providerId modelId).bind fun cents _ => ?_
  have hforce : cached.orElse s.budgetPolicy = .dict policy := by
    rcases hcached with rfl | rfl
    · exact hs
    · unfold Value.orElse
      split
      · rfl
      · exact hs
  dsimp only
  rw [hforce]
  dsimp only
  refine Keeps.ite (fun _ => hwithout _ _ _ rfl) fun _ => ?_
  refine (Keeps.ofResult fun _ _ => trivial).bind fun grants _ => ?_
  refine Keeps.ite (fun _ => keepsPolicy_deny env _ request _ _) fun _ => ?_
  refine (Keeps.ofResult fun _ hloop => hloop).bind fun outcome hloop => ?_
  rcases outcome with ⟨reason, state⟩ | ⟨applied, state⟩
  · exact keepsPolicy_deny env _ request _ _
  · have hstate : OnPolicy policy state := budgetPolicy_reserveGrants hloop
    refine (keepsPolicy_reserveProviderBudget hstate).bind fun provider hprovider => ?_
    refine Keeps.ite (fun _ => keepsPolicy_deny env _ request _ _) fun _ => ?_
    exact (keepsPolicy_saveState hprovider).bind fun _ _ => Keeps.pure trivial

/-- **One policy**: no call under it brings another. -/
theorem BudgetOp.Under.keepsPolicy {op : BudgetOp} (h : op.Under policy) (env : BudgetEnv) :
    Keeps (Sound (OnPolicy policy)) (op.action env) fun _ => True := by
  cases op with
  | reserve taskId request providerId modelId bundle =>
    exact (keepsPolicy_reserveExecution env taskId request providerId modelId h).discard
  | finalize taskId metrics status =>
    have hfinalize : Keeps (Sound (OnPolicy policy)) (finalizeExecution env taskId metrics status) fun _ => True := by
      refine (keeps_loadState env).bind fun s hs => ?_
      refine (Keeps.ofResult fun _ _ => trivial).bind fun cents _ => ?_
      refine (Keeps.ofResult fun _ _ => trivial).bind fun providers _ => ?_
      refine Keeps.bind (Keeps.ite (fun _ => keepsPolicy_saveState hs) fun _ => Keeps.pure trivial) fun _ _ => ?_
      exact Keeps.pure trivial
    exact hfinalize.discard
  | release taskId reason =>
    have hrelease : Keeps (Sound (OnPolicy policy)) (releaseExecution env taskId reason) fun _ => True := by
      refine (keeps_loadState env).bind fun s hs => ?_
      refine Keeps.bind (Keeps.ite (fun _ => keepsPolicy_saveState hs) fun _ => Keeps.pure trivial) fun _ _ => ?_
      exact Keeps.pure trivial
    exact hrelease.discard
  | cachePolicy bundle => exact (keepsPolicy_cachePolicy h).discard
  | storeFetchedPolicy payload =>
    change bundlePolicy payload = .null ∨ bundlePolicy payload = .dict policy at h
    unfold bundlePolicy at h
    refine Keeps.ite (fun hdict => ?_) fun _ => Keeps.pure trivial
    rw [if_pos hdict] at h
    refine (keeps_loadState env).bind fun s _ => keepsPolicy_saveState ?_
    rcases h with hnull | hsame
    · rw [hnull] at hdict
      cases hdict
    · exact hsame

/-- The policy of a reservation is the one policy. -/
theorem activePolicy_eq {active : Dict} (hs : OnPolicy policy s)
    (hbundle : bundlePolicy bundle = .null ∨ bundlePolicy bundle = .dict policy)
    (h : activePolicy bundle s = some active) : active = policy := by
  have hforce : policyInForce bundle s = .dict policy := by
    unfold policyInForce Value.orElse
    rcases hbundle with hnull | hsame
    · rw [hnull]
      exact hs
    · rw [hsame]
      split
      · rfl
      · exact hs
  unfold activePolicy at h
  rw [hforce] at h
  dsimp only at h
  split at h
  · exact (Option.some.inj h).symm
  · cases h

end Policy

/-! ## Entries within their bounds -/

/-- Settling a reservation gives its amount back. -/
theorem reserved_settle {reserved : ℤ} {reservations : Reservations} (h : (accountOf reserved reservations).Balanced)
    (reservationId : String) :
    ((accountOf reserved reservations).settle reservationId).reserved =
      reserved - ((reservations.get? reservationId).map Reservation.reservedCostCents).getD 0 := by
  rw [Account.settle_reserved h]
  show reserved - (reservations.mapValues Reservation.reservedCostCents).contribution id reservationId = _
  rcases hget : reservations.get? reservationId with _ | r
  · rw [OrderedDict.contribution_of_none (by rw [OrderedDict.get?_mapValues, hget, Option.map_none])]
    rfl
  · rw [OrderedDict.contribution_of_get? (by rw [OrderedDict.get?_mapValues, hget, Option.map_some])]
    rfl

theorem reserved_release {u : GrantUsage} (h : u.account.Balanced) (reservationId nowIso : String) :
    (u.release reservationId nowIso).reservedCostCents =
      u.reservedCostCents - ((u.reservations.get? reservationId).map Reservation.reservedCostCents).getD 0 :=
  (congrArg Account.reserved (GrantUsage.account_release reservationId nowIso u)).trans (reserved_settle h _)

theorem providerReserved_release {u : ProviderUsage} (h : u.account.Balanced) (reservationId nowIso : String) :
    (u.release reservationId nowIso).reservedCostCents =
      u.reservedCostCents - ((u.reservations.get? reservationId).map Reservation.reservedCostCents).getD 0 :=
  (congrArg Account.reserved (ProviderUsage.account_release reservationId nowIso u)).trans (reserved_settle h _)

/-- The amounts of balanced reservations are not negative. -/
theorem nonneg_of_balanced {reserved : ℤ} {reservations : Reservations} {reservationId : String} {r : Reservation}
    (h : (accountOf reserved reservations).Balanced) (hr : reservations.get? reservationId = some r) :
    0 ≤ r.reservedCostCents :=
  (balanced_accountOf_iff.mp h).1 r (OrderedDict.mem_values_of_get? hr)

theorem nonneg_getD_of_balanced {reserved : ℤ} {reservations : Reservations}
    (h : (accountOf reserved reservations).Balanced) (reservationId : String) :
    0 ≤ ((reservations.get? reservationId).map Reservation.reservedCostCents).getD 0 := by
  rcases hr : reservations.get? reservationId with _ | r
  · exact le_rfl
  · exact nonneg_of_balanced h hr

/-- A final cost in whole cents is the exact one rounded up. -/
theorem finalCostCents_eq_ok {metrics : Option TaskExecutionMetrics} {cents : Option ℤ}
    (h : finalCostCents metrics = .ok cents) : cents = (exactCents metrics).map Int.ceil := by
  unfold finalCostCents at h
  unfold exactCents
  split at h
  · next hnone =>
    rw [← Except.ok.inj h, hnone]
    rfl
  · next cost hcost =>
    obtain ⟨c, hc, h⟩ := bind_eq_ok.mp h
    obtain ⟨q, rfl, rfl⟩ := ceil_scale_eq_ok hc
    rw [← Except.ok.inj h, hcost]
    simp only [Option.map_some, Option.some.injEq]
    rcases le_total 0 (q * 100) with hpos | hneg
    · rw [max_eq_left hpos, max_eq_left (Int.ceil_nonneg hpos)]
    · rw [max_eq_right hneg, max_eq_right (Int.ceil_le.mpr (by exact_mod_cast hneg)), Int.ceil_zero]

/-- The cost that a provider entry adds is the exact one. -/
theorem exactCents_of_finalCostUsdExact {metrics : Option TaskExecutionMetrics} {q : ℚ}
    (h : finalCostUsdExact metrics = .finite q) : (exactCents metrics).getD 0 = q * 100 := by
  unfold finalCostUsdExact at h
  unfold exactCents
  split at h
  · next hnone =>
    rw [hnone, ← FloatVal.finite.inj h]
    simp
  · next cost hcost =>
    rw [hcost]
    split at h
    · next hnonneg =>
      subst h
      have hq : 0 ≤ q := of_decide_eq_true hnonneg
      simp only [Option.getD_some]
      exact max_eq_left (by positivity)
    · next hneg =>
      rw [← FloatVal.finite.inj h]
      rcases cost with x | _ | _ | _
      · have hx : ¬0 ≤ x := fun hx => hneg (decide_eq_true hx)
        simp only [Option.getD_some, zero_mul]
        exact max_eq_right (by linarith)
      all_goals simp

section Grant

variable {u : GrantUsage} {maxCostCents : ℤ} {settled : List Settled} {reservationId nowIso : String}

/-- A grant entry keeps its limit up to the overspend. -/
def GrantUsage.Within (u : GrantUsage) (maxCostCents : ℤ) (settled : List Settled) : Prop :=
  (u.usedCostCents + u.reservedCostCents : ℚ) ≤ maxCostCents + overspend wholeCents settled

/-- A reservation that is allowed stays within the limit. -/
theorem GrantUsage.within_reserve {args : ReservationArgs}
    (henough : args.cents ≤ maxCostCents - u.usedCostCents - u.reservedCostCents) :
    (u.reserve args nowIso).Within maxCostCents settled := by
  have hover : 0 ≤ overspend wholeCents settled := overspend_nonneg
  have hsum : u.usedCostCents + (u.reservedCostCents + args.cents) ≤ maxCostCents := by omega
  have hsum : (u.usedCostCents : ℚ) + ((u.reservedCostCents + args.cents : ℤ) : ℚ) ≤ maxCostCents := by
    exact_mod_cast hsum
  exact hsum.trans (le_add_of_nonneg_right hover)

theorem GrantUsage.Within.release (h : u.Within maxCostCents settled) (hbalanced : u.account.Balanced) :
    (u.release reservationId nowIso).Within maxCostCents settled := by
  have hreserved := reserved_release hbalanced reservationId nowIso
  have hnonneg := nonneg_getD_of_balanced hbalanced reservationId
  have hused : (u.release reservationId nowIso).usedCostCents = u.usedCostCents :=
    congrArg Prod.fst u.totals_release
  have hless : ((u.release reservationId nowIso).reservedCostCents : ℚ) ≤ u.reservedCostCents := by
    exact_mod_cast hreserved.trans_le (sub_le_self _ hnonneg)
  unfold GrantUsage.Within at h ⊢
  rw [hused]
  linarith

/-- A completion puts the final cost in the place of the reserved amount. -/
theorem GrantUsage.Within.finalize {metrics : Option TaskExecutionMetrics} {status : String} {cents : Option ℤ}
    (h : u.Within maxCostCents settled) (hbalanced : u.account.Balanced)
    (hcents : finalCostCents metrics = .ok cents) :
    (u.finalize reservationId nowIso (costOf status metrics cents)).Within maxCostCents
      (settled ++ if status = "completed" then
        ((u.reservations.get? reservationId).map fun r =>
          (⟨(exactCents metrics).getD r.reservedCostCents, r.reservedCostCents⟩ : Settled)).toList
      else []) := by
  by_cases hcompleted : status = "completed"
  case neg =>
    have hreleased : u.finalize reservationId nowIso (costOf status metrics cents) =
        u.release reservationId nowIso := by
      have hfalse : (costOf status metrics cents).completed = false := beq_eq_false_iff_ne.mpr hcompleted
      rcases hget : u.reservations.get? reservationId with _ | r
      · rw [GrantUsage.finalize_of_none hget, GrantUsage.release_of_none hget]
      · unfold GrantUsage.finalize
        rw [hget, hfalse]
        rfl
    rw [if_neg hcompleted, List.append_nil, hreleased]
    exact h.release hbalanced
  rw [if_pos hcompleted]
  rcases hget : u.reservations.get? reservationId with _ | r
  · rw [GrantUsage.finalize_of_none hget, Option.map_none, Option.toList_none, List.append_nil]
    exact h
  have hr := nonneg_of_balanced hbalanced hget
  have happlied : ((max ((costOf status metrics cents).applied r) 0 : ℤ) : ℚ) =
      wholeCents ((exactCents metrics).getD r.reservedCostCents) := by
    show ((max (cents.getD r.reservedCostCents) 0 : ℤ) : ℚ) = _
    rw [finalCostCents_eq_ok hcents]
    unfold wholeCents
    rcases hexact : exactCents metrics with _ | c
    · simp [hr]
    · have hc : 0 ≤ c := by
        unfold exactCents at hexact
        split at hexact
        · rw [← Option.some.inj hexact]
          exact le_max_right _ _
        · cases hexact
      simp [Int.ceil_nonneg hc]
  have hreserved := reserved_release hbalanced reservationId nowIso
  rw [hget, Option.map_some, Option.getD_some] at hreserved
  have hafter : (u.finalize reservationId nowIso (costOf status metrics cents)).reservedCostCents =
      u.reservedCostCents - r.reservedCostCents := by
    rw [← hreserved]
    exact congrArg Account.reserved ((GrantUsage.account_finalize reservationId nowIso _ u).trans
      (GrantUsage.account_release reservationId nowIso u).symm)
  have hused : (u.finalize reservationId nowIso (costOf status metrics cents)).usedCostCents =
      u.usedCostCents + max ((costOf status metrics cents).applied r) 0 := by
    rw [GrantUsage.finalize_eq hget (beq_iff_eq.mpr hcompleted)]
  have hover := le_max_left (wholeCents ((exactCents metrics).getD r.reservedCostCents) - r.reservedCostCents) 0
  unfold GrantUsage.Within at h ⊢
  rw [hafter, hused, Option.map_some, Option.toList_some, overspend_append, overspend_singleton]
  push_cast [happlied]
  linarith

end Grant

/-- A provider entry counts its exact cost, with ten decimals. -/
structure ProviderUsage.Counts (u : ProviderUsage) (used : ℚ) : Prop where
  exact : u.usedCostUsdExact = .finite used
  decimals : TenDecimals used
  nonneg : 0 ≤ used
  cents : u.usedCostCents = ⌈used * 100⌉

/-- A provider entry keeps its limit up to the overspend. -/
structure ProviderUsage.Within (u : ProviderUsage) (settled : List Settled) (used : ℚ) : Prop
    extends u.Counts used where
  bound : used * 100 + u.reservedCostCents ≤ u.budgetLimitCents + overspend tenDecimalDollars settled

section Provider

variable {u u' : ProviderUsage} {settled : List Settled} {used : ℚ} {key reservationId nowIso : String}

/-- The cost that the check of a reservation reads. -/
theorem ProviderUsage.Counts.usedUsdExact (h : u.Counts used) : u.usedUsdExact = .finite used := by
  unfold ProviderUsage.usedUsdExact
  rw [h.exact]
  rcases h.nonneg.lt_or_eq with hpos | hzero
  · rw [if_pos (show (FloatVal.finite used).isPos = true from decide_eq_true hpos)]
    exact congrArg FloatVal.finite h.decimals.round10_eq
  · subst hzero
    rw [if_neg (by decide), h.cents]
    simp [round10_zero]

theorem floatOfRat_of_nonneg {q : ℚ} (h : 0 ≤ q) :
    Value.floatOfRat q = .posInf ∨ Value.floatOfRat q = .finite q := by
  have hnonneg := isNonneg_floatOfRat h
  unfold Value.floatOfRat at hnonneg ⊢
  split
  · exact Or.inl rfl
  · next hsmall =>
    rw [if_neg hsmall] at hnonneg
    split
    · next hneg =>
      rw [if_pos hneg] at hnonneg
      cases hnonneg
    · exact Or.inr rfl

/-- A reservation that is allowed stays within the limit. -/
theorem ProviderUsage.Counts.reserve {args : ReservationArgs} (h : u.Counts used)
    (henough : u.exhaustedBy args.cents = false) : (u.reserve args nowIso).Within settled used where
  exact := h.exact
  decimals := h.decimals
  nonneg := h.nonneg
  cents := h.cents
  bound := by
    have hover : 0 ≤ overspend tenDecimalDollars settled := overspend_nonneg
    have hleft : (args.cents : ℚ) ≤ u.budgetLimitCents - used * 100 - u.reservedCostCents := by
      unfold ProviderUsage.exhaustedBy at henough
      rw [h.usedUsdExact, FloatVal.scale] at henough
      rcases floatOfRat_of_nonneg (mul_nonneg h.nonneg (by norm_num : (0 : ℚ) ≤ 100)) with hinf | hfinite
      · rw [hinf] at henough
        cases henough
      · rw [hfinite] at henough
        exact not_lt.mp (of_decide_eq_false henough)
    show used * 100 + ((u.reservedCostCents + args.cents : ℤ) : ℚ) ≤ u.budgetLimitCents + _
    push_cast
    linarith

theorem ProviderUsage.Within.release (h : u.Within settled used) (hbalanced : u.account.Balanced) :
    (u.release reservationId nowIso).Within settled used := by
  have hreserved := providerReserved_release hbalanced reservationId nowIso
  have hnonneg := nonneg_getD_of_balanced hbalanced reservationId
  have hless : ((u.release reservationId nowIso).reservedCostCents : ℚ) ≤ u.reservedCostCents := by
    exact_mod_cast hreserved.trans_le (sub_le_self _ hnonneg)
  have hsame : (u.release reservationId nowIso).usedCostUsdExact = u.usedCostUsdExact ∧
      (u.release reservationId nowIso).usedCostCents = u.usedCostCents ∧
      (u.release reservationId nowIso).budgetLimitCents = u.budgetLimitCents := by
    unfold ProviderUsage.release
    split <;> exact ⟨rfl, rfl, rfl⟩
  refine ⟨⟨hsame.1.trans h.exact, h.decimals, h.nonneg, hsame.2.1.trans h.cents⟩, ?_⟩
  have hbound := h.bound
  rw [hsame.2.2]
  linarith

/-- A completion puts the final cost in the place of the reserved amount. -/
theorem ProviderUsage.Within.finalize {metrics : Option TaskExecutionMetrics} {status : String} {cents : Option ℤ}
    (h : u.Within settled used) (hfields : u.Fields key) (hbalanced : u.account.Balanced)
    (hfinalize : u.finalize reservationId nowIso (costOf status metrics cents) = .ok u') :
    ∃ used', u'.Within (settled ++ if status = "completed" then
        ((u.reservations.get? reservationId).map fun r =>
          (⟨(exactCents metrics).getD 0, r.reservedCostCents⟩ : Settled)).toList
      else []) used' := by
  by_cases hcompleted : status = "completed"
  case neg =>
    have hreleased : u' = u.release reservationId nowIso := by
      have hfalse : (costOf status metrics cents).completed = false := beq_eq_false_iff_ne.mpr hcompleted
      rcases hget : u.reservations.get? reservationId with _ | r
      · rw [ProviderUsage.finalize_of_none hget] at hfinalize
        rw [ProviderUsage.release_of_none hget, Except.ok.inj hfinalize]
      · unfold ProviderUsage.finalize at hfinalize
        rw [hget, hfalse] at hfinalize
        exact (Except.ok.inj hfinalize).symm
    rw [if_neg hcompleted, List.append_nil, hreleased]
    exact ⟨used, h.release hbalanced⟩
  rw [if_pos hcompleted]
  rcases hget : u.reservations.get? reservationId with _ | r
  · rw [ProviderUsage.finalize_of_none hget] at hfinalize
    rw [Option.map_none, Option.toList_none, List.append_nil, ← Except.ok.inj hfinalize]
    exact ⟨used, h⟩
  obtain ⟨used₀, q, hused, -, hq, hqnonneg, rfl⟩ :=
    ProviderUsage.finalize_completed hfields hget (beq_iff_eq.mpr hcompleted) hfinalize
  obtain rfl := FloatVal.finite.inj (h.exact.symm.trans hused)
  have hreserved := providerReserved_release hbalanced reservationId nowIso
  rw [hget, Option.map_some, Option.getD_some] at hreserved
  have hgiven : (u.release reservationId nowIso).reservedCostCents =
      max (u.reservedCostCents - r.reservedCostCents) 0 := by
    unfold ProviderUsage.release
    rw [hget]
  have hmax := hgiven.symm.trans hreserved
  refine ⟨round10 (used + q),
    ⟨rfl, tenDecimals_round10 _, round10_nonneg (add_nonneg h.nonneg hqnonneg), rfl⟩, ?_⟩
  have hover := le_max_left (tenDecimalDollars (q * 100) - r.reservedCostCents) 0
  have hrounded := round10_add_le (q := q) h.decimals
  have hbound := h.bound
  have hcost : (exactCents metrics).getD 0 = q * 100 := exactCents_of_finalCostUsdExact hq
  rw [Option.map_some, Option.toList_some, overspend_append, overspend_singleton, hcost]
  dsimp only
  rw [hmax]
  push_cast
  linarith

end Provider

/-! ## Runs under one policy -/

/-- What is known of every state that a run under one policy reaches. -/
structure Audit.InOrder (policy : Dict) (n : Audit) : Prop where
  valid : n.store.Valid
  balanced : n.store.Balanced
  onPolicy : OnPolicy policy n.store
  grants : ∀ grant ∈ grantsOf policy, ∀ maxCostCents, maxCostCentsOf grant = .ok maxCostCents → 0 < maxCostCents →
    ∀ u, n.store.grantUsage.get? (grantIdOf grant) = some u → u.Within maxCostCents (n.grants (grantIdOf grant))
  providers : ∀ key u, n.store.providerBudgetUsage.get? key = some u → ∃ used, u.Within (n.providers key) used

section Run

variable {policy : Dict} {n : Audit} {env : BudgetEnv} {op : BudgetOp} {s' : BudgetState}

theorem Audit.InOrder.providersBounded (h : n.InOrder policy) : n.ProvidersBounded tenDecimalDollars := by
  intro key u hu
  obtain ⟨used, hwithin⟩ := h.providers key u hu
  exact ⟨used, hwithin.usedUsdExact, hwithin.bound⟩

/-- What is left to show of a call. -/
theorem Audit.InOrder.fire_of (h : n.InOrder policy) (hunder : op.Under policy)
    (hstore : (op.action env).store (some n.store) = some s')
    (hgrants : ∀ grant ∈ grantsOf policy, ∀ maxCostCents, maxCostCentsOf grant = .ok maxCostCents →
      0 < maxCostCents → ∀ u, s'.grantUsage.get? (grantIdOf grant) = some u →
        u.Within maxCostCents ((n.fire (env, op)).grants (grantIdOf grant)))
    (hproviders : ∀ key u, s'.providerBudgetUsage.get? key = some u →
      ∃ used, u.Within ((n.fire (env, op)).providers key) used) : (n.fire (env, op)).InOrder policy := by
  have hfire : (n.fire (env, op)).store = s' := by
    rw [Audit.fire]
    dsimp only
    rw [hstore, Option.getD_some]
  obtain ⟨t, ht, hvalid, hbalanced⟩ :=
    (balancedInvariant.keeps_action env op (some n.store) ⟨_, rfl, h.valid, h.balanced⟩).1
  obtain ⟨t', ht', -, hpolicy⟩ := (hunder.keepsPolicy env (some n.store) ⟨_, rfl, h.valid, h.onPolicy⟩).1
  obtain rfl := Option.some.inj (ht.symm.trans hstore)
  obtain rfl := Option.some.inj (ht'.symm.trans hstore)
  exact ⟨hfire ▸ hvalid, hfire ▸ hbalanced, hfire ▸ hpolicy, hfire ▸ hgrants, hfire ▸ hproviders⟩

/-- A call that completes nothing settles nothing. -/
theorem Audit.settled_of_none (hnone : n.completion env op = none) :
    (n.fire (env, op)).grants = n.grants ∧ (n.fire (env, op)).providers = n.providers := by
  rw [Audit.fire]
  dsimp only
  rw [hnone]
  exact ⟨funext fun key => List.append_nil _, funext fun key => List.append_nil _⟩

/-- What a finalization that returns settles. -/
theorem Audit.settled_of_completion {taskId status : String} {metrics : Option TaskExecutionMetrics}
    (hcompletion : n.completion env op = if status = "completed" then some (taskId, metrics) else none)
    (key : String) :
    (n.fire (env, op)).grants key =
        n.grants key ++ (if status = "completed" then n.settledOnGrant key taskId metrics else []) ∧
      (n.fire (env, op)).providers key =
        n.providers key ++ if status = "completed" then n.settledOnProvider key taskId metrics else [] := by
  rw [Audit.fire]
  dsimp only
  rw [hcompletion]
  by_cases hstatus : status = "completed"
  · rw [if_pos hstatus, if_pos hstatus, if_pos hstatus]
    exact ⟨rfl, rfl⟩
  · rw [if_neg hstatus, if_neg hstatus, if_neg hstatus]
    exact ⟨rfl, rfl⟩

/-- A call that leaves the ledgers alone. -/
theorem Audit.InOrder.fire_same (h : n.InOrder policy) (hunder : op.Under policy)
    (hstore : (op.action env).store (some n.store) = some s') (hnone : n.completion env op = none)
    (hsame : SameLedgers n.store s') : (n.fire (env, op)).InOrder policy := by
  refine h.fire_of hunder hstore ?_ ?_
  · rw [(Audit.settled_of_none hnone).1, hsame.grants]
    exact h.grants
  · rw [(Audit.settled_of_none hnone).2, hsame.providers]
    exact h.providers

/-- **A reservation** stays within the limits: the turn of a grant has found enough left, and so has the check of
the provider budget. -/
theorem Audit.InOrder.reserve (h : n.InOrder policy) (hids : ((grantsOf policy).map grantIdOf).Nodup)
    (env : BudgetEnv) {taskId : String} {request : TaskExecutionRequest} {providerId modelId : String}
    {bundle : Value} (hunder : (BudgetOp.reserve taskId request providerId modelId bundle).Under policy) :
    (n.fire (env, .reserve taskId request providerId modelId bundle)).InOrder policy := by
  obtain ⟨result, s', hexec, hvalid, heffect⟩ :=
    reserveExecution_effect env taskId request providerId modelId bundle h.valid
  have hnone : n.completion env (.reserve taskId request providerId modelId bundle) = none := rfl
  have hsettled := Audit.settled_of_none hnone
  refine h.fire_of hunder (store_discard hexec) ?_ ?_
  · rw [hsettled.1]
    rcases heffect.grants_cases with hsame | ⟨cents, active, grants, t, hcents, hactive, hgrants, hturns, hafter⟩
    · rw [hsame]
      exact h.grants
    obtain rfl := activePolicy_eq h.onPolicy hunder hactive
    have hwork := (sameLedgers_workingState bundle n.store).grants
    have hpolicy : validateBudgetPolicy (.dict active) = none := h.onPolicy ▸ h.valid.policy
    rw [hafter]
    refine hturns.keep (I := fun t => ∀ grant ∈ grantsOf active, ∀ maxCostCents,
      maxCostCentsOf grant = .ok maxCostCents → 0 < maxCostCents →
        ∀ u, t.grantUsage.get? (grantIdOf grant) = some u → u.Within maxCostCents (n.grants (grantIdOf grant)))
      ?_ (hwork ▸ h.grants)
    intro turned hturned t t' ht hturn grant hgrant maxCostCents hmax hpos u hu
    have hmem := ((mem_applicableGrants_iff hpolicy hgrants).mp hturned).1
    rw [hturn.written] at hu
    by_cases hkey : grantIdOf grant = grantIdOf turned
    · obtain rfl := List.inj_on_of_nodup_map hids hgrant hmem hkey
      obtain rfl := Option.some.inj ((OrderedDict.get?_set_self _ _ _).symm.trans hu)
      obtain ⟨limit, hlimit, henough⟩ := hturn.enough
      obtain rfl := Except.ok.inj (hmax.symm.trans hlimit)
      exact GrantUsage.within_reserve (henough hpos)
    · exact ht grant hgrant maxCostCents hmax hpos u ((OrderedDict.get?_set_of_ne _ _ hkey).symm.trans hu)
  · rw [hsettled.2]
    rcases heffect.providers_cases with ⟨hsame, -⟩ | ⟨r, settings, usage, -, -, hreserved⟩
    · rw [hsame]
      exact h.providers
    intro key u hu
    rw [hreserved.written] at hu
    by_cases hkey : key = providerUsageKey env providerId settings
    case neg => exact h.providers key u ((OrderedDict.get?_set_of_ne _ _ hkey).symm.trans hu)
    subst hkey
    obtain rfl := Option.some.inj ((OrderedDict.get?_set_self _ _ _).symm.trans hu)
    have hentry := hreserved.entry
    unfold ensureProviderBudgetUsageEntry at hentry
    split at hentry
    · next existing hexisting =>
      obtain rfl := Except.ok.inj hentry
      obtain ⟨used, hwithin⟩ := h.providers _ existing hexisting
      exact ⟨used, hwithin.reserve hreserved.enough⟩
    · obtain ⟨limit, -, hentry⟩ := bind_eq_ok.mp hentry
      obtain rfl := Except.ok.inj hentry
      refine ⟨0, ProviderUsage.Counts.reserve ⟨rfl, tenDecimals_zero, le_rfl, ?_⟩ hreserved.enough⟩
      simp

/-- **A completion** exceeds the limits by its overspend, and settles what it has cost. -/
theorem Audit.InOrder.finalize (h : n.InOrder policy) (env : BudgetEnv) (taskId : String)
    (metrics : Option TaskExecutionMetrics) (status : String) :
    (n.fire (env, .finalize taskId metrics status)).InOrder policy := by
  obtain ⟨result, s', hexec, hvalid, heffect, -⟩ := finalizeExecution_effect env taskId metrics status h.valid
  have hstore : (BudgetOp.action env (.finalize taskId metrics status)).store (some n.store) = some s' :=
    store_discard hexec
  cases heffect with
  | raised e =>
    refine h.fire_same trivial hstore ?_ (.refl _)
    rw [Audit.completion, hexec]
  | finalized result cents providers hcents hproviders hsame =>
    have hcompletion : n.completion env (.finalize taskId metrics status) =
        if status = "completed" then some (taskId, metrics) else none := by
      rw [Audit.completion, hexec]
    refine h.fire_of trivial hstore (fun grant hgrant maxCostCents hmax hpos u hu => ?_) fun key u hu => ?_
    · have hledger : s'.grantUsage = n.store.grantUsage.mapValues
          (GrantUsage.finalize (reservationIdOf taskId) env.nowIso (costOf status metrics cents)) := hsame.grants
      rw [hledger, OrderedDict.get?_mapValues] at hu
      obtain ⟨v, hv, rfl⟩ := Option.map_eq_some_iff.mp hu
      rw [(Audit.settled_of_completion hcompletion _).1, Audit.settledOnGrant, reservedIn_of_get? hv]
      exact (h.grants grant hgrant maxCostCents hmax hpos v hv).finalize
        (h.balanced.grants v (OrderedDict.mem_values_of_get? hv)) hcents
    · rw [hsame.providers] at hu
      rcases get?_updateValues hproviders key with ⟨-, hnone⟩ | ⟨v, v', hv, hfinalize, hv'⟩
      · exact absurd (hu.symm.trans hnone) (by simp)
      obtain rfl := Option.some.inj (hv'.symm.trans hu)
      obtain ⟨used, hwithin⟩ := h.providers key v hv
      have hheld : reservedFor n.store key (reservationIdOf taskId) =
          v.reservations.get? (reservationIdOf taskId) := by
        rw [reservedFor, hv, Option.bind_some]
      rw [(Audit.settled_of_completion hcompletion _).2, Audit.settledOnProvider, hheld]
      exact hwithin.finalize (h.valid.providerFields hv)
        (h.balanced.providers v (OrderedDict.mem_values_of_get? hv)) hfinalize

/-- **One call** under the policy. -/
theorem Audit.InOrder.fire (h : n.InOrder policy) (hids : ((grantsOf policy).map grantIdOf).Nodup)
    (env : BudgetEnv) (hunder : op.Under policy) : (n.fire (env, op)).InOrder policy := by
  cases op with
  | reserve taskId request providerId modelId bundle => exact h.reserve hids env hunder
  | finalize taskId metrics status => exact h.finalize env taskId metrics status
  | release taskId reason =>
    obtain ⟨s', hstore, -, heffect⟩ := BudgetOp.effect env (.release taskId reason) h.valid
    have hsame : SameLedgers (n.store.released env (reservationIdOf taskId)) s' := by
      cases heffect with
      | release hsame => exact hsame
    have hnone : n.completion env (.release taskId reason) = none := rfl
    have hsettled := Audit.settled_of_none hnone
    refine h.fire_of trivial hstore ?_ ?_
    · rw [hsettled.1]
      intro grant hgrant maxCostCents hmax hpos u hu
      have hledger : s'.grantUsage = n.store.grantUsage.mapValues
          (GrantUsage.release (reservationIdOf taskId) env.nowIso) := hsame.grants
      rw [hledger, OrderedDict.get?_mapValues] at hu
      obtain ⟨v, hv, rfl⟩ := Option.map_eq_some_iff.mp hu
      exact (h.grants grant hgrant maxCostCents hmax hpos v hv).release
        (h.balanced.grants v (OrderedDict.mem_values_of_get? hv))
    · rw [hsettled.2]
      intro key u hu
      have hledger : s'.providerBudgetUsage = n.store.providerBudgetUsage.mapValues
          (ProviderUsage.release (reservationIdOf taskId) env.nowIso) := hsame.providers
      rw [hledger, OrderedDict.get?_mapValues] at hu
      obtain ⟨v, hv, rfl⟩ := Option.map_eq_some_iff.mp hu
      obtain ⟨used, hwithin⟩ := h.providers key v hv
      exact ⟨used, hwithin.release (h.balanced.providers v (OrderedDict.mem_values_of_get? hv))⟩
  | cachePolicy bundle =>
    obtain ⟨s', hstore, -, heffect⟩ := BudgetOp.effect env (.cachePolicy bundle) h.valid
    cases heffect with
    | cachePolicy hsame => exact h.fire_same hunder hstore rfl hsame
  | storeFetchedPolicy payload =>
    obtain ⟨s', hstore, -, heffect⟩ := BudgetOp.effect env (.storeFetchedPolicy payload) h.valid
    cases heffect with
    | storeFetchedPolicy hsame => exact h.fire_same hunder hstore rfl hsame

end Run

/-- A state with the policy and nothing in its ledgers. -/
structure Opening (policy : Dict) (s : BudgetState) : Prop where
  valid : s.Valid
  onPolicy : OnPolicy policy s
  grants : s.grantUsage = .empty
  providers : s.providerBudgetUsage = .empty

theorem Opening.inOrder {policy : Dict} {s : BudgetState} (h : Opening policy s) :
    Audit.InOrder policy { store := s } where
  valid := h.valid
  balanced := by
    constructor
    · intro u hu
      rw [h.grants] at hu
      cases hu
    · intro u hu
      rw [h.providers] at hu
      cases hu
  onPolicy := h.onPolicy
  grants := by
    intro grant _ maxCostCents _ _ u hu
    rw [h.grants] at hu
    cases hu
  providers := by
    intro key u hu
    rw [h.providers] at hu
    cases hu

/-- **Bounded overspend.**  In every state that a run under one policy with one grant for each id reaches, no grant
and no provider budget exceeds its limit by more than what its executions have cost more than they had reserved; if
none has, no limit is exceeded. -/
theorem bounded_overspend {policy : Dict} {s : BudgetState} (hs : Opening policy s)
    (hids : ((grantsOf policy).map grantIdOf).Nodup) (calls : List (BudgetEnv × BudgetOp))
    (hcalls : ∀ call ∈ calls, call.2.Under policy) :
    (Run.after Audit.fire { store := s } calls).GrantsBounded policy wholeCents ∧
      (Run.after Audit.fire { store := s } calls).ProvidersBounded tenDecimalDollars ∧
      ((Run.after Audit.fire { store := s } calls).WithinReserved →
        (Run.after Audit.fire { store := s } calls).WithinLimits policy) := by
  have horder : (Run.after Audit.fire { store := s } calls).InOrder policy :=
    Run.keeps_of_forall hcalls hs.inOrder fun n call hn hunder => hn.fire hids call.1 hunder
  exact ⟨horder.grants, horder.providersBounded, fun hwithin => hwithin.withinLimits horder.grants
    horder.providersBounded⟩

/-! ## Costs that are not rounded, and ids that are not distinct -/

/-- A grant of forty cents until the end of January. -/
def fortyCents : Dict :=
  policyUntil "2026-01-31T00:00:00+00:00" [grantUntil "2026-01-31T00:00:00+00:00" "g1" "node" "node-1" 40]

/-- Ten cents for a customer and a dollar for the node, under one id. -/
def sharedId : Dict :=
  policyUntil "2026-01-31T00:00:00+00:00"
    [grantUntil "2026-01-31T00:00:00+00:00" "g1" "customer" "customer-1" 10,
      grantUntil "2026-01-31T00:00:00+00:00" "g1" "node" "node-1" 100]

/-- A provider with a budget of forty cents. -/
def fortyCentsEnv : BudgetEnv :=
  { januaryEnv with providerBudgetLimits := .dict [("openai", .dict [("max_cost_cents", .int 40)])] }

/-- The state of a node under a policy. -/
def openingState (policy : Dict) : BudgetState := { newState with budgetPolicy := .dict policy }

/-- A reservation of forty cents, and a completion that costs a little more. -/
def fortyCentsCalls : List (BudgetEnv × BudgetOp) :=
  [(fortyCentsEnv, .reserve "t1" sampleRequest "openai" "gpt" .null),
    (fortyCentsEnv, .finalize "t1" (some { estimatedCost := some (.finite (2 / 5 + 6 / 10 ^ 11)) }) "completed")]

/-- A reservation of forty cents. -/
def sharedIdCalls : List (BudgetEnv × BudgetOp) := [(januaryEnv, .reserve "t1" sampleRequest "openai" "gpt" .null)]

/-- What a run leaves of a grant and of the provider. -/
def Audit.amounts (n : Audit) : Option (ℤ × ℤ) × Option (ℤ × ℤ × FloatVal) :=
  ((n.store.grantUsage.get? "g1").map fun u => (u.usedCostCents, u.reservedCostCents),
    (n.store.providerBudgetUsage.get? "openai:monthly:2026-01-01T00:00:00+00:00").map fun u =>
      (u.budgetLimitCents, u.reservedCostCents, u.usedUsdExact))

theorem amounts_fortyCents :
    (Run.after Audit.fire { store := openingState fortyCents } fortyCentsCalls).amounts =
        (some (41, 0), some (40, 0, .finite (4000000001 / 10 ^ 10))) ∧
      (Run.after Audit.fire { store := openingState fortyCents } fortyCentsCalls).grants "g1" =
        [⟨40 + 6 / 10 ^ 9, 40⟩] ∧
      (Run.after Audit.fire { store := openingState fortyCents } fortyCentsCalls).providers
          "openai:monthly:2026-01-01T00:00:00+00:00" = [⟨40 + 6 / 10 ^ 9, 40⟩] := by
  decide +kernel

theorem amounts_sharedId :
    (Run.after Audit.fire { store := openingState sharedId } sharedIdCalls).amounts = (some (0, 40), none) ∧
      (Run.after Audit.fire { store := openingState sharedId } sharedIdCalls).grants "g1" = [] := by
  decide +kernel

/-- **The exact costs do not bound the overspend**, and neither do rounded ones when two grants have one id. -/
theorem exact_costs_do_not_bound :
    ¬(Run.after Audit.fire { store := openingState fortyCents } fortyCentsCalls).GrantsBounded fortyCents id ∧
      ¬(Run.after Audit.fire { store := openingState fortyCents } fortyCentsCalls).ProvidersBounded id ∧
      ¬(Run.after Audit.fire { store := openingState sharedId } sharedIdCalls).GrantsBounded sharedId wholeCents := by
  obtain ⟨hamounts, hgrants, hproviders⟩ := amounts_fortyCents
  obtain ⟨hshared, hnothing⟩ := amounts_sharedId
  obtain ⟨hgrant, hprovider⟩ := Prod.mk.inj hamounts
  obtain ⟨hshared, -⟩ := Prod.mk.inj hshared
  refine ⟨fun hbounded => ?_, fun hbounded => ?_, fun hbounded => ?_⟩
  · obtain ⟨u, hu, hcents⟩ := Option.map_eq_some_iff.mp hgrant
    obtain ⟨hused, hreserved⟩ := Prod.mk.inj hcents
    have hbound : (u.usedCostCents + u.reservedCostCents : ℚ) ≤ (40 : ℤ) + overspend id
        ((Run.after Audit.fire { store := openingState fortyCents } fortyCentsCalls).grants "g1") :=
      hbounded _ List.mem_cons_self 40 (by decide +kernel) (by norm_num) u hu
    rw [hgrants, hused, hreserved, overspend_singleton] at hbound
    norm_num at hbound
  · obtain ⟨u, hu, hcents⟩ := Option.map_eq_some_iff.mp hprovider
    obtain ⟨hlimit, hrest⟩ := Prod.mk.inj hcents
    obtain ⟨hreserved, hexact⟩ := Prod.mk.inj hrest
    obtain ⟨used, hused, hbound⟩ := hbounded _ u hu
    obtain rfl := FloatVal.finite.inj (hexact.symm.trans hused)
    rw [hproviders, hlimit, hreserved, overspend_singleton] at hbound
    norm_num at hbound
  · obtain ⟨u, hu, hcents⟩ := Option.map_eq_some_iff.mp hshared
    obtain ⟨hused, hreserved⟩ := Prod.mk.inj hcents
    have hbound : (u.usedCostCents + u.reservedCostCents : ℚ) ≤ (10 : ℤ) + overspend wholeCents
        ((Run.after Audit.fire { store := openingState sharedId } sharedIdCalls).grants "g1") :=
      hbounded _ List.mem_cons_self 10 (by decide +kernel) (by norm_num) u hu
    rw [hnothing, hused, hreserved, overspend_nil] at hbound
    norm_num at hbound

theorem opening_fortyCents : Opening fortyCents (openingState fortyCents) where
  valid := by decide +kernel
  onPolicy := rfl
  grants := rfl
  providers := rfl

/-- The run with forty cents is bounded. -/
theorem bounded_overspend_fortyCents :
    (Run.after Audit.fire { store := openingState fortyCents } fortyCentsCalls).GrantsBounded fortyCents wholeCents ∧
      (Run.after Audit.fire { store := openingState fortyCents } fortyCentsCalls).ProvidersBounded
        tenDecimalDollars := by
  have hbounded := bounded_overspend opening_fortyCents (by decide +kernel) fortyCentsCalls (by
    intro call hcall
    rcases List.mem_pair.mp hcall with rfl | rfl
    · exact Or.inl rfl
    · trivial)
  exact ⟨hbounded.1, hbounded.2.1⟩

end Budget
end HexeAiNode
