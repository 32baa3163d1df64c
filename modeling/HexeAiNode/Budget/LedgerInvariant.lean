import HexeAiNode.Budget.Manager

/-!
# Invariants of the budget ledgers

A property of the two ledgers that the manager's work on a loaded state preserves holds of the store
after every run of the manager.

`LedgerInvariant` lists what has to be checked of such a property: reserving in a provider entry and
in a grant entry, releasing and finalizing.  The rest is done once and for all here: the policy, the denials and the summaries do not touch the ledgers
(`LedgerInvariant.congr`), an operation saves only a state it has derived from a loaded one, and a
state is only saved when it is valid.

`refresh_policy_from_core` waits for the core between its two accesses to the store, and other
operations may run meanwhile; the two parts are operations of their own in `BudgetOp`, so every such
interleaving is a run.
-/

namespace HexeAiNode
namespace Budget

open Py Execution
open StoreAction (Keeps storeAfter ofResult)

/-- A property of the ledgers that the manager preserves. -/
structure LedgerInvariant (P : BudgetState → Prop) : Prop where
  congr : ∀ {s s' : BudgetState}, P s → s'.grantUsage = s.grantUsage →
    s'.providerBudgetUsage = s.providerBudgetUsage → P s'
  reserveProviderBudget : ∀ {env : BudgetEnv} {s s' : BudgetState} {args : ReservationArgs}
    {result : Option ProviderBudgetResult}, P s → 0 ≤ args.cents →
    Budget.reserveProviderBudget env s args = .ok (result, s') → P s'
  reserveGrant : ∀ {env : BudgetEnv} {s s' : BudgetState} {args : ReservationArgs} {grant : Dict}
    {grantId : String}, P s → 0 ≤ args.cents →
    Budget.reserveGrant env s args grant = .ok (.reserved grantId s') → P s'
  release : ∀ {s : BudgetState}, P s → ∀ reservationId nowIso : String,
    P { s with
        grantUsage := s.grantUsage.mapValues (GrantUsage.release reservationId nowIso)
        providerBudgetUsage :=
          s.providerBudgetUsage.mapValues (ProviderUsage.release reservationId nowIso) }
  finalize : ∀ {s : BudgetState} {reservationId nowIso : String} {cost : FinalCost}
    {providers : OrderedDict String ProviderUsage}, P s →
    s.providerBudgetUsage.updateValues (ProviderUsage.finalize reservationId nowIso cost) =
      .ok providers → ∀ summaries : List UsageSummary,
    P { s with
        grantUsage := s.grantUsage.mapValues (GrantUsage.finalize reservationId nowIso cost)
        providerBudgetUsage := providers
        pendingUsageSummaries := summaries }

/-- The store holds a valid state with the property. -/
def Sound (P : BudgetState → Prop) (file : Option BudgetState) : Prop :=
  ∃ s, file = some s ∧ s.Valid ∧ P s

/-- Having no property to keep is an invariant: the store stays valid. -/
theorem trivialInvariant : LedgerInvariant fun _ => True where
  congr := fun _ _ _ => trivial
  reserveProviderBudget := fun _ _ _ => trivial
  reserveGrant := fun _ _ _ => trivial
  release := fun _ _ _ => trivial
  finalize := fun _ _ _ => trivial

variable {P : BudgetState → Prop}

/-! ## The store -/

theorem keeps_storeSave {s : BudgetState} (h : P s) :
    Keeps (Sound P) (storeSave s) fun _ => True := by
  unfold storeSave
  split
  · exact Keeps.throw
  · next hvalid => exact Keeps.write ⟨s, rfl, BudgetState.valid_iff.mpr hvalid, h⟩

/-- A loaded state has the property. -/
theorem keeps_loadState (env : BudgetEnv) : Keeps (Sound P) (loadState env) P := by
  refine Keeps.read.bind fun file hfile => ?_
  obtain ⟨s, rfl, hvalid, hs⟩ := hfile
  have hload : storeLoad (some s) = some s := by
    simp [storeLoad, BudgetState.valid_iff.mp hvalid]
  rw [hload]
  exact Keeps.pure hs

theorem nonneg_of_nonNegativeInt {v : Value} {cents : ℤ} (h : nonNegativeInt v = .ok cents) :
    0 ≤ cents := by
  obtain ⟨i, -, h⟩ := bind_eq_ok.mp h
  obtain rfl := Except.ok.inj h
  exact le_max_right _ _

theorem nonneg_of_usdToCents {v : Value} {cents : ℤ} (h : usdToCents v = .ok cents) :
    0 ≤ cents := by
  obtain ⟨usd, -, h⟩ := bind_eq_ok.mp h
  obtain ⟨i, -, h⟩ := bind_eq_ok.mp h
  obtain rfl := Except.ok.inj h
  exact le_max_right _ _

theorem keeps_hasAnyMoneyLimits (env : BudgetEnv) (request : TaskExecutionRequest)
    (providerId : String) :
    Keeps (Sound P) (hasAnyMoneyLimits env request providerId) fun _ => True := by
  refine (keeps_loadState env).bind fun s _ => ?_
  split
  · refine (Keeps.ofResult fun _ _ => trivial).bind fun grants _ => ?_
    refine (Keeps.ofResult fun _ _ => trivial).bind fun limited _ => ?_
    exact Keeps.pure trivial
  · exact Keeps.pure trivial

/-- The cost of a reservation is not negative. -/
theorem keeps_reservationCostCents (env : BudgetEnv) (request : TaskExecutionRequest)
    (providerId modelId : String) :
    Keeps (Sound P) (reservationCostCents env request providerId modelId) fun cents =>
      0 ≤ cents := by
  refine Keeps.ite (fun _ => Keeps.ofResult fun _ => nonneg_of_nonNegativeInt) fun _ => ?_
  refine Keeps.ite (fun _ => Keeps.ofResult fun _ => nonneg_of_nonNegativeInt) fun _ => ?_
  refine Keeps.ite (fun _ => Keeps.ofResult fun _ => nonneg_of_usdToCents) fun _ => ?_
  refine (Keeps.ofResult fun _ _ => trivial).bind fun estimated _ => ?_
  refine (keeps_hasAnyMoneyLimits env request providerId).bind fun limited _ => ?_
  refine Keeps.pure (le_max_of_le_right ?_)
  split <;> omega

/-! ## The operations -/

namespace LedgerInvariant

theorem keeps_saveState (I : LedgerInvariant P) {s : BudgetState} (env : BudgetEnv) (h : P s) :
    Keeps (Sound P) (saveState env s) fun _ => True :=
  keeps_storeSave (I.congr h rfl rfl)

theorem keeps_saveIf (I : LedgerInvariant P) {s : BudgetState} (condition : Bool)
    (env : BudgetEnv) (h : P s) : Keeps (Sound P) (saveIf condition env s) fun _ => True :=
  Keeps.ite (fun _ => I.keeps_saveState env h) fun _ => Keeps.pure trivial

theorem keeps_cachePolicyFromGovernance (I : LedgerInvariant P) (env : BudgetEnv)
    (bundle : Value) :
    Keeps (Sound P) (cachePolicyFromGovernance env bundle) fun _ => True := by
  refine Keeps.ite (fun _ => ?_) fun _ => Keeps.pure trivial
  refine (keeps_loadState env).bind fun s hs => ?_
  refine Keeps.ite (fun _ => Keeps.pure trivial) fun _ => ?_
  refine Keeps.bind (I.keeps_saveState env ?_) fun _ _ => Keeps.pure trivial
  exact I.congr hs rfl rfl

theorem keeps_storeFetchedPolicy (I : LedgerInvariant P) (env : BudgetEnv) (payload : Value) :
    Keeps (Sound P) (storeFetchedPolicy env payload) fun _ => True := by
  refine Keeps.ite (fun _ => ?_) fun _ => Keeps.pure trivial
  refine (keeps_loadState env).bind fun s hs => ?_
  exact I.keeps_saveState env (I.congr hs rfl rfl)

theorem keeps_deny (I : LedgerInvariant P) (env : BudgetEnv) (args : ReservationArgs)
    (request : TaskExecutionRequest) (reason policyStatus : String) :
    Keeps (Sound P) (deny env args request reason policyStatus) fun _ => True := by
  have hrecord : Keeps (Sound P) (recordDenial env args.taskId request reason args.providerId)
      fun _ => True := by
    refine (keeps_loadState env).bind fun s hs => ?_
    exact I.keeps_saveState env (I.congr hs rfl rfl)
  exact hrecord.bind fun _ _ => Keeps.pure trivial

theorem keeps_reserveProviderBudget (I : LedgerInvariant P) {env : BudgetEnv} {s : BudgetState}
    {args : ReservationArgs} (h : P s) (hcents : 0 ≤ args.cents) :
    Keeps (Sound P) (ofResult (Budget.reserveProviderBudget env s args)) fun p => P p.2 :=
  Keeps.ofResult fun _ hp => I.reserveProviderBudget h hcents hp

/-- The loop over the grants preserves the property. -/
theorem reserveGrants (I : LedgerInvariant P) {env : BudgetEnv} {args : ReservationArgs}
    {grants : List Dict} {applied applied' : List String} {s s' : BudgetState} (h : P s)
    (hcents : 0 ≤ args.cents)
    (hs : Budget.reserveGrants env args grants applied s = .ok (.reserved applied' s')) :
    P s' := by
  induction grants generalizing applied s with
  | nil =>
    obtain ⟨-, rfl⟩ := GrantsOutcome.reserved.inj (Except.ok.inj hs)
    exact h
  | cons grant grants ih =>
    obtain ⟨step, hstep, hs⟩ := bind_eq_ok.mp hs
    rcases step with ⟨reason, state⟩ | ⟨grantId, state⟩
    · exact absurd (Except.ok.inj hs) (by simp)
    · exact ih (I.reserveGrant h hcents hstep) hs

theorem keeps_reserveWithoutGrants (I : LedgerInvariant P) {env : BudgetEnv} {s : BudgetState}
    {args : ReservationArgs} (request : TaskExecutionRequest) (policyStatus : String) (h : P s)
    (hcents : 0 ≤ args.cents) :
    Keeps (Sound P) (reserveWithoutGrants env s args request policyStatus) fun _ => True := by
  refine (I.keeps_reserveProviderBudget h hcents).bind fun provider hprovider => ?_
  split
  · exact Keeps.pure trivial
  · refine Keeps.ite (fun _ => ?_) fun _ => I.keeps_deny env args request _ _
    exact (I.keeps_saveState env hprovider).bind fun _ _ => Keeps.pure trivial

theorem keeps_reserveWithGrants (I : LedgerInvariant P) {env : BudgetEnv} {s : BudgetState}
    {args : ReservationArgs} (request : TaskExecutionRequest) (policy : Dict)
    (policyStatus : String) (h : P s) (hcents : 0 ≤ args.cents) :
    Keeps (Sound P) (reserveWithGrants env s args request policy policyStatus) fun _ => True := by
  refine (Keeps.ofResult fun _ _ => trivial).bind fun grants _ => ?_
  refine Keeps.ite (fun _ => I.keeps_deny env args request _ _) fun _ => ?_
  refine (Keeps.ofResult fun _ hloop => hloop).bind fun outcome hloop => ?_
  rcases outcome with ⟨reason, state⟩ | ⟨applied, state⟩
  · exact I.keeps_deny env args request _ _
  · have hstate : P state := I.reserveGrants h hcents hloop
    refine (I.keeps_reserveProviderBudget hstate hcents).bind fun provider hprovider => ?_
    refine Keeps.ite (fun _ => I.keeps_deny env args request _ _) fun _ => ?_
    exact (I.keeps_saveState env hprovider).bind fun _ _ => Keeps.pure trivial

theorem keeps_reserveExecution (I : LedgerInvariant P) (env : BudgetEnv) (taskId : String)
    (request : TaskExecutionRequest) (providerId modelId : String) (bundle : Value) :
    Keeps (Sound P) (reserveExecution env taskId request providerId modelId bundle)
      fun _ => True := by
  refine (keeps_loadState env).bind fun s hs => ?_
  refine (I.keeps_cachePolicyFromGovernance env bundle).bind fun cached _ => ?_
  refine (keeps_reservationCostCents env request providerId modelId).bind fun cents hcents => ?_
  dsimp only
  split
  · refine Keeps.ite (fun _ => ?_) fun _ => ?_
    · exact I.keeps_reserveWithoutGrants request _ (I.congr hs rfl rfl) hcents
    · exact I.keeps_reserveWithGrants request _ _ (I.congr hs rfl rfl) hcents
  · exact I.keeps_reserveWithoutGrants request _ hs hcents

theorem keeps_finalizeExecution (I : LedgerInvariant P) (env : BudgetEnv) (taskId : String)
    (metrics : Option TaskExecutionMetrics) (status : String) :
    Keeps (Sound P) (finalizeExecution env taskId metrics status) fun _ => True := by
  refine (keeps_loadState env).bind fun s hs => ?_
  refine (Keeps.ofResult fun _ _ => trivial).bind fun cents _ => ?_
  refine (Keeps.ofResult fun _ h => h).bind fun providers hproviders => ?_
  refine (I.keeps_saveIf _ env (I.finalize hs hproviders _)).bind fun _ _ => ?_
  exact Keeps.pure trivial

theorem keeps_releaseExecution (I : LedgerInvariant P) (env : BudgetEnv)
    (taskId reason : String) :
    Keeps (Sound P) (releaseExecution env taskId reason) fun _ => True := by
  refine (keeps_loadState env).bind fun s hs => ?_
  refine (I.keeps_saveIf _ env (I.release hs _ env.nowIso)).bind fun _ _ => ?_
  exact Keeps.pure trivial

end LedgerInvariant

/-! ## Runs -/

/-- One access of the manager to its store. -/
inductive BudgetOp where
  | reserve (taskId : String) (request : TaskExecutionRequest) (providerId modelId : String)
      (bundle : Value)
  | finalize (taskId : String) (metrics : Option TaskExecutionMetrics) (status : String)
  | release (taskId reason : String)
  | cachePolicy (bundle : Value)
  | storeFetchedPolicy (payload : Value)

/-- What an access does. -/
def BudgetOp.action (env : BudgetEnv) : BudgetOp → BudgetAction Unit
  | .reserve taskId request providerId modelId bundle =>
    discard <| reserveExecution env taskId request providerId modelId bundle
  | .finalize taskId metrics status => discard <| finalizeExecution env taskId metrics status
  | .release taskId reason => discard <| releaseExecution env taskId reason
  | .cachePolicy bundle => discard <| cachePolicyFromGovernance env bundle
  | .storeFetchedPolicy payload => Budget.storeFetchedPolicy env payload

/-- One access keeps the store sound, also when it raises. -/
theorem LedgerInvariant.keeps_action (I : LedgerInvariant P) (env : BudgetEnv) (op : BudgetOp) :
    Keeps (Sound P) (op.action env) fun _ => True := by
  cases op with
  | reserve taskId request providerId modelId bundle =>
    exact (I.keeps_reserveExecution env taskId request providerId modelId bundle).discard
  | finalize taskId metrics status =>
    exact (I.keeps_finalizeExecution env taskId metrics status).discard
  | release taskId reason => exact (I.keeps_releaseExecution env taskId reason).discard
  | cachePolicy bundle => exact (I.keeps_cachePolicyFromGovernance env bundle).discard
  | storeFetchedPolicy payload => exact I.keeps_storeFetchedPolicy env payload

/-- **A run keeps the store sound**, whatever its operations return or raise. -/
theorem LedgerInvariant.sound_storeAfter (I : LedgerInvariant P) {file : Option BudgetState}
    (h : Sound P file) (ops : List (BudgetEnv × BudgetOp)) :
    Sound P (storeAfter (ops.map fun op => op.2.action op.1) file) := by
  refine Keeps.storeAfter ?_ h
  intro m hm
  obtain ⟨op, -, rfl⟩ := List.mem_map.mp hm
  exact I.keeps_action op.1 op.2

end Budget
end HexeAiNode
