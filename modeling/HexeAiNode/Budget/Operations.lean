import HexeAiNode.Budget.HeldReservations

/-!
# What an operation makes of the ledgers

One inversion for each operation of the manager, from a valid stored state:

* `reserveExecution_effect`: a reservation leaves the ledgers alone, or saves the state in which the grants
  and the provider budget have been reserved (`ReserveEffect`);
* `finalizeExecution_effect`: a finalization raises and leaves the store, or finalizes every entry;
* `releaseExecution_effect`: a release releases in every entry;
* `sameLedgers_cachePolicy` and `sameLedgers_storeFetchedPolicy`: a policy leaves the ledgers alone.
-/

namespace HexeAiNode
namespace Budget

open Py Execution
open StoreAction (exec_bind exec_bind_of_ok exec_bind_of_error exec_ofResult exec_pure)

variable {env : BudgetEnv} {s s' t : BudgetState} {args : ReservationArgs}
  {request : TaskExecutionRequest} {taskId providerId modelId : String} {bundle : Value}

/-! ## Ledgers -/

/-- The states have the same ledgers and the same summaries to submit. -/
structure SameLedgers (s s' : BudgetState) : Prop where
  grants : s'.grantUsage = s.grantUsage
  providers : s'.providerBudgetUsage = s.providerBudgetUsage
  summaries : s'.pendingUsageSummaries = s.pendingUsageSummaries

namespace SameLedgers

theorem refl (s : BudgetState) : SameLedgers s s := ⟨rfl, rfl, rfl⟩

theorem trans (h : SameLedgers s s') (h' : SameLedgers s' t) : SameLedgers s t :=
  ⟨h'.grants.trans h.grants, h'.providers.trans h.providers, h'.summaries.trans h.summaries⟩

end SameLedgers

/-- The store holds a valid state with the ledgers of the given one. -/
def Kept (s : BudgetState) (file : Option BudgetState) : Prop :=
  ∃ s', file = some s' ∧ s'.Valid ∧ SameLedgers s s'

theorem kept_self (h : s.Valid) : Kept s (some s) := ⟨s, rfl, h, .refl s⟩

/-- An action that keeps the ledgers, and what it returns. -/
abbrev KeepsLedgers {α : Type} (s : BudgetState) (m : BudgetAction α) (Q : α → Prop) : Prop :=
  StoreAction.Keeps (Kept s) m Q

theorem keepsLedgers_loadState (env : BudgetEnv) :
    KeepsLedgers s (loadState env) fun t => t.Valid ∧ SameLedgers s t := by
  rintro file ⟨s', rfl, hvalid, hsame⟩
  rw [loadState_of_valid env hvalid]
  refine ⟨⟨s', rfl, hvalid, hsame⟩, fun t ht => ?_⟩
  obtain rfl := Except.ok.inj ht
  exact ⟨hvalid, hsame⟩

/-- Saving a state with the same ledgers. -/
theorem keepsLedgers_saveState (env : BudgetEnv) (h : SameLedgers s t) :
    KeepsLedgers s (saveState env t) fun _ => True := by
  unfold saveState storeSave
  split
  · exact StoreAction.Keeps.throw
  · next hvalid =>
    exact StoreAction.Keeps.write ⟨_, rfl, BudgetState.valid_iff.mpr hvalid, ⟨h.grants, h.providers, h.summaries⟩⟩

/-! ## Policies -/

/-- The policy of a bundle, as `cache_policy_from_governance` hands it back. -/
def bundlePolicy (bundle : Value) : Value :=
  if (Dict.get bundle.asDict "budget_policy").isDict then Dict.get bundle.asDict "budget_policy" else .null

theorem keepsLedgers_cachePolicy (env : BudgetEnv) (bundle : Value) :
    KeepsLedgers s (cachePolicyFromGovernance env bundle) fun policy => policy = bundlePolicy bundle := by
  unfold cachePolicyFromGovernance bundlePolicy
  refine StoreAction.Keeps.ite (fun hdict => ?_) fun hdict => ?_
  · rw [if_pos hdict]
    refine (keepsLedgers_loadState env).bind fun t ht => ?_
    refine StoreAction.Keeps.ite (fun _ => StoreAction.Keeps.pure rfl) fun _ => ?_
    refine StoreAction.Keeps.bind (keepsLedgers_saveState env ?_) fun _ _ => StoreAction.Keeps.pure rfl
    exact ⟨ht.2.grants, ht.2.providers, ht.2.summaries⟩
  · rw [if_neg hdict]
    exact StoreAction.Keeps.pure rfl

theorem keepsLedgers_storeFetchedPolicy (env : BudgetEnv) (payload : Value) :
    KeepsLedgers s (storeFetchedPolicy env payload) fun _ => True := by
  refine StoreAction.Keeps.ite (fun _ => ?_) fun _ => StoreAction.Keeps.pure trivial
  refine (keepsLedgers_loadState env).bind fun t ht => ?_
  exact keepsLedgers_saveState env ⟨ht.2.grants, ht.2.providers, ht.2.summaries⟩

/-! ## Reserving -/

theorem keepsLedgers_reservationCostCents (env : BudgetEnv) (request : TaskExecutionRequest)
    (providerId modelId : String) :
    KeepsLedgers s (reservationCostCents env request providerId modelId) fun cents => 0 ≤ cents := by
  have hlimits : KeepsLedgers s (hasAnyMoneyLimits env request providerId) fun _ => True := by
    refine (keepsLedgers_loadState env).bind fun t _ => ?_
    split
    · refine (StoreAction.Keeps.ofResult fun _ _ => trivial).bind fun grants _ => ?_
      refine (StoreAction.Keeps.ofResult fun _ _ => trivial).bind fun limited _ => ?_
      exact StoreAction.Keeps.pure trivial
    · exact StoreAction.Keeps.pure trivial
  refine StoreAction.Keeps.ite (fun _ => StoreAction.Keeps.ofResult fun _ => nonneg_of_nonNegativeInt) fun _ => ?_
  refine StoreAction.Keeps.ite (fun _ => StoreAction.Keeps.ofResult fun _ => nonneg_of_nonNegativeInt) fun _ => ?_
  refine StoreAction.Keeps.ite (fun _ => StoreAction.Keeps.ofResult fun _ => nonneg_of_usdToCents) fun _ => ?_
  refine (StoreAction.Keeps.ofResult fun _ _ => trivial).bind fun estimated _ => ?_
  refine hlimits.bind fun limited _ => ?_
  refine StoreAction.Keeps.pure (le_max_of_le_right ?_)
  split <;> omega

/-- A denial leaves the ledgers alone. -/
theorem keepsLedgers_deny (env : BudgetEnv) (args : ReservationArgs) (request : TaskExecutionRequest)
    (reason policyStatus : String) :
    KeepsLedgers s (deny env args request reason policyStatus) fun r => r.allowed = false := by
  have hrecord : KeepsLedgers s (recordDenial env args.taskId request reason args.providerId)
      fun _ => True := by
    refine (keepsLedgers_loadState env).bind fun t ht => ?_
    exact keepsLedgers_saveState env ⟨ht.2.grants, ht.2.providers, ht.2.summaries⟩
  exact hrecord.bind fun _ _ => StoreAction.Keeps.pure rfl

/-- The policy a reservation works under. -/
def policyInForce (bundle : Value) (s : BudgetState) : Value := (bundlePolicy bundle).orElse s.budgetPolicy

/-- The status of the policy in force, when there is an active one. -/
def activePolicy (bundle : Value) (s : BudgetState) : Option Dict :=
  match policyInForce bundle s with
  | .dict policy => if (Dict.get policy "status").normalizeLower = "active" then some policy else none
  | _ => none

/-- The state a reservation works on: the loaded one, with the policy in force. -/
def workingState (bundle : Value) (s : BudgetState) : BudgetState :=
  match policyInForce bundle s with
  | .dict policy => { s with budgetPolicy := .dict policy }
  | _ => s

theorem sameLedgers_workingState (bundle : Value) (s : BudgetState) :
    SameLedgers s (workingState bundle s) := by
  unfold workingState
  split
  · exact ⟨rfl, rfl, rfl⟩
  · exact .refl s

/-- What a reservation is made for, under a task's id. -/
def argsOf (taskId providerId modelId : String) (cents : ℤ) : ReservationArgs where
  reservationId := reservationIdOf taskId
  taskId := taskId
  providerId := providerId
  modelId := modelId
  cents := cents

/-- What a reservation makes of the ledgers of a state. -/
inductive ReserveEffect (env : BudgetEnv) (taskId : String) (request : TaskExecutionRequest)
    (providerId modelId : String) (bundle : Value) (s : BudgetState) :
    Except Exc BudgetReservationResult → BudgetState → Prop
  /-- The reservation raised, was denied, or there was nothing to reserve. -/
  | untouched {result s'} (hsame : SameLedgers s s')
      (hresult : ∀ r, result = .ok r → r.allowed = true →
        r.appliedGrantIds = [] ∧ providerBudgetSettings env providerId = none ∧
          activePolicy bundle s = none) :
      ReserveEffect env taskId request providerId modelId bundle s result s'
  /-- Without an active policy the provider budget was reserved. -/
  | provider {r s'} (cents : ℤ) (reserved : BudgetState) (hcents : 0 ≤ cents)
      (hpolicy : activePolicy bundle s = none)
      (hreserved : reserveProviderBudget env (workingState bundle s)
        (argsOf taskId providerId modelId cents) = .ok (some ⟨true, none⟩, reserved))
      (hsame : SameLedgers reserved s') (hallowed : r.allowed = true) (happlied : r.appliedGrantIds = [])
      (hid : r.reservationId = some (reservationIdOf taskId)) (hamount : r.reservedCostCents = cents) :
      ReserveEffect env taskId request providerId modelId bundle s (.ok r) s'
  /-- Under an active policy the applicable grants and the provider budget were reserved. -/
  | grants {r s'} (cents : ℤ) (policy : Dict) (grants : List Dict) (afterGrants reserved : BudgetState)
      (provider : Option ProviderBudgetResult) (hcents : 0 ≤ cents)
      (hpolicy : activePolicy bundle s = some policy)
      (hgrants : applicableGrants env policy request providerId = .ok grants)
      (hloop : reserveGrants env (argsOf taskId providerId modelId cents) grants []
        (workingState bundle s) = .ok (.reserved r.appliedGrantIds afterGrants))
      (hreserved : reserveProviderBudget env afterGrants (argsOf taskId providerId modelId cents) =
        .ok (provider, reserved))
      (hprovider : provider = none ∨ provider = some ⟨true, none⟩)
      (hsame : SameLedgers reserved s') (hallowed : r.allowed = true)
      (hid : r.reservationId = some (reservationIdOf taskId)) (hamount : r.reservedCostCents = cents) :
      ReserveEffect env taskId request providerId modelId bundle s (.ok r) s'

/-- A provider budget is reserved, refused, or not there. -/
theorem reserveProviderBudget_result {result : Option ProviderBudgetResult}
    (h : reserveProviderBudget env s args = .ok (result, t)) :
    (result = none ∧ providerBudgetSettings env args.providerId = none ∧ t = s) ∨
      result = some ⟨true, none⟩ ∨ ∃ reason, result = some ⟨false, some reason⟩ := by
  unfold reserveProviderBudget at h
  split at h
  · next hnone =>
    obtain ⟨rfl, rfl⟩ := Prod.mk.inj (Except.ok.inj h)
    exact Or.inl ⟨rfl, hnone, rfl⟩
  · obtain ⟨usage, -, h⟩ := bind_eq_ok.mp h
    dsimp only at h
    split at h
    · obtain ⟨rfl, -⟩ := Prod.mk.inj (Except.ok.inj h)
      exact Or.inr (Or.inr ⟨_, rfl⟩)
    · split at h
      · obtain ⟨rfl, -⟩ := Prod.mk.inj (Except.ok.inj h)
        exact Or.inr (Or.inr ⟨_, rfl⟩)
      · obtain ⟨rfl, -⟩ := Prod.mk.inj (Except.ok.inj h)
        exact Or.inr (Or.inl rfl)

/-- Reserving a provider budget touches the provider entries only. -/
theorem exists_providers_of_reserveProviderBudget {result : Option ProviderBudgetResult}
    (h : reserveProviderBudget env s args = .ok (result, t)) :
    ∃ providers, t = { s with providerBudgetUsage := providers } := by
  unfold reserveProviderBudget at h
  split at h
  · obtain ⟨-, rfl⟩ := Prod.mk.inj (Except.ok.inj h)
    exact ⟨_, rfl⟩
  · obtain ⟨usage, -, h⟩ := bind_eq_ok.mp h
    dsimp only at h
    split at h
    · obtain ⟨-, rfl⟩ := Prod.mk.inj (Except.ok.inj h)
      exact ⟨_, rfl⟩
    · split at h <;> obtain ⟨-, rfl⟩ := Prod.mk.inj (Except.ok.inj h) <;> exact ⟨_, rfl⟩

/-- A store in which a denial was recorded. -/
theorem exec_deny (env : BudgetEnv) (args : ReservationArgs) (request : TaskExecutionRequest)
    {file : Option BudgetState} (hfile : Kept s file) (reason policyStatus : String) :
    ∃ result s', (deny env args request reason policyStatus).exec file = (result, some s') ∧
      s'.Valid ∧ SameLedgers s s' ∧ ∀ r, result = .ok r → r.allowed = false := by
  have h := keepsLedgers_deny (s := s) env args request reason policyStatus file hfile
  rcases hexec : (deny env args request reason policyStatus).exec file with ⟨result, file'⟩
  rw [hexec] at h
  obtain ⟨⟨s', rfl, hvalid, hsame⟩, hresult⟩ := h
  exact ⟨result, s', rfl, hvalid, hsame, hresult⟩

/-- Saving writes a valid state or raises and leaves the store. -/
theorem exec_saveState (env : BudgetEnv) (s : BudgetState) (file : Option BudgetState) :
    ((saveState env s).exec file = (.ok (), some { s with updatedAt := env.nowIso }) ∧
      BudgetState.Valid { s with updatedAt := env.nowIso }) ∨
    ¬BudgetState.Valid { s with updatedAt := env.nowIso } ∧
      ∃ e, (saveState env s).exec file = (.error e, file) := by
  unfold saveState storeSave
  split
  · next e herror =>
    refine Or.inr ⟨fun hvalid => ?_, _, rfl⟩
    rw [BudgetState.valid_iff.mp hvalid] at herror
    cases herror
  · next hvalid => exact Or.inl ⟨rfl, BudgetState.valid_iff.mpr hvalid⟩

/-- Saving under a condition, and returning a value. -/
theorem exec_saveIf_pure {α : Type} (condition : Bool) (env : BudgetEnv) (s t : BudgetState) (a : α)
    (hs : { s with updatedAt := env.nowIso } = t) (file : Option BudgetState) :
    (condition = true ∧ ((t.Valid ∧ (saveIf condition env s >>= fun _ => pure a).exec file = (.ok a, some t)) ∨
      ¬t.Valid ∧ ∃ e, (saveIf condition env s >>= fun _ => pure a).exec file = (.error e, file))) ∨
    condition = false ∧ (saveIf condition env s >>= fun _ => pure a).exec file = (.ok a, file) := by
  subst hs
  cases condition with
  | false => exact Or.inr ⟨rfl, rfl⟩
  | true =>
    refine Or.inl ⟨rfl, ?_⟩
    show _ ∧ StoreAction.exec (saveState env s >>= _) file = _ ∨ _ ∧ ∃ e, StoreAction.exec (saveState env s >>= _) file = _
    rcases exec_saveState env s file with ⟨hsave, hsaved⟩ | ⟨hinvalid, e, hsave⟩
    · exact Or.inl ⟨hsaved, by rw [exec_bind_of_ok hsave, exec_pure]⟩
    · exact Or.inr ⟨hinvalid, e, exec_bind_of_error hsave⟩

section Reserve

variable {file : Option BudgetState} {policyStatus : String}

/-- What is left to show when the ledgers are those from before. -/
theorem untouched_of_not_allowed {result : Except Exc BudgetReservationResult} (hsame : SameLedgers s s')
    (h : ∀ r, result = .ok r → r.allowed = false) :
    ReserveEffect env taskId request providerId modelId bundle s result s' := by
  refine .untouched hsame fun r hr hallowed => ?_
  rw [h r hr] at hallowed
  cases hallowed

/-- Reserving without an active policy. -/
theorem reserveWithoutGrants_effect (env : BudgetEnv) (taskId : String) (request : TaskExecutionRequest)
    (providerId modelId policyStatus : String) {cents : ℤ} (hfile : Kept s file) (hcents : 0 ≤ cents)
    (hpolicy : activePolicy bundle s = none) :
    ∃ result s', (reserveWithoutGrants env (workingState bundle s)
        (argsOf taskId providerId modelId cents) request policyStatus).exec file = (result, some s') ∧
      s'.Valid ∧ ReserveEffect env taskId request providerId modelId bundle s result s' := by
  obtain ⟨s₁, rfl, hvalid, hsame⟩ := hfile
  unfold reserveWithoutGrants
  rw [exec_bind, exec_ofResult]
  rcases hreserved : reserveProviderBudget env (workingState bundle s)
    (argsOf taskId providerId modelId cents) with e | ⟨result, reserved⟩
  · exact ⟨.error e, s₁, rfl, hvalid, untouched_of_not_allowed hsame (by simp)⟩
  dsimp only
  rcases reserveProviderBudget_result hreserved with ⟨rfl, hsettings, rfl⟩ | rfl | ⟨reason, rfl⟩
  · refine ⟨_, s₁, rfl, hvalid, .untouched hsame fun r hr _ => ?_⟩
    obtain rfl := Except.ok.inj hr
    exact ⟨rfl, hsettings, hpolicy⟩
  · dsimp only
    rw [if_pos rfl, exec_bind]
    rcases exec_saveState env reserved (some s₁) with ⟨hsave, hsaved⟩ | ⟨-, e, hsave⟩
    · rw [hsave]
      refine ⟨_, _, rfl, hsaved, .provider cents reserved hcents hpolicy hreserved ⟨rfl, rfl, rfl⟩ rfl rfl
        rfl ?_⟩
      exact max_eq_left hcents
    · rw [hsave]
      exact ⟨.error e, s₁, rfl, hvalid, untouched_of_not_allowed hsame (by simp)⟩
  · dsimp only
    rw [if_neg (by simp)]
    obtain ⟨result, s', hexec, hvalid', hsame', hresult⟩ :=
      exec_deny env (argsOf taskId providerId modelId cents) request
        ⟨s₁, rfl, hvalid, hsame⟩ "provider_budget_exhausted" policyStatus
    exact ⟨result, s', hexec, hvalid', untouched_of_not_allowed hsame' hresult⟩

/-- Reserving under an active policy. -/
theorem reserveWithGrants_effect {cents : ℤ} {policy : Dict} (hfile : Kept s file) (hcents : 0 ≤ cents)
    (hpolicy : activePolicy bundle s = some policy) :
    ∃ result s', (reserveWithGrants env (workingState bundle s)
        (argsOf taskId providerId modelId cents) request policy policyStatus).exec file =
          (result, some s') ∧
      s'.Valid ∧ ReserveEffect env taskId request providerId modelId bundle s result s' := by
  have hdeny : ∀ reason, ∃ result s', (deny env (argsOf taskId providerId modelId cents) request reason
      policyStatus).exec file = (result, some s') ∧ s'.Valid ∧
        ReserveEffect env taskId request providerId modelId bundle s result s' := by
    intro reason
    obtain ⟨result, s', hexec, hvalid', hsame', hresult⟩ := exec_deny env
      (argsOf taskId providerId modelId cents) request hfile reason policyStatus
    exact ⟨result, s', hexec, hvalid', untouched_of_not_allowed hsame' hresult⟩
  obtain ⟨s₁, rfl, hvalid, hsame⟩ := hfile
  have hraise : ∀ e, ReserveEffect env taskId request providerId modelId bundle s (.error e) s₁ :=
    fun e => untouched_of_not_allowed hsame (by simp)
  unfold reserveWithGrants
  rw [exec_bind, exec_ofResult]
  rcases hgrants : applicableGrants env policy request (argsOf taskId providerId modelId cents).providerId
    with e | grants
  · exact ⟨.error e, s₁, rfl, hvalid, hraise e⟩
  dsimp only
  by_cases hempty : grants = []
  · rw [if_pos hempty]
    exact hdeny _
  rw [if_neg hempty, exec_bind, exec_ofResult]
  rcases hloop : reserveGrants env (argsOf taskId providerId modelId cents) grants []
    (workingState bundle s) with e | ⟨reason, state⟩ | ⟨applied, afterGrants⟩
  · exact ⟨.error e, s₁, rfl, hvalid, hraise e⟩
  · exact hdeny reason
  dsimp only
  rw [exec_bind, exec_ofResult]
  rcases hreserved : reserveProviderBudget env afterGrants (argsOf taskId providerId modelId cents)
    with e | ⟨result, reserved⟩
  · exact ⟨.error e, s₁, rfl, hvalid, hraise e⟩
  dsimp only
  by_cases hrefused : result.map ProviderBudgetResult.allowed = some false
  · rw [if_pos hrefused]
    exact hdeny _
  have hprovider : result = none ∨ result = some ⟨true, none⟩ := by
    rcases reserveProviderBudget_result hreserved with ⟨rfl, -⟩ | rfl | ⟨reason, rfl⟩
    · exact Or.inl rfl
    · exact Or.inr rfl
    · exact absurd rfl hrefused
  rw [if_neg hrefused, exec_bind]
  rcases exec_saveState env reserved (some s₁) with ⟨hsave, hsaved⟩ | ⟨-, e, hsave⟩
  · rw [hsave]
    refine ⟨_, _, rfl, hsaved, .grants cents policy grants afterGrants reserved result hcents hpolicy
      hgrants hloop hreserved hprovider ⟨rfl, rfl, rfl⟩ rfl rfl ?_⟩
    exact max_eq_left hcents
  · rw [hsave]
    exact ⟨.error e, s₁, rfl, hvalid, hraise e⟩

end Reserve

/-- **A reservation** in a valid stored state. -/
theorem reserveExecution_effect (env : BudgetEnv) (taskId : String) (request : TaskExecutionRequest)
    (providerId modelId : String) (bundle : Value) (hvalid : s.Valid) :
    ∃ result s', (reserveExecution env taskId request providerId modelId bundle).exec (some s) =
        (result, some s') ∧
      s'.Valid ∧ ReserveEffect env taskId request providerId modelId bundle s result s' := by
  unfold reserveExecution
  rw [exec_bind_of_ok (loadState_of_valid env hvalid), exec_bind]
  have hcached := keepsLedgers_cachePolicy (s := s) env bundle (some s) (kept_self hvalid)
  rcases hcache : (cachePolicyFromGovernance env bundle).exec (some s) with ⟨e | policy, file⟩
  · rw [hcache] at hcached
    obtain ⟨⟨s₁, rfl, hvalid₁, hsame₁⟩, -⟩ := hcached
    exact ⟨.error e, s₁, rfl, hvalid₁, untouched_of_not_allowed hsame₁ (by simp)⟩
  rw [hcache] at hcached
  obtain ⟨hfile, hpolicy⟩ := hcached
  obtain rfl := hpolicy policy rfl
  dsimp only
  rw [exec_bind]
  have hcost := keepsLedgers_reservationCostCents (s := s) env request providerId modelId file hfile
  rcases hcents : (reservationCostCents env request providerId modelId).exec file with ⟨e | cents, file'⟩
  · rw [hcents] at hcost
    obtain ⟨⟨s₁, rfl, hvalid₁, hsame₁⟩, -⟩ := hcost
    exact ⟨.error e, s₁, rfl, hvalid₁, untouched_of_not_allowed hsame₁ (by simp)⟩
  rw [hcents] at hcost
  obtain ⟨hfile', hnonneg⟩ := hcost
  have hnonneg := hnonneg cents rfl
  dsimp only
  show ∃ result s', StoreAction.exec (match policyInForce bundle s with
    | .dict policy => _
    | _ => _) file' = _ ∧ _
  rcases hforce : policyInForce bundle s with _ | _ | _ | _ | _ | _ | policy
  case dict =>
    have hwork : workingState bundle s = { s with budgetPolicy := .dict policy } := by
      unfold workingState
      rw [hforce]
    dsimp only
    rw [← hwork]
    by_cases hstatus : (Dict.get policy "status").normalizeLower = "active"
    · rw [if_neg (not_not.mpr hstatus)]
      refine reserveWithGrants_effect hfile' hnonneg ?_
      unfold activePolicy
      rw [hforce]
      exact if_pos hstatus
    · rw [if_pos hstatus]
      refine reserveWithoutGrants_effect _ _ _ _ _ _ hfile' hnonneg ?_
      unfold activePolicy
      rw [hforce]
      exact if_neg hstatus
  all_goals
    have hwork : workingState bundle s = s := by
      unfold workingState
      rw [hforce]
    have hnone : activePolicy bundle s = none := by
      unfold activePolicy
      rw [hforce]
    have heffect := reserveWithoutGrants_effect env taskId request providerId modelId "unconfigured"
      hfile' hnonneg hnone
    rw [hwork] at heffect
    exact heffect

/-! ## Finalizing and releasing -/

/-- An entry without the reservation is left alone. -/
theorem GrantUsage.release_of_none {reservationId nowIso : String} {u : GrantUsage}
    (h : u.reservations.get? reservationId = none) : u.release reservationId nowIso = u := by
  unfold GrantUsage.release
  rw [h]

theorem ProviderUsage.release_of_none {reservationId nowIso : String} {u : ProviderUsage}
    (h : u.reservations.get? reservationId = none) : u.release reservationId nowIso = u := by
  unfold ProviderUsage.release
  rw [h]

theorem GrantUsage.finalize_of_none {reservationId nowIso : String} {cost : FinalCost} {u : GrantUsage}
    (h : u.reservations.get? reservationId = none) : u.finalize reservationId nowIso cost = u := by
  unfold GrantUsage.finalize
  rw [h]

theorem ProviderUsage.finalize_of_none {reservationId nowIso : String} {cost : FinalCost}
    {u : ProviderUsage} (h : u.reservations.get? reservationId = none) :
    u.finalize reservationId nowIso cost = .ok u := by
  unfold ProviderUsage.finalize
  rw [h]

/-- Nothing is finalized when no entry has the reservation. -/
theorem mapValues_eq_self {α : Type} {f : α → α} {d : OrderedDict String α}
    (h : ∀ a ∈ d.values, f a = a) : d.mapValues f = d := by
  ext1
  show d.entries.map (fun e => (e.1, f e.2)) = d.entries
  conv_rhs => rw [← List.map_id d.entries]
  refine List.map_congr_left fun e he => ?_
  rw [h e.2 (List.mem_map.mpr ⟨e, he, rfl⟩)]
  rfl

/-- An update that changes no value changes nothing. -/
theorem updateValues_eq_self {α : Type} {f : α → Except Exc α} {d : OrderedDict String α}
    (h : ∀ a ∈ d.values, f a = .ok a) : d.updateValues f = .ok d := by
  unfold OrderedDict.updateValues
  have hnone : d.values.findSome? (fun a => OrderedDict.errorOf (f a)) = none := by
    rw [List.findSome?_eq_none_iff]
    intro a ha
    rw [h a ha]
    rfl
  rw [hnone]
  dsimp only
  rw [mapValues_eq_self]
  intro a ha
  rw [h a ha]
  rfl

theorem get?_eq_none_of_not_contains {reservations : Reservations} {key : String}
    (h : reservations.contains key = false) : reservations.get? key = none := by
  unfold OrderedDict.contains at h
  rcases hget : reservations.get? key with _ | r
  · rfl
  · rw [hget] at h
    cases h

/-- The cost `finalize_execution` works with. -/
def costOf (status : String) (metrics : Option TaskExecutionMetrics) (cents : Option ℤ) : FinalCost where
  completed := status == "completed"
  finalCostCents := cents
  metrics := metrics

/-- The summaries that are queued when a reservation is finalized. -/
def summariesOf (nowIso reservationId : String) (cost : FinalCost) (s : BudgetState) : List UsageSummary :=
  if cost.completed then
    (s.grantUsage.values.filter fun u => u.reservations.contains reservationId).map fun u =>
      (u.finalize reservationId nowIso cost).summary nowIso
  else []

/-- The state `finalize_execution` saves. -/
def BudgetState.finalized (env : BudgetEnv) (reservationId : String) (cost : FinalCost)
    (providers : OrderedDict String ProviderUsage) (s : BudgetState) : BudgetState :=
  { s with
    grantUsage := s.grantUsage.mapValues (GrantUsage.finalize reservationId env.nowIso cost)
    providerBudgetUsage := providers
    pendingUsageSummaries :=
      s.pendingUsageSummaries ++ summariesOf env.nowIso reservationId cost s
    updatedAt := env.nowIso }

/-- What a finalization makes of a state. -/
inductive FinalizeEffect (env : BudgetEnv) (taskId : String) (metrics : Option TaskExecutionMetrics)
    (status : String) (s : BudgetState) : Except Exc FinalizeResult → BudgetState → Prop
  | raised (e : Exc) : FinalizeEffect env taskId metrics status s (.error e) s
  | finalized {after} (result : FinalizeResult) (cents : Option ℤ)
      (providers : OrderedDict String ProviderUsage) (hcents : finalCostCents metrics = .ok cents)
      (hproviders : s.providerBudgetUsage.updateValues (ProviderUsage.finalize (reservationIdOf taskId)
        env.nowIso (costOf status metrics cents)) = .ok providers)
      (hsame : SameLedgers
        (s.finalized env (reservationIdOf taskId) (costOf status metrics cents) providers) after) :
      FinalizeEffect env taskId metrics status s (.ok result) after

/-- **A finalization** in a valid stored state; it returns when its cost can be computed and the state it
makes is valid. -/
theorem finalizeExecution_effect (env : BudgetEnv) (taskId : String)
    (metrics : Option TaskExecutionMetrics) (status : String) (hvalid : s.Valid) :
    ∃ result s', (finalizeExecution env taskId metrics status).exec (some s) = (result, some s') ∧
      s'.Valid ∧ FinalizeEffect env taskId metrics status s result s' ∧
      ∀ cents providers, finalCostCents metrics = .ok cents →
        s.providerBudgetUsage.updateValues (ProviderUsage.finalize (reservationIdOf taskId) env.nowIso
          (costOf status metrics cents)) = .ok providers →
        BudgetState.Valid
          (s.finalized env (reservationIdOf taskId) (costOf status metrics cents) providers) →
        ∃ r, result = .ok r := by
  unfold finalizeExecution
  rw [exec_bind_of_ok (loadState_of_valid env hvalid)]
  dsimp only
  rw [exec_bind, exec_ofResult]
  rcases hcents : finalCostCents metrics with e | cents
  · refine ⟨.error e, s, rfl, hvalid, .raised e, fun cents _ h => ?_⟩
    cases h
  dsimp only
  rw [exec_bind, exec_ofResult]
  rcases hproviders : s.providerBudgetUsage.updateValues (ProviderUsage.finalize (reservationIdOf taskId)
    env.nowIso (costOf status metrics cents)) with e | providers
  · have hraise : OrderedDict.updateValues (ProviderUsage.finalize (reservationIdOf taskId) env.nowIso
      ⟨status == "completed", cents, metrics⟩) s.providerBudgetUsage = .error e := hproviders
    rw [hraise]
    refine ⟨.error e, s, rfl, hvalid, .raised e, fun cents' providers hok h => ?_⟩
    obtain rfl := Except.ok.inj hok
    rw [hproviders] at h
    cases h
  have hok : OrderedDict.updateValues (ProviderUsage.finalize (reservationIdOf taskId) env.nowIso
      ⟨status == "completed", cents, metrics⟩) s.providerBudgetUsage = .ok providers := hproviders
  rw [hok]
  dsimp only
  have hsame : SameLedgers (s.finalized env (reservationIdOf taskId) (costOf status metrics cents) providers)
    (s.finalized env (reservationIdOf taskId) (costOf status metrics cents) providers) := .refl _
  rcases exec_saveIf_pure _ env
    { s.finalized env (reservationIdOf taskId) (costOf status metrics cents) providers with
      updatedAt := s.updatedAt } _ _ rfl (some s) with
    ⟨-, ⟨hsaved, hexec⟩ | ⟨hinvalid, e, hexec⟩⟩ | ⟨hnothing, hexec⟩
  · exact ⟨_, _, hexec, hsaved, .finalized _ cents providers hcents hproviders hsame, fun _ _ _ _ _ => ⟨_, rfl⟩⟩
  · refine ⟨.error e, s, hexec, hvalid, .raised e, fun cents' providers' hok' hproviders' hvalid' => ?_⟩
    obtain rfl := Except.ok.inj hok'
    rw [hproviders] at hproviders'
    obtain rfl := Except.ok.inj hproviders'
    exact absurd hvalid' hinvalid
  · rw [Bool.or_eq_false_iff, Bool.not_eq_false', Bool.not_eq_false'] at hnothing
    have hgrants := filterMap_get?_isEmpty hnothing.1
    have hproviderless := filterMap_get?_isEmpty hnothing.2
    have hself : s.providerBudgetUsage.updateValues (ProviderUsage.finalize (reservationIdOf taskId)
        env.nowIso (costOf status metrics cents)) = .ok s.providerBudgetUsage :=
      updateValues_eq_self fun u hu =>
        ProviderUsage.finalize_of_none (get?_eq_none_of_not_contains (hproviderless u hu))
    refine ⟨_, s, hexec, hvalid, .finalized _ cents _ hcents hself ⟨?_, rfl, ?_⟩, fun _ _ _ _ _ => ⟨_, rfl⟩⟩
    · exact (mapValues_eq_self fun u hu =>
        GrantUsage.finalize_of_none (get?_eq_none_of_not_contains (hgrants u hu))).symm
    · show s.pendingUsageSummaries = s.pendingUsageSummaries ++ summariesOf _ _ _ s
      have hnone : summariesOf env.nowIso (reservationIdOf taskId) (costOf status metrics cents) s = [] := by
        unfold summariesOf
        rw [List.filter_eq_nil_iff.mpr fun u hu => by simp [hgrants u hu]]
        simp
      rw [hnone, List.append_nil]

/-- A value of an updated dictionary, under its key. -/
theorem get?_updateValues {α : Type} {f : α → Except Exc α} {d d' : OrderedDict String α}
    (h : d.updateValues f = .ok d') (key : String) :
    (d.get? key = none ∧ d'.get? key = none) ∨
      ∃ a a', d.get? key = some a ∧ f a = .ok a' ∧ d'.get? key = some a' := by
  unfold OrderedDict.updateValues at h
  split at h
  · cases h
  · next hnone =>
    obtain rfl := Except.ok.inj h
    rw [OrderedDict.get?_mapValues]
    rcases hget : d.get? key with _ | a
    · exact Or.inl ⟨rfl, rfl⟩
    · have hok := List.findSome?_eq_none_iff.mp hnone a (OrderedDict.mem_values_of_get? hget)
      rcases hfa : f a with e | a'
      · rw [hfa] at hok
        cases hok
      · refine Or.inr ⟨a, a', rfl, hfa, ?_⟩
        rw [Option.map_some, hfa]
        rfl

/-- The state `release_execution` saves. -/
def BudgetState.released (env : BudgetEnv) (reservationId : String) (s : BudgetState) : BudgetState :=
  { s with
    grantUsage := s.grantUsage.mapValues (GrantUsage.release reservationId env.nowIso)
    providerBudgetUsage :=
      s.providerBudgetUsage.mapValues (ProviderUsage.release reservationId env.nowIso)
    updatedAt := env.nowIso }

/-- **A release** in a valid stored state returns, and releases in every entry. -/
theorem releaseExecution_effect (env : BudgetEnv) (taskId reason : String) (hvalid : s.Valid) :
    ∃ result s', (releaseExecution env taskId reason).exec (some s) = (.ok result, some s') ∧
      s'.Valid ∧ SameLedgers (s.released env (reservationIdOf taskId)) s' := by
  unfold releaseExecution
  rw [exec_bind_of_ok (loadState_of_valid env hvalid)]
  dsimp only
  have hreleased : (s.released env (reservationIdOf taskId)).Valid :=
    hvalid.release (reservationIdOf taskId) env.nowIso_nonEmpty
  rcases exec_saveIf_pure _ env { s.released env (reservationIdOf taskId) with updatedAt := s.updatedAt } _ _
    rfl (some s) with ⟨-, ⟨hsaved, hexec⟩ | ⟨hinvalid, -⟩⟩ | ⟨hnothing, hexec⟩
  · exact ⟨_, _, hexec, hsaved, .refl _⟩
  · exact absurd hreleased hinvalid
  · rw [Bool.or_eq_false_iff, Bool.not_eq_false', Bool.not_eq_false'] at hnothing
    have hgrants := filterMap_get?_isEmpty hnothing.1
    have hproviders := filterMap_get?_isEmpty hnothing.2
    refine ⟨_, s, hexec, hvalid, ⟨?_, ?_, rfl⟩⟩
    · exact (mapValues_eq_self fun u hu =>
        GrantUsage.release_of_none (get?_eq_none_of_not_contains (hgrants u hu))).symm
    · exact (mapValues_eq_self fun u hu =>
        ProviderUsage.release_of_none (get?_eq_none_of_not_contains (hproviders u hu))).symm

/-! ## Runs -/

/-- What one access makes of a state. -/
inductive OpEffect (env : BudgetEnv) : BudgetOp → BudgetState → BudgetState → Prop
  | reserve {taskId : String} {request : TaskExecutionRequest} {providerId modelId : String} {bundle : Value}
      {before after : BudgetState} (result : Except Exc BudgetReservationResult)
      (heffect : ReserveEffect env taskId request providerId modelId bundle before result after) :
      OpEffect env (.reserve taskId request providerId modelId bundle) before after
  | finalize {taskId : String} {metrics : Option TaskExecutionMetrics} {status : String}
      {before after : BudgetState} (result : Except Exc FinalizeResult)
      (heffect : FinalizeEffect env taskId metrics status before result after) :
      OpEffect env (.finalize taskId metrics status) before after
  | release {taskId reason : String} {before after : BudgetState}
      (hsame : SameLedgers (before.released env (reservationIdOf taskId)) after) :
      OpEffect env (.release taskId reason) before after
  | cachePolicy {bundle : Value} {before after : BudgetState} (hsame : SameLedgers before after) :
      OpEffect env (.cachePolicy bundle) before after
  | storeFetchedPolicy {payload : Value} {before after : BudgetState} (hsame : SameLedgers before after) :
      OpEffect env (.storeFetchedPolicy payload) before after

/-- The store a discarded action leaves. -/
theorem store_discard {α : Type} {m : BudgetAction α} {file : Option BudgetState} {result : Except Exc α}
    (h : m.exec file = (result, some s')) : StoreAction.store (discard m) file = some s' := by
  show (StoreAction.exec (Functor.discard m) file).2 = some s'
  rw [StoreAction.exec_discard, h]

/-- **One access** of the manager in a valid stored state. -/
theorem BudgetOp.effect (env : BudgetEnv) (op : BudgetOp) (hvalid : s.Valid) :
    ∃ s', (op.action env).store (some s) = some s' ∧ s'.Valid ∧ OpEffect env op s s' := by
  cases op with
  | reserve taskId request providerId modelId bundle =>
    obtain ⟨result, s', hexec, hvalid', heffect⟩ :=
      reserveExecution_effect env taskId request providerId modelId bundle hvalid
    exact ⟨s', store_discard hexec, hvalid', .reserve result heffect⟩
  | finalize taskId metrics status =>
    obtain ⟨result, s', hexec, hvalid', heffect, -⟩ := finalizeExecution_effect env taskId metrics status hvalid
    exact ⟨s', store_discard hexec, hvalid', .finalize result heffect⟩
  | release taskId reason =>
    obtain ⟨result, s', hexec, hvalid', hsame⟩ := releaseExecution_effect env taskId reason hvalid
    exact ⟨s', store_discard hexec, hvalid', .release hsame⟩
  | cachePolicy bundle =>
    obtain ⟨s', hs', hvalid', hsame⟩ :=
      ((keepsLedgers_cachePolicy (s := s) env bundle).discard (some s) (kept_self hvalid)).1
    exact ⟨s', hs', hvalid', .cachePolicy hsame⟩
  | storeFetchedPolicy payload =>
    obtain ⟨s', hs', hvalid', hsame⟩ :=
      (keepsLedgers_storeFetchedPolicy (s := s) env payload (some s) (kept_self hvalid)).1
    exact ⟨s', hs', hvalid', .storeFetchedPolicy hsame⟩

/-- **What every access keeps**, in an environment of its own, a run keeps. -/
theorem keeps_storeAfter {I : BudgetState → Prop} {ops : List (BudgetEnv × BudgetOp)} (hvalid : s.Valid)
    (hs : I s) (hstep : ∀ op ∈ ops, ∀ t t', t.Valid → I t → OpEffect op.1 op.2 t t' → I t') :
    ∃ s', StoreAction.storeAfter (ops.map fun op => op.2.action op.1) (some s) = some s' ∧ s'.Valid ∧ I s' := by
  induction ops generalizing s with
  | nil => exact ⟨s, rfl, hvalid, hs⟩
  | cons op ops ih =>
    obtain ⟨t, hstore, hvalid', heffect⟩ := op.2.effect op.1 hvalid
    have ht := hstep op List.mem_cons_self s t hvalid hs heffect
    show ∃ s', StoreAction.storeAfter (ops.map fun op => op.2.action op.1) ((op.2.action op.1).store (some s)) =
      some s' ∧ _
    rw [hstore]
    exact ih hvalid' ht fun op' hop' => hstep op' (List.mem_cons_of_mem _ hop')

end Budget
end HexeAiNode
