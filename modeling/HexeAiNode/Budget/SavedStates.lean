import HexeAiNode.Budget.LedgerConsistency
import HexeAiNode.Budget.Persistence

/-!
# Saving is never refused

`save` refuses a state that `validate_budget_state` rejects, by raising.  From a valid stored state no
operation of the manager raises that: each of them saves a state it has derived from a loaded one, and
`Budget.Validity` shows that deriving keeps a state valid.  `Ensures` carries this through the operations, with
the condition that what they raise is something else.

A file that is rejected is replaced: `load_or_create` starts again with an empty state.
-/

namespace HexeAiNode
namespace Budget

open Py Execution
open StoreAction (Ensures storeAfter exec_bind_of_ok)

variable {env : BudgetEnv} {s s' : BudgetState} {args : ReservationArgs} {e : Exc}

/-! ## What is raised -/

/-- `save` was asked to write a state that is not accepted. -/
def SaveRefused (e : Exc) : Prop :=
  e.cls = .valueError ∧ startsWith e.text "cannot save invalid budget state: " = true

/-- A computation that does not raise what a refused save raises. -/
def Quiet {α : Type} (x : Except Exc α) : Prop := ∀ e, x = .error e → ¬SaveRefused e

section Quiet

variable {α β : Type} {x : Except Exc α}

theorem quiet_ok (a : α) : Quiet (.ok a : Except Exc α) := fun _ h => nomatch h

theorem quiet_error (h : ¬SaveRefused e) : Quiet (.error e : Except Exc α) := by
  intro e' he
  have he : e = e' := Except.error.inj he
  exact he ▸ h

theorem not_saveRefused {cls : ExcClass} (h : cls ≠ .valueError) (text : String) : ¬SaveRefused ⟨cls, text⟩ :=
  fun hrefused => h hrefused.1

theorem Quiet.bind {f : α → Except Exc β} (hx : Quiet x) (hf : ∀ a, Quiet (f a)) : Quiet (x >>= f) := by
  rcases x with e | a
  · exact fun e' he => hx e' (congrArg Except.error (Except.error.inj he))
  · exact hf a

theorem Quiet.ite {c : Prop} [Decidable c] {y : Except Exc α} (hx : Quiet x) (hy : Quiet y) :
    Quiet (if c then x else y) := by
  split
  · exact hx
  · exact hy

theorem quiet_toIntOr (v : Value) (default : ℤ) : Quiet (v.toIntOr default) := by
  unfold Value.toIntOr
  split
  · exact quiet_ok _
  · split
    · exact quiet_ok _
    · next hcls => exact quiet_error fun hrefused => hcls (Or.inr hrefused.1)

theorem quiet_ceil (v : FloatVal) : Quiet v.ceil := by
  cases v with
  | finite q => exact quiet_ok _
  | nan => exact quiet_error fun h => absurd h.2 (by decide)
  | _ => exact quiet_error (not_saveRefused (by decide) _)

theorem quiet_toFloat (v : Value) : Quiet v.toFloat := by
  cases v with
  | bool b => exact quiet_ok _
  | float v text => exact quiet_ok _
  | int i =>
    unfold Value.toFloat
    dsimp only
    split
    · exact quiet_ok _
    · exact quiet_error (not_saveRefused (by decide) _)
  | str text =>
    unfold Value.toFloat
    dsimp only
    split
    · exact quiet_ok _
    · refine quiet_error fun h => absurd h.2 ?_
      simp [startsWith]
  | _ => exact quiet_error (not_saveRefused (by decide) _)

theorem quiet_compareNow (time : Option Timestamp) (test : ℤ → Bool) : Quiet (compareNow time test) := by
  unfold compareNow
  split
  · exact quiet_ok _
  · exact (quiet_ok _).ite (quiet_error (not_saveRefused (by decide) _))

theorem quiet_toItems (v : Value) : Quiet v.toItems := by
  unfold Value.toItems
  refine Quiet.ite ?_ (quiet_ok _)
  cases v with
  | list xs => exact quiet_ok _
  | dict kvs => exact quiet_ok _
  | str text => exact quiet_ok _
  | _ => exact quiet_error (not_saveRefused (by decide) _)

theorem quiet_grantApplies (request : TaskExecutionRequest) (providerId : String) (grant : Dict) :
    Quiet (grantApplies env request providerId grant) := by
  refine Quiet.ite (quiet_ok _) ?_
  refine (quiet_compareNow _ _).bind fun _ => Quiet.ite (quiet_ok _) ?_
  exact (quiet_compareNow _ _).bind fun _ => quiet_ok _

theorem quiet_filterGrants (request : TaskExecutionRequest) (providerId : String) (grants : List Value) :
    Quiet (filterGrants env request providerId grants) := by
  induction grants with
  | nil => exact quiet_ok _
  | cons grant grants ih =>
    cases grant with
    | dict grant =>
      exact (quiet_grantApplies request providerId grant).bind fun _ => ih.bind fun _ => quiet_ok _
    | _ => exact ih

theorem quiet_applicableGrants (policy : Dict) (request : TaskExecutionRequest) (providerId : String) :
    Quiet (applicableGrants env policy request providerId) :=
  (quiet_toItems _).bind fun _ => quiet_filterGrants request providerId _

theorem quiet_anyMoneyLimit (grants : List Dict) : Quiet (anyMoneyLimit grants) := by
  induction grants with
  | nil => exact quiet_ok _
  | cons grant grants ih => exact (quiet_toIntOr _ _).bind fun _ => (quiet_ok _).ite ih

theorem quiet_nonNegativeInt (v : Value) : Quiet (nonNegativeInt v) :=
  (quiet_toIntOr _ _).bind fun _ => quiet_ok _

theorem quiet_usdToCents (v : Value) : Quiet (usdToCents v) :=
  (quiet_toFloat v).bind fun _ => (quiet_ceil _).bind fun _ => quiet_ok _

theorem quiet_estimateModelCostCents (request : TaskExecutionRequest) (providerId modelId : String) :
    Quiet (estimateModelCostCents env request providerId modelId) := by
  unfold estimateModelCostCents
  split
  · exact quiet_ok _
  · have htokens : ∀ tokens price, Quiet (tokenCost tokens price) := fun _ _ =>
      (quiet_toFloat _).bind fun _ => quiet_ok _
    refine (quiet_toIntOr _ _).bind fun _ => (htokens _ _).bind fun _ => ?_
    exact (htokens _ _).bind fun _ => (quiet_ceil _).bind fun _ => quiet_ok _

theorem quiet_reserveProviderBudget : Quiet (reserveProviderBudget env s args) := by
  unfold reserveProviderBudget
  split
  · exact quiet_ok _
  · refine Quiet.bind ?_ fun _ => ?_
    · unfold ensureProviderBudgetUsageEntry
      split
      · exact quiet_ok _
      · exact (quiet_toIntOr _ _).bind fun _ => quiet_ok _
    · exact (quiet_ok _).ite ((quiet_ok _).ite (quiet_ok _))

theorem quiet_reserveGrants (grants : List Dict) (applied : List String) :
    Quiet (reserveGrants env args grants applied s) := by
  induction grants generalizing applied s with
  | nil => exact quiet_ok _
  | cons grant grants ih =>
    refine Quiet.bind ?_ fun step => ?_
    · exact (quiet_ok _).ite ((quiet_toIntOr _ _).bind fun _ => (quiet_ok _).ite (quiet_ok _))
    · cases step with
      | refused reason state => exact quiet_ok _
      | reserved grantId state => exact ih _

theorem quiet_finalCostCents (metrics : Option TaskExecutionMetrics) : Quiet (finalCostCents metrics) := by
  unfold finalCostCents
  split
  · exact quiet_ok _
  · exact (quiet_ceil _).bind fun _ => quiet_ok _

theorem quiet_finalize (reservationId nowIso : String) (cost : FinalCost) (u : ProviderUsage) :
    Quiet (u.finalize reservationId nowIso cost) := by
  unfold ProviderUsage.finalize
  split
  · exact quiet_ok _
  · exact Quiet.ite ((quiet_ceil _).bind fun _ => quiet_ok _) (quiet_ok _)

theorem quiet_updateValues {f : α → Except Exc α} (hf : ∀ a, Quiet (f a)) (d : OrderedDict String α) :
    Quiet (d.updateValues f) := by
  unfold OrderedDict.updateValues
  split
  · next e herror =>
    obtain ⟨a, -, ha⟩ := List.exists_of_findSome?_eq_some herror
    refine quiet_error (hf a e ?_)
    rcases hfa : f a with e' | b
    · rw [hfa] at ha
      exact congrArg Except.error (Option.some.inj ha)
    · rw [hfa] at ha
      cases ha
  · exact quiet_ok _

end Quiet

/-! ## States and policies -/

/-- A policy that validation accepts; the keys of a dictionary are distinct. -/
structure PolicyFits (policy : Value) : Prop where
  accepted : validateBudgetPolicy policy = none
  keyed : policy.Keyed

/-- A state that is accepted, with such a policy. -/
structure StateFits (s : BudgetState) : Prop where
  valid : s.Valid
  policy : s.budgetPolicy.Keyed

theorem StateFits.policyFits (h : StateFits s) : PolicyFits s.budgetPolicy := ⟨h.valid.policy, h.policy⟩

/-- The state with another policy. -/
theorem StateFits.setPolicy {policy : Value} (h : StateFits s) (hpolicy : PolicyFits policy) :
    StateFits { s with budgetPolicy := policy } where
  valid :=
    { policy := hpolicy.accepted
      grants := h.valid.grants
      providers := h.valid.providers
      denials := h.valid.denials
      summaries := h.valid.summaries
      updatedAt := h.valid.updatedAt }
  policy := hpolicy.keyed

theorem StateFits.touch (h : StateFits s) (env : BudgetEnv) :
    StateFits { s with updatedAt := env.nowIso } where
  valid :=
    { policy := h.valid.policy
      grants := h.valid.grants
      providers := h.valid.providers
      denials := h.valid.denials
      summaries := h.valid.summaries
      updatedAt := env.nowIso_nonEmpty }
  policy := h.policy

theorem budgetPolicy_reserveProviderBudget {result : Option ProviderBudgetResult}
    (hs : reserveProviderBudget env s args = .ok (result, s')) : s'.budgetPolicy = s.budgetPolicy := by
  obtain ⟨providers, rfl⟩ := exists_providers_of_reserveProviderBudget hs
  rfl

theorem budgetPolicy_reserveGrants {grants : List Dict} {applied applied' : List String}
    (hs : reserveGrants env args grants applied s = .ok (.reserved applied' s')) :
    s'.budgetPolicy = s.budgetPolicy := by
  induction grants generalizing applied s with
  | nil =>
    obtain ⟨-, rfl⟩ := GrantsOutcome.reserved.inj (Except.ok.inj hs)
    rfl
  | cons grant grants ih =>
    obtain ⟨step, hstep, hs⟩ := bind_eq_ok.mp hs
    rcases step with ⟨reason, state⟩ | ⟨grantId, state⟩
    · exact absurd (Except.ok.inj hs) (by simp)
    · have hstate : state.budgetPolicy = s.budgetPolicy := by
        unfold reserveGrant at hstep
        dsimp only at hstep
        split at hstep
        · exact absurd (Except.ok.inj hstep) (by simp)
        · obtain ⟨maxCostCents, -, hstep⟩ := bind_eq_ok.mp hstep
          split at hstep
          · exact absurd (Except.ok.inj hstep) (by simp)
          · obtain ⟨-, rfl⟩ := GrantStep.reserved.inj (Except.ok.inj hstep)
            rfl
      exact (ih hs).trans hstate

/-- A grant of a list is one of its dictionaries. -/
theorem mem_of_mem_filterGrants {request : TaskExecutionRequest} {providerId : String} {grant : Dict}
    {grants : List Value} {applicable : List Dict}
    (h : filterGrants env request providerId grants = .ok applicable) (hmem : grant ∈ applicable) :
    .dict grant ∈ grants := by
  induction grants generalizing applicable with
  | nil =>
    obtain rfl := Except.ok.inj h
    exact absurd hmem List.not_mem_nil
  | cons first grants ih =>
    cases first with
    | dict first =>
      obtain ⟨applies, -, h⟩ := bind_eq_ok.mp h
      obtain ⟨rest, hrest, h⟩ := bind_eq_ok.mp h
      obtain rfl := Except.ok.inj h
      split at hmem
      · rcases List.mem_cons.mp hmem with rfl | hmem
        · exact List.mem_cons_self
        · exact List.mem_cons_of_mem _ (ih hrest hmem)
      · exact List.mem_cons_of_mem _ (ih hrest hmem)
    | _ => exact List.mem_cons_of_mem _ (ih h hmem)

/-- The grants of an accepted policy are a list. -/
theorem exists_grants {policy : Dict} (h : validateBudgetPolicy (.dict policy) = none) :
    ∃ grants, Dict.get policy "grants" = .list grants := by
  unfold validateBudgetPolicy at h
  dsimp only at h
  rw [Option.orElse_eq_orElse, Option.orElse_eq_or, Option.or_eq_none_iff] at h
  have hgrants := h.2
  rcases hget : Dict.get policy "grants" with _ | _ | _ | _ | _ | grants | _ <;> rw [hget] at hgrants
  case list => exact ⟨grants, rfl⟩
  all_goals cases hgrants

/-- The applicable grants of an accepted policy are grants that were checked. -/
theorem grantFits_of_applicable {policy : Dict} {request : TaskExecutionRequest} {providerId : String}
    {grants : List Dict} (hpolicy : validateBudgetPolicy (.dict policy) = none)
    (h : applicableGrants env policy request providerId = .ok grants) : ∀ grant ∈ grants, GrantFits grant := by
  obtain ⟨items, hitems⟩ := exists_grants hpolicy
  unfold applicableGrants at h
  rw [hitems, Value.toItems_list] at h
  exact fun grant hgrant => grantFits_of_mem hpolicy hitems (mem_of_mem_filterGrants h hgrant)

/-! ## Operations -/

/-- The store holds an accepted state. -/
def Stored (file : Option BudgetState) : Prop := ∃ s, file = some s ∧ StateFits s

/-- An action that keeps the store and is never refused a save. -/
abbrev Accepted {α : Type} (m : BudgetAction α) (Q : α → Prop) : Prop :=
  Ensures Stored m Q fun e => ¬SaveRefused e

theorem accepted_ofResult {α : Type} {x : Except Exc α} {Q : α → Prop} (hx : Quiet x)
    (h : ∀ a, x = .ok a → Q a) : Accepted (StoreAction.ofResult x) Q := Ensures.ofResult h hx

theorem accepted_loadState (env : BudgetEnv) : Accepted (loadState env) StateFits := by
  rintro file ⟨s, rfl, hs⟩
  rw [loadState_of_valid env hs.valid]
  refine ⟨⟨s, rfl, hs⟩, fun t ht => ?_, fun e he => nomatch he⟩
  obtain rfl := Except.ok.inj ht
  exact hs

theorem accepted_saveState (env : BudgetEnv) (h : StateFits s) : Accepted (saveState env s) fun _ => True := by
  have hs := h.touch env
  unfold saveState storeSave
  rw [BudgetState.valid_iff.mp hs.valid]
  exact Ensures.write ⟨_, rfl, hs⟩

theorem accepted_saveIf (condition : Bool) (env : BudgetEnv) (h : StateFits s) :
    Accepted (saveIf condition env s) fun _ => True :=
  Ensures.ite (fun _ => accepted_saveState env h) fun _ => Ensures.pure trivial

/-- A policy that comes with a bundle or an answer of the core is accepted. -/
def BundleFits (bundle : Value) : Prop :=
  (Dict.get bundle.asDict "budget_policy").isDict = true → PolicyFits (Dict.get bundle.asDict "budget_policy")

variable {bundle : Value}

theorem accepted_cachePolicy (env : BudgetEnv) (hbundle : BundleFits bundle) :
    Accepted (cachePolicyFromGovernance env bundle) PolicyFits := by
  refine Ensures.ite (fun hdict => ?_) fun _ => Ensures.pure ⟨rfl, trivial⟩
  refine (accepted_loadState env).bind fun t ht => ?_
  refine Ensures.ite (fun _ => Ensures.pure (hbundle hdict)) fun _ => ?_
  exact (accepted_saveState env (ht.setPolicy (hbundle hdict))).bind fun _ _ => Ensures.pure (hbundle hdict)

theorem accepted_storeFetchedPolicy (env : BudgetEnv) (hbundle : BundleFits bundle) :
    Accepted (storeFetchedPolicy env bundle) fun _ => True := by
  refine Ensures.ite (fun hdict => ?_) fun _ => Ensures.pure trivial
  refine (accepted_loadState env).bind fun t ht => ?_
  exact accepted_saveState env (ht.setPolicy (hbundle hdict))

theorem accepted_reservationCostCents (env : BudgetEnv) (request : TaskExecutionRequest)
    (providerId modelId : String) :
    Accepted (reservationCostCents env request providerId modelId) fun cents => 0 ≤ cents := by
  have hlimits : Accepted (hasAnyMoneyLimits env request providerId) fun _ => True := by
    refine (accepted_loadState env).bind fun t _ => ?_
    split
    · refine (accepted_ofResult (quiet_applicableGrants _ request providerId) fun _ _ => trivial).bind
        fun grants _ => ?_
      exact (accepted_ofResult (quiet_anyMoneyLimit grants) fun _ _ => trivial).bind fun _ _ =>
        Ensures.pure trivial
    · exact Ensures.pure trivial
  refine Ensures.ite (fun _ => accepted_ofResult (quiet_nonNegativeInt _) fun _ => nonneg_of_nonNegativeInt) fun _ => ?_
  refine Ensures.ite (fun _ => accepted_ofResult (quiet_nonNegativeInt _) fun _ => nonneg_of_nonNegativeInt) fun _ => ?_
  refine Ensures.ite (fun _ => accepted_ofResult (quiet_usdToCents _) fun _ => nonneg_of_usdToCents) fun _ => ?_
  refine (accepted_ofResult (quiet_estimateModelCostCents request providerId modelId) fun _ _ => trivial).bind
    fun estimated _ => ?_
  refine hlimits.bind fun limited _ => Ensures.pure (le_max_of_le_right ?_)
  split <;> omega

/-- A denial is recorded with texts that are not blank. -/
theorem accepted_deny (env : BudgetEnv) (request : TaskExecutionRequest) (policyStatus : String)
    (hargs : args.Fits) {reason : String} (hreason : isNonEmptyString (.str reason) = true) :
    Accepted (deny env args request reason policyStatus) fun _ => True := by
  refine Ensures.bind (Q := fun _ => True) ?_ fun _ _ => Ensures.pure trivial
  refine (accepted_loadState env).bind fun t ht => accepted_saveState env ⟨?_, ht.policy⟩
  refine ⟨ht.valid.policy, ht.valid.grants, ht.valid.providers, fun d hd => ?_, ht.valid.summaries, ht.valid.updatedAt⟩
  rcases List.mem_append.mp (List.mem_of_mem_drop hd) with hd | hd
  · exact ht.valid.denials d hd
  · obtain rfl := List.mem_singleton.mp hd
    unfold Denial.error
    rw [firstError_eq_none_iff]
    simp only [List.forall_mem_cons, List.not_mem_nil]
    exact ⟨isNonEmptyString_strip hargs.taskId, isNonEmptyString_strip hreason, env.nowIso_nonEmpty,
      fun _ h => h.elim⟩

theorem accepted_reserveWithoutGrants (request : TaskExecutionRequest) (policyStatus : String) (h : StateFits s)
    (hwindow : env.WindowFits) (hargs : args.Fits) :
    Accepted (reserveWithoutGrants env s args request policyStatus) fun _ => True := by
  refine (accepted_ofResult quiet_reserveProviderBudget fun _ hok => hok).bind fun provider hprovider => ?_
  have hstate : StateFits provider.2 :=
    ⟨h.valid.reserveProviderBudget hwindow hargs hprovider, budgetPolicy_reserveProviderBudget hprovider ▸ h.policy⟩
  split
  · exact Ensures.pure trivial
  · refine Ensures.ite (fun _ => ?_) fun _ => accepted_deny env request _ hargs (by decide)
    exact (accepted_saveState env hstate).bind fun _ _ => Ensures.pure trivial

/-- The loop over the grants refuses with one of two reasons. -/
theorem reason_reserveGrants {grants : List Dict} {applied : List String} {reason : String} {state : BudgetState}
    (h : reserveGrants env args grants applied s = .ok (.denied reason state)) :
    isNonEmptyString (.str reason) = true := by
  induction grants generalizing applied s with
  | nil => exact absurd (Except.ok.inj h) (by simp)
  | cons grant grants ih =>
    obtain ⟨step, hstep, h⟩ := bind_eq_ok.mp h
    rcases step with ⟨reason', state'⟩ | ⟨grantId, state'⟩
    · obtain ⟨rfl, -⟩ := GrantsOutcome.denied.inj (Except.ok.inj h)
      unfold reserveGrant at hstep
      dsimp only at hstep
      split at hstep
      · obtain ⟨rfl, -⟩ := GrantStep.refused.inj (Except.ok.inj hstep)
        decide
      · obtain ⟨maxCostCents, -, hstep⟩ := bind_eq_ok.mp hstep
        split at hstep
        · obtain ⟨rfl, -⟩ := GrantStep.refused.inj (Except.ok.inj hstep)
          decide
        · exact absurd (Except.ok.inj hstep) (by simp)
    · exact ih h

theorem accepted_reserveWithGrants (request : TaskExecutionRequest) {policy : Dict} (policyStatus : String)
    (h : StateFits s) (hpolicy : PolicyFits (.dict policy)) (hwindow : env.WindowFits) (hargs : args.Fits) :
    Accepted (reserveWithGrants env s args request policy policyStatus) fun _ => True := by
  refine (accepted_ofResult (quiet_applicableGrants policy request args.providerId)
    fun _ hok => hok).bind fun grants hgrants => ?_
  refine Ensures.ite (fun _ => accepted_deny env request _ hargs (by decide)) fun _ => ?_
  refine (accepted_ofResult (quiet_reserveGrants grants []) fun _ hok => hok).bind fun outcome hloop => ?_
  rcases outcome with ⟨reason, state⟩ | ⟨applied, state⟩
  · exact accepted_deny env request _ hargs (reason_reserveGrants hloop)
  have hstate := h.valid.reserveGrants hargs (grantFits_of_applicable hpolicy.accepted hgrants) hloop
  refine (accepted_ofResult quiet_reserveProviderBudget fun _ hok => hok).bind fun provider hprovider => ?_
  refine Ensures.ite (fun _ => accepted_deny env request _ hargs (by decide)) fun _ => ?_
  have hsaved : StateFits provider.2 := by
    refine ⟨hstate.reserveProviderBudget hwindow hargs hprovider, ?_⟩
    rw [budgetPolicy_reserveProviderBudget hprovider, budgetPolicy_reserveGrants hloop]
    exact h.policy
  exact (accepted_saveState env hsaved).bind fun _ _ => Ensures.pure trivial

theorem accepted_reserveExecution (env : BudgetEnv) {taskId : String} (request : TaskExecutionRequest)
    (providerId modelId : String) (htask : isNonEmptyString (.str taskId) = true) (hwindow : env.WindowFits)
    (hbundle : BundleFits bundle) :
    Accepted (reserveExecution env taskId request providerId modelId bundle) fun _ => True := by
  refine (accepted_loadState env).bind fun t ht => ?_
  refine (accepted_cachePolicy env hbundle).bind fun cached hcached => ?_
  refine (accepted_reservationCostCents env request providerId modelId).bind fun cents hcents => ?_
  have hargs : (argsOf taskId providerId modelId cents).Fits := by
    refine ⟨isNonEmptyString_str_iff.mpr ⟨'b', ?_, by decide⟩, htask, hcents⟩
    show 'b' ∈ (reservationIdOf taskId).toList
    unfold reservationIdOf
    simp
  have hforce : PolicyFits (cached.orElse t.budgetPolicy) := by
    unfold Value.orElse
    split
    · exact hcached
    · exact ht.policyFits
  dsimp only
  split
  · next policy hpolicy =>
    rw [hpolicy] at hforce
    refine Ensures.ite (fun _ => ?_) fun _ => ?_
    · exact accepted_reserveWithoutGrants request _ (ht.setPolicy hforce) hwindow hargs
    · exact accepted_reserveWithGrants request _ (ht.setPolicy hforce) hforce hwindow hargs
  · exact accepted_reserveWithoutGrants request _ ht hwindow hargs

theorem accepted_finalizeExecution (env : BudgetEnv) (taskId : String) {metrics : Option TaskExecutionMetrics}
    (status : String) (htokens : 0 ≤ totalTokensOf metrics) :
    Accepted (finalizeExecution env taskId metrics status) fun _ => True := by
  refine (accepted_loadState env).bind fun t ht => ?_
  refine (accepted_ofResult (quiet_finalCostCents metrics) fun _ _ => trivial).bind fun cents _ => ?_
  refine (accepted_ofResult (quiet_updateValues (quiet_finalize _ _ _) _) fun _ hok => hok).bind
    fun providers hproviders => ?_
  have hfinalized : (t.finalized env _ _ providers).Valid := ht.valid.finalized htokens hproviders
  refine Ensures.bind (R := fun _ => True) (accepted_saveIf _ env ⟨?_, ht.policy⟩) fun _ _ => Ensures.pure trivial
  exact ⟨hfinalized.policy, hfinalized.grants, hfinalized.providers, hfinalized.denials, hfinalized.summaries,
    ht.valid.updatedAt⟩

theorem accepted_releaseExecution (env : BudgetEnv) (taskId reason : String) :
    Accepted (releaseExecution env taskId reason) fun _ => True := by
  refine (accepted_loadState env).bind fun t ht => ?_
  have hreleased := ht.valid.release (reservationIdOf taskId) env.nowIso_nonEmpty
  refine Ensures.bind (R := fun _ => True) (accepted_saveIf _ env ⟨?_, ht.policy⟩) fun _ _ => Ensures.pure trivial
  exact ⟨hreleased.policy, hreleased.grants, hreleased.providers, hreleased.denials, hreleased.summaries,
    ht.valid.updatedAt⟩

/-! ## Submitting the summaries -/

/-- The first access of `flush_pending_usage_summaries`: what there is to submit. -/
def pendingUsageSummaries (env : BudgetEnv) : BudgetAction (List UsageSummary) := do
  let state ← loadState env
  pure state.pendingUsageSummaries

/-- The second access of `flush_pending_usage_summaries`, after summaries were delivered. -/
def storeDelivered (env : BudgetEnv) (delivered : List UsageSummary) : BudgetAction Unit :=
  if delivered = [] then pure ()
  else do
    let latest ← loadState env
    let deliveredKeys := delivered.map fun item => (item.grantId, item.queuedAt)
    saveState env
      { latest with
        pendingUsageSummaries := latest.pendingUsageSummaries.filter fun item =>
          !deliveredKeys.contains (item.grantId, item.queuedAt) }

theorem accepted_storeDelivered (env : BudgetEnv) (delivered : List UsageSummary) :
    Accepted (storeDelivered env delivered) fun _ => True := by
  refine Ensures.ite (fun _ => Ensures.pure trivial) fun _ => ?_
  refine (accepted_loadState env).bind fun t ht => accepted_saveState env ⟨?_, ht.policy⟩
  exact ⟨ht.valid.policy, ht.valid.grants, ht.valid.providers, ht.valid.denials,
    fun d hd => ht.valid.summaries d (List.mem_of_mem_filter hd), ht.valid.updatedAt⟩

/-! ## Runs -/

/-- One access to the store of the operations and of `flush_pending_usage_summaries`. -/
inductive StoreOp where
  | manager (op : BudgetOp)
  | pending
  | delivered (summaries : List UsageSummary)

/-- What an access does. -/
def StoreOp.action (env : BudgetEnv) : StoreOp → BudgetAction Unit
  | .manager op => op.action env
  | .pending => discard <| pendingUsageSummaries env
  | .delivered summaries => storeDelivered env summaries

/-- The arguments of an operation have passed the models of requests and metrics, and the policies it
brings pass validation. -/
def BudgetOp.Fits : BudgetOp → Prop
  | .reserve taskId _ _ _ bundle => isNonEmptyString (.str taskId) = true ∧ BundleFits bundle
  | .finalize _ metrics _ => 0 ≤ totalTokensOf metrics
  | .release _ _ => True
  | .cachePolicy bundle => BundleFits bundle
  | .storeFetchedPolicy payload => BundleFits payload

/-- Delivered summaries fit in any case: they only leave the list. -/
def StoreOp.Fits : StoreOp → Prop
  | .manager op => op.Fits
  | _ => True

/-- **One access** keeps the store and is never refused a save. -/
theorem StoreOp.accepted_action {op : StoreOp} (hwindow : env.WindowFits) (hop : op.Fits) :
    Accepted (op.action env) fun _ => True := by
  cases op with
  | manager op =>
    cases op with
    | reserve taskId request providerId modelId bundle =>
      exact (accepted_reserveExecution env request providerId modelId hop.1 hwindow hop.2).discard
    | finalize taskId metrics status => exact (accepted_finalizeExecution env taskId status hop).discard
    | release taskId reason => exact (accepted_releaseExecution env taskId reason).discard
    | cachePolicy bundle => exact (accepted_cachePolicy env hop).discard
    | storeFetchedPolicy payload => exact accepted_storeFetchedPolicy env hop
  | pending =>
    refine Ensures.discard (Q := fun _ => True) ?_
    exact (accepted_loadState env).bind fun _ _ => Ensures.pure trivial
  | delivered summaries => exact accepted_storeDelivered env summaries

/-- The store after a run of accesses, each in an environment of its own. -/
def afterOps (ops : List (BudgetEnv × StoreOp)) (file : Option BudgetState) : Option BudgetState :=
  storeAfter (ops.map fun op => op.2.action op.1) file

theorem stored_afterOps {file : Option BudgetState} {ops : List (BudgetEnv × StoreOp)} (h : Stored file)
    (hops : ∀ op ∈ ops, op.1.WindowFits ∧ op.2.Fits) : Stored (afterOps ops file) := by
  refine StoreAction.Keeps.storeAfter ?_ h
  intro m hm
  obtain ⟨op, hop, rfl⟩ := List.mem_map.mp hm
  exact (StoreOp.accepted_action (hops op hop).1 (hops op hop).2).keeps

/-- What `load_or_create` makes of a file that is rejected. -/
theorem loadState_of_rejected (env : BudgetEnv) (h : ¬s.Valid) :
    (loadState env).exec (some s) =
      (.ok (createBudgetState env.nowIso), some (createBudgetState env.nowIso)) := by
  have hload : storeLoad (some s) = none := by
    unfold storeLoad
    rw [Option.filter_some, if_neg]
    rw [Option.isNone_iff_eq_none]
    exact fun hnone => h (BudgetState.valid_iff.mpr hnone)
  have hsave : (storeSave (createBudgetState env.nowIso)).exec (some s) =
      (.ok (), some (createBudgetState env.nowIso)) := by
    unfold storeSave
    rw [BudgetState.valid_iff.mp (valid_createBudgetState env.nowIso_nonEmpty)]
    rfl
  unfold loadState
  rw [exec_bind_of_ok (StoreAction.exec_read (some s)), hload]
  dsimp only
  rw [exec_bind_of_ok hsave]
  rfl

/-- **Saved states are accepted**: over every run from an accepted state no save is refused, the last state
saved is read back as it was, with its keys in order, and equals itself when its policy has no `nan`; a file
that is rejected is replaced by an empty state. -/
theorem saved_states_accepted (text : FloatVal → String) {ops : List (BudgetEnv × StoreOp)} (hs : StateFits s)
    (hops : ∀ op ∈ ops, op.1.WindowFits ∧ op.2.Fits) :
    (∀ done op rest, ops = done ++ op :: rest →
      ∀ e, ((op.2.action op.1).exec (afterOps done (some s))).1 = .error e → ¬SaveRefused e) ∧
    (∃ s', afterOps ops (some s) = some s' ∧ s'.Valid ∧
      saveFile (s'.toJson text) = .ok (s'.toJson text).sortKeys ∧
      loadFile (s'.toJson text).sortKeys = some (s'.toJson text).sortKeys ∧
      (s'.budgetPolicy.NanFree → (s'.toJson text).sortKeys.same (s'.toJson text) = true)) ∧
    ∀ (env : BudgetEnv) (rejected : BudgetState), ¬rejected.Valid →
      (loadState env).exec (some rejected) =
        (.ok (createBudgetState env.nowIso), some (createBudgetState env.nowIso)) := by
  refine ⟨?_, ?_, fun env rejected => loadState_of_rejected env⟩
  · rintro done op rest rfl e he
    have hop := hops op (List.mem_append_right _ List.mem_cons_self)
    have hdone := stored_afterOps ⟨s, rfl, hs⟩ fun op hop => hops op (List.mem_append_left _ hop)
    exact ((StoreOp.accepted_action hop.1 hop.2) _ hdone).2.2 e he
  · obtain ⟨s', hs', hfits⟩ := stored_afterOps ⟨s, rfl, hs⟩ hops
    obtain ⟨hsave, hload⟩ := loadFile_of_saveFile hfits.valid text hfits.policy
    refine ⟨s', hs', hfits.valid, hsave, hload, fun hfree => ?_⟩
    exact Value.same_sortKeys _ (hfits.valid.keyed_toJson text hfits.policy)
      (hfits.valid.nanFree_toJson text hfree)

/-- A run with a reservation, its completion and the delivery of the summary. -/
def sampleStoreOps : List (BudgetEnv × StoreOp) :=
  [(sampleEnv, .manager (.reserve "t1" sampleRequest "openai" "gpt" .null)),
    (sampleEnv, .manager (.finalize "t1" none "completed")), (sampleEnv, .pending),
    (sampleEnv, .delivered
      [{ grantId := "g1", service := "ai.inference", periodStart := .str "2026-01-01"
         periodEnd := .str "2026-01-31", usedRequests := 1, usedTokens := 0, usedCostCents := 40
         queuedAt := "2026-01-05" }])]

theorem sampleState_fits : StateFits sampleState where
  valid := by decide +kernel
  policy := by
    unfold sampleState samplePolicy
    simp [Value.Keyed, Value.KeyedEntries, Value.KeyedList, Assoc.Distinct, Assoc.keys]

theorem sampleStoreOps_fits : ∀ op ∈ sampleStoreOps, op.1.WindowFits ∧ op.2.Fits := by
  have hwindow : sampleEnv.WindowFits := fun period =>
    ⟨(by decide : isNonEmptyString (.str "2026-01-01") = true),
      (by decide : isNonEmptyString (.str "2026-01-31") = true)⟩
  unfold sampleStoreOps
  simp only [List.forall_mem_cons, List.not_mem_nil]
  refine ⟨⟨hwindow, by decide, fun h => absurd h (by decide)⟩, ⟨hwindow, le_refl (0 : ℤ)⟩,
    ⟨hwindow, trivial⟩, ⟨hwindow, trivial⟩, fun _ h => h.elim⟩

theorem saved_states_accepted_sampleStoreOps :
    ∃ s', afterOps sampleStoreOps (some sampleState) = some s' ∧ s'.Valid :=
  have h := (saved_states_accepted (fun _ => "0.0") sampleState_fits sampleStoreOps_fits).2.1
  ⟨h.choose, h.choose_spec.1, h.choose_spec.2.1⟩

/-- A file with recorded usage and one blank field. -/
def damagedState : BudgetState := { sampleState with updatedAt := "" }

/-- The usage of a rejected file is not kept. -/
theorem rejected_usage_is_lost :
    ¬∀ (env : BudgetEnv) (s : BudgetState), ¬s.Valid →
      ∃ s', (loadState env).store (some s) = some s' ∧ s'.grantUsage.keys = s.grantUsage.keys := by
  intro h
  have hrejected : ¬damagedState.Valid := by decide +kernel
  obtain ⟨s', hs', hkeys⟩ := h sampleEnv damagedState hrejected
  have hempty : (loadState sampleEnv).store (some damagedState) = some (createBudgetState sampleEnv.nowIso) :=
    congrArg Prod.snd (loadState_of_rejected sampleEnv hrejected)
  rw [hempty] at hs'
  obtain rfl := Option.some.inj hs'
  revert hkeys
  decide +kernel

end Budget
end HexeAiNode
