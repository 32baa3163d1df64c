import HexeAiNode.Budget.LedgerConsistency
import HexeAiNode.Budget.Turns

/-!
# Denied reservations

A denied reservation leaves both ledgers as they were, whichever of the grants or the provider budget denied it:
every path that denies drops the copy it has worked on and records the denial in a state loaded anew.

A reservation that is made again is a conflict, but only the loop over the grants reports it as one.
`DeniesExactly` says what a denial should be, `ConflictMet` when the loop meets the reservation that is made
again, and `deniesExactly_iff` that nothing else is denied as a conflict.  In particular

* a provider entry that holds the reservation is reported as an exhausted provider budget;
* a grant that is in the way before the one that holds it is reported instead;
* an entry that no applicable grant asks about, or one of an earlier period, is not seen at all.
-/

namespace HexeAiNode
namespace Budget

open Py Execution
open StoreAction (exec_bind exec_bind_of_ok exec_bind_of_error exec_ofResult)

variable {env : BudgetEnv} {s s' t : BudgetState} {args : ReservationArgs} {grant policy : Dict}
  {grants : List Dict} {request : TaskExecutionRequest} {taskId providerId modelId reason policyStatus : String}
  {bundle : Value} {cents : ℤ} {r : BudgetReservationResult} {file : Option BudgetState}

/-! ## The steps before the ledgers are asked -/

/-- The store takes the policy of the bundle: there is none, it is the stored one, or it is well formed. -/
def TakesPolicy (bundle : Value) (s : BudgetState) : Prop :=
  (bundlePolicy bundle).isDict = true →
    s.budgetPolicy.same (bundlePolicy bundle) = true ∨ validateBudgetPolicy (bundlePolicy bundle) = none

instance : Decidable (TakesPolicy bundle s) := inferInstanceAs (Decidable (_ → _))

/-- The stored state after the policy of the bundle was taken. -/
def takenState (env : BudgetEnv) (bundle : Value) (s : BudgetState) : BudgetState :=
  if (bundlePolicy bundle).isDict = true ∧ s.budgetPolicy.same (bundlePolicy bundle) = false then
    { s with budgetPolicy := bundlePolicy bundle, updatedAt := env.nowIso }
  else s

/-- The policy of a bundle is a dictionary when the bundle has one, and `None` otherwise. -/
theorem isDict_bundlePolicy :
    (bundlePolicy bundle).isDict = (Dict.get bundle.asDict "budget_policy").isDict := by
  unfold bundlePolicy
  split
  · rfl
  · next hdict => exact (Bool.eq_false_iff.mpr hdict).symm

theorem bundlePolicy_of_isDict (h : (bundlePolicy bundle).isDict = true) :
    Dict.get bundle.asDict "budget_policy" = bundlePolicy bundle := by
  rw [isDict_bundlePolicy] at h
  unfold bundlePolicy
  rw [if_pos h]

theorem BudgetState.Valid.withPolicy {v : Value} (h : s.Valid) (hv : validateBudgetPolicy v = none)
    (env : BudgetEnv) : BudgetState.Valid { s with budgetPolicy := v, updatedAt := env.nowIso } where
  policy := hv
  grants := h.grants
  providers := h.providers
  denials := h.denials
  summaries := h.summaries
  updatedAt := env.nowIso_nonEmpty

theorem takenState_valid (h : s.Valid) (htakes : TakesPolicy bundle s) : (takenState env bundle s).Valid := by
  unfold takenState
  split
  · next hnew =>
    refine h.withPolicy ((htakes hnew.1).resolve_left fun hsame => ?_) env
    rw [hnew.2] at hsame
    cases hsame
  · exact h

theorem sameLedgers_takenState : SameLedgers s (takenState env bundle s) := by
  unfold takenState
  split
  · exact ⟨rfl, rfl, rfl⟩
  · exact .refl s

/-- The policy of the bundle is cached when the store takes it. -/
theorem exec_cachePolicy (h : s.Valid) (htakes : TakesPolicy bundle s) :
    (cachePolicyFromGovernance env bundle).exec (some s) =
      (.ok (bundlePolicy bundle), some (takenState env bundle s)) := by
  have htaken : (takenState env bundle s).Valid := takenState_valid h htakes
  unfold cachePolicyFromGovernance
  dsimp only
  unfold takenState at htaken ⊢
  by_cases hdict : (bundlePolicy bundle).isDict = true
  · rw [bundlePolicy_of_isDict hdict, if_pos hdict, exec_bind_of_ok (loadState_of_valid env h)]
    rcases hsame : s.budgetPolicy.same (bundlePolicy bundle)
    · rw [hsame, if_pos ⟨hdict, rfl⟩] at htaken
      have hsave : (saveState env { s with budgetPolicy := bundlePolicy bundle }).exec (some s) =
          (.ok (), some { s with budgetPolicy := bundlePolicy bundle, updatedAt := env.nowIso }) := by
        have hnone := BudgetState.valid_iff.mp htaken
        unfold saveState storeSave
        rw [hnone]
        rfl
      rw [if_neg Bool.false_ne_true, exec_bind_of_ok hsave, if_pos ⟨hdict, rfl⟩]
      rfl
    · rw [if_pos rfl, if_neg fun hnew => Bool.noConfusion hnew.2]
      rfl
  · rw [← isDict_bundlePolicy, if_neg hdict, if_neg fun hnew => hdict hnew.1]
    have hnull : bundlePolicy bundle = .null := by
      unfold bundlePolicy
      rw [if_neg (isDict_bundlePolicy ▸ hdict)]
    rw [hnull]
    rfl

/-- Otherwise the reservation raises before it asks a ledger. -/
theorem exec_cachePolicy_of_not_takes (h : s.Valid) (htakes : ¬TakesPolicy bundle s) :
    ∃ e, (cachePolicyFromGovernance env bundle).exec (some s) = (.error e, some s) := by
  unfold TakesPolicy at htakes
  rw [Classical.not_imp, not_or] at htakes
  obtain ⟨hdict, hsame, hpolicy⟩ := htakes
  unfold cachePolicyFromGovernance
  dsimp only
  rw [bundlePolicy_of_isDict hdict, if_pos hdict, exec_bind_of_ok (loadState_of_valid env h), if_neg hsame]
  rcases exec_saveState env { s with budgetPolicy := bundlePolicy bundle } (some s) with
    ⟨-, hvalid⟩ | ⟨-, e, hsave⟩
  · exact absurd hvalid.policy hpolicy
  · exact ⟨e, exec_bind_of_error hsave⟩

/-- What `_reservation_cost_cents` gives in a state. -/
def reservationCost (env : BudgetEnv) (request : TaskExecutionRequest) (providerId modelId : String)
    (s : BudgetState) : Except Exc ℤ := ((reservationCostCents env request providerId modelId).exec (some s)).1

/-- The cost is computed without a change of the store. -/
theorem exec_reservationCostCents (h : s.Valid) :
    (reservationCostCents env request providerId modelId).exec (some s) =
      (reservationCost env request providerId modelId s, some s) := by
  have hload : StoreAction.Keeps (· = some s) (loadState env) fun _ => True := by
    rintro file rfl
    rw [loadState_of_valid env h]
    exact ⟨rfl, fun _ _ => trivial⟩
  have hresult : ∀ {α : Type} (x : Except Exc α),
      StoreAction.Keeps (· = some s) (StoreAction.ofResult x) fun _ => True :=
    fun _ => StoreAction.Keeps.ofResult fun _ _ => trivial
  have hlimits : StoreAction.Keeps (· = some s) (hasAnyMoneyLimits env request providerId) fun _ => True := by
    refine hload.bind fun t _ => ?_
    split
    · exact (hresult _).bind fun _ _ => (hresult _).bind fun _ _ => StoreAction.Keeps.pure trivial
    · exact StoreAction.Keeps.pure trivial
  have hcost : StoreAction.Keeps (· = some s) (reservationCostCents env request providerId modelId)
      fun _ => True := by
    refine StoreAction.Keeps.ite (fun _ => hresult _) fun _ => ?_
    refine StoreAction.Keeps.ite (fun _ => hresult _) fun _ => ?_
    refine StoreAction.Keeps.ite (fun _ => hresult _) fun _ => ?_
    exact (hresult _).bind fun _ _ => hlimits.bind fun _ _ => StoreAction.Keeps.pure trivial
  exact Prod.ext rfl (hcost (some s) rfl).1

/-! ## Which ledgers are asked -/

/-- Under an active policy, the applicable grants and then the provider budget. -/
theorem exec_reserveExecution_of_active (h : s.Valid) (htakes : TakesPolicy bundle s)
    (hcost : reservationCost env request providerId modelId (takenState env bundle s) = .ok cents)
    (hpolicy : activePolicy bundle s = some policy) :
    (reserveExecution env taskId request providerId modelId bundle).exec (some s) =
      (reserveWithGrants env (workingState bundle s) (argsOf taskId providerId modelId cents) request policy
        "active").exec (some (takenState env bundle s)) := by
  unfold reserveExecution
  rw [exec_bind_of_ok (loadState_of_valid env h), exec_bind_of_ok (exec_cachePolicy h htakes), exec_bind,
    exec_reservationCostCents (takenState_valid h htakes), hcost]
  dsimp only
  have hforced : (bundlePolicy bundle).orElse s.budgetPolicy = policyInForce bundle s := rfl
  rw [hforced]
  unfold activePolicy at hpolicy
  unfold workingState
  rcases hforce : policyInForce bundle s with _ | _ | _ | _ | _ | _ | force
  case dict =>
    rw [hforce] at hpolicy
    dsimp only at hpolicy ⊢
    split at hpolicy
    · next hactive =>
      obtain rfl := Option.some.inj hpolicy
      rw [if_neg (not_not.mpr hactive), hactive]
      rfl
    · cases hpolicy
  all_goals
    rw [hforce] at hpolicy
    cases hpolicy

/-- Otherwise the provider budget alone. -/
theorem exec_reserveExecution_of_inactive (h : s.Valid) (htakes : TakesPolicy bundle s)
    (hcost : reservationCost env request providerId modelId (takenState env bundle s) = .ok cents)
    (hpolicy : activePolicy bundle s = none) :
    ∃ policyStatus, (reserveExecution env taskId request providerId modelId bundle).exec (some s) =
      (reserveWithoutGrants env (workingState bundle s) (argsOf taskId providerId modelId cents) request
        policyStatus).exec (some (takenState env bundle s)) := by
  unfold reserveExecution
  rw [exec_bind_of_ok (loadState_of_valid env h), exec_bind_of_ok (exec_cachePolicy h htakes), exec_bind,
    exec_reservationCostCents (takenState_valid h htakes), hcost]
  dsimp only
  have hforced : (bundlePolicy bundle).orElse s.budgetPolicy = policyInForce bundle s := rfl
  rw [hforced]
  unfold activePolicy at hpolicy
  unfold workingState
  rcases hforce : policyInForce bundle s with _ | _ | _ | _ | _ | _ | force
  case dict =>
    rw [hforce] at hpolicy
    dsimp only at hpolicy ⊢
    split at hpolicy
    · cases hpolicy
    · next hactive =>
      rw [if_pos hactive]
      exact ⟨_, rfl⟩
  all_goals exact ⟨_, rfl⟩

/-! ## Recording a denial -/

/-- The record of a denial. -/
def denialOf (env : BudgetEnv) (args : ReservationArgs) (request : TaskExecutionRequest) (reason : String) :
    Denial where
  taskId := strip args.taskId
  reason := strip reason
  providerId := nonBlank (.str args.providerId)
  requestedBy := nonBlank (.str request.requestedBy)
  customerId := nonBlank (optStr request.customerId)
  recordedAt := env.nowIso

/-- The state with one more denial, of which the last fifty are kept. -/
def BudgetState.withDenial (s : BudgetState) (denial : Denial) : BudgetState :=
  { s with recentDenials := (s.recentDenials ++ [denial]).drop ((s.recentDenials ++ [denial]).length - 50) }

theorem isNonEmptyString_str_strip {text : String} :
    isNonEmptyString (.str (strip text)) = isNonEmptyString (.str text) := by
  show (strip (strip text) != "") = (strip text != "")
  rw [strip_strip]

theorem error_denialOf_iff : (denialOf env args request reason).error = none ↔
    isNonEmptyString (.str args.taskId) = true ∧ isNonEmptyString (.str reason) = true := by
  unfold Denial.error denialOf
  rw [firstError_eq_none_iff]
  simp only [List.forall_mem_cons, isNonEmptyString_str_strip, env.nowIso_nonEmpty]
  constructor
  · rintro ⟨htask, hreason, -⟩
    exact ⟨htask, hreason⟩
  · rintro ⟨htask, hreason⟩
    exact ⟨htask, hreason, trivial, by simp⟩

/-- A state with one more denial can be saved when the denial passes its checks. -/
theorem valid_withDenial_iff {denial : Denial} (h : s.Valid) :
    BudgetState.Valid { s.withDenial denial with updatedAt := env.nowIso } ↔ denial.error = none := by
  constructor
  · intro hvalid
    refine hvalid.denials denial ?_
    show denial ∈ (s.recentDenials ++ [denial]).drop ((s.recentDenials ++ [denial]).length - 50)
    rw [List.drop_append_of_le_length (by rw [List.length_append, List.length_singleton]; omega)]
    exact List.mem_append_right _ List.mem_cons_self
  · intro hfits
    refine ⟨h.policy, h.grants, h.providers, fun d hd => ?_, h.summaries, env.nowIso_nonEmpty⟩
    rcases List.mem_append.mp (List.mem_of_mem_drop hd) with hold | hnew
    · exact h.denials d hold
    · rw [List.mem_singleton.mp hnew]
      exact hfits

theorem exec_deny_eq (h : s.Valid) :
    (deny env args request reason policyStatus).exec (some s) =
      (saveState env (s.withDenial (denialOf env args request reason)) >>= fun _ => pure
        { allowed := false, reason := some reason, policyStatus := some policyStatus }).exec (some s) := by
  unfold deny
  rw [exec_bind, exec_bind]
  unfold recordDenial
  rw [exec_bind_of_ok (loadState_of_valid env h)]
  rfl

/-- **A denial** is recorded for a task that has an id. -/
theorem exec_deny_of_named (h : s.Valid) (htask : isNonEmptyString (.str args.taskId) = true)
    (hreason : isNonEmptyString (.str reason) = true) :
    ∃ s', (deny env args request reason policyStatus).exec (some s) =
        (.ok { allowed := false, reason := some reason, policyStatus := some policyStatus }, some s') ∧
      SameLedgers s s' := by
  rw [exec_deny_eq h]
  have hfits : (denialOf env args request reason).error = none := error_denialOf_iff.mpr ⟨htask, hreason⟩
  rcases exec_saveState env (s.withDenial (denialOf env args request reason)) (some s) with
    ⟨hsave, -⟩ | ⟨hinvalid, -⟩
  · exact ⟨_, exec_bind_of_ok hsave, ⟨rfl, rfl, rfl⟩⟩
  · exact absurd ((valid_withDenial_iff h).mpr hfits) hinvalid

/-- Otherwise the call raises. -/
theorem named_of_exec_deny (h : s.Valid)
    (hexec : (deny env args request reason policyStatus).exec (some s) = (.ok r, file)) :
    isNonEmptyString (.str args.taskId) = true ∧ r.reason = some reason := by
  rw [exec_deny_eq h] at hexec
  rcases exec_saveState env (s.withDenial (denialOf env args request reason)) (some s) with
    ⟨hsave, hvalid⟩ | ⟨-, e, hsave⟩
  · rw [exec_bind_of_ok hsave] at hexec
    obtain rfl := Except.ok.inj (Prod.mk.inj hexec).1
    exact ⟨(error_denialOf_iff.mp ((valid_withDenial_iff h).mp hvalid)).1, rfl⟩
  · rw [exec_bind_of_error hsave] at hexec
    cases (Prod.mk.inj hexec).1

/-! ## Conflicts in the loop over the grants -/

/-- The loop meets a grant whose entry holds the reservation: the grants before it have had their turns. -/
def GrantConflict (env : BudgetEnv) (args : ReservationArgs) (grants : List Dict) (s : BudgetState) : Prop :=
  ∃ before grant after t, grants = before ++ grant :: after ∧ Turns env args before s t ∧
    (ensureUsageEntry env t grant).reservations.contains args.reservationId = true

theorem reserveGrant_conflict_iff :
    (∃ state, reserveGrant env s args grant = .ok (.refused "reservation_conflict" state)) ↔
      (ensureUsageEntry env s grant).reservations.contains args.reservationId = true := by
  unfold reserveGrant
  dsimp only
  constructor
  · rintro ⟨state, h⟩
    by_contra hfresh
    rw [if_neg hfresh] at h
    obtain ⟨maxCostCents, -, h⟩ := bind_eq_ok.mp h
    split at h
    · obtain ⟨hreason, -⟩ := GrantStep.refused.inj (Except.ok.inj h)
      exact absurd hreason (by decide)
    · exact absurd (Except.ok.inj h) (by simp)
  · intro hheld
    exact ⟨_, if_pos hheld⟩

/-- **The loop ends with a conflict** exactly when it meets the reservation. -/
theorem reserveGrants_conflict_iff {applied : List String} :
    (∃ state, reserveGrants env args grants applied s = .ok (.denied "reservation_conflict" state)) ↔
      GrantConflict env args grants s := by
  induction grants generalizing applied s with
  | nil =>
    constructor
    · rintro ⟨state, h⟩
      exact absurd (Except.ok.inj h) (by simp)
    · rintro ⟨before, grant, after, t, h, -⟩
      exact absurd h (by simp)
  | cons grant grants ih =>
    constructor
    · rintro ⟨state, h⟩
      obtain ⟨step, hstep, h⟩ := bind_eq_ok.mp h
      rcases step with ⟨reason, refused⟩ | ⟨grantId, reserved⟩
      · obtain ⟨rfl, -⟩ := GrantsOutcome.denied.inj (Except.ok.inj h)
        exact ⟨[], grant, grants, s, rfl, rfl, reserveGrant_conflict_iff.mp ⟨_, hstep⟩⟩
      · obtain ⟨rfl, hturn⟩ := reserveGrant_eq_reserved_iff.mp hstep
        obtain ⟨before, grant', after, t, rfl, hturns, hheld⟩ := ih.mp ⟨state, h⟩
        exact ⟨grant :: before, grant', after, t, rfl, ⟨reserved, hturn, hturns⟩, hheld⟩
    · rintro ⟨before, grant', after, t, hsplit, hturns, hheld⟩
      cases before with
      | nil =>
        obtain ⟨rfl, rfl⟩ := List.cons.inj hsplit
        obtain rfl := hturns
        obtain ⟨state, hstep⟩ := reserveGrant_conflict_iff.mpr hheld
        exact ⟨_, bind_eq_ok.mpr ⟨_, hstep, rfl⟩⟩
      | cons first before =>
        obtain ⟨rfl, rfl⟩ := List.cons.inj hsplit
        obtain ⟨reserved, hturn, hturns⟩ := hturns
        obtain ⟨state, hrest⟩ := ih.mpr ⟨before, grant', after, t, rfl, hturns, hheld⟩
        exact ⟨state, bind_eq_ok.mpr ⟨_, reserveGrant_eq_reserved_iff.mpr ⟨rfl, hturn⟩, hrest⟩⟩

/-- The provider budget never ends a call as a conflict. -/
theorem reserveWithoutGrants_reason (h : t.Valid)
    (hexec : (reserveWithoutGrants env s args request policyStatus).exec (some t) = (.ok r, file)) :
    r.reason ≠ some "reservation_conflict" := by
  unfold reserveWithoutGrants at hexec
  rw [exec_bind, exec_ofResult] at hexec
  rcases hreserved : reserveProviderBudget env s args with e | ⟨_ | result, reserved⟩
  · rw [hreserved] at hexec
    cases (Prod.mk.inj hexec).1
  · rw [hreserved] at hexec
    obtain rfl := Except.ok.inj (Prod.mk.inj hexec).1
    simp
  · rw [hreserved] at hexec
    dsimp only at hexec
    split at hexec
    · rw [exec_bind] at hexec
      rcases exec_saveState env reserved (some t) with ⟨hsave, -⟩ | ⟨-, e, hsave⟩
      · rw [hsave] at hexec
        obtain rfl := Except.ok.inj (Prod.mk.inj hexec).1
        simp
      · rw [hsave] at hexec
        cases (Prod.mk.inj hexec).1
    · rw [(named_of_exec_deny h hexec).2]
      decide

/-- Under an active policy a call ends as a conflict when the loop over the applicable grants does. -/
theorem conflict_of_reserveWithGrants (h : t.Valid)
    (hexec : (reserveWithGrants env s args request policy policyStatus).exec (some t) = (.ok r, file))
    (hreason : r.reason = some "reservation_conflict") :
    isNonEmptyString (.str args.taskId) = true ∧
      ∃ grants, applicableGrants env policy request args.providerId = .ok grants ∧
        GrantConflict env args grants s := by
  have hdeny : ∀ other, (deny env args request other policyStatus).exec (some t) = (.ok r, file) →
      isNonEmptyString (.str args.taskId) = true ∧ other = "reservation_conflict" := by
    intro other hother
    obtain ⟨htask, hr⟩ := named_of_exec_deny h hother
    rw [hreason] at hr
    exact ⟨htask, (Option.some.inj hr).symm⟩
  unfold reserveWithGrants at hexec
  rw [exec_bind, exec_ofResult] at hexec
  rcases hgrants : applicableGrants env policy request args.providerId with e | grants
  · rw [hgrants] at hexec
    cases (Prod.mk.inj hexec).1
  rw [hgrants] at hexec
  dsimp only at hexec
  split at hexec
  · exact absurd (hdeny _ hexec).2 (by decide)
  rw [exec_bind, exec_ofResult] at hexec
  rcases hloop : reserveGrants env args grants [] s with e | ⟨reason, state⟩ | ⟨applied, afterGrants⟩
  · rw [hloop] at hexec
    cases (Prod.mk.inj hexec).1
  · rw [hloop] at hexec
    obtain ⟨htask, rfl⟩ := hdeny reason hexec
    exact ⟨htask, grants, rfl, reserveGrants_conflict_iff.mp ⟨state, hloop⟩⟩
  rw [hloop] at hexec
  dsimp only at hexec
  rw [exec_bind, exec_ofResult] at hexec
  rcases hreserved : reserveProviderBudget env afterGrants args with e | ⟨result, reserved⟩
  · rw [hreserved] at hexec
    cases (Prod.mk.inj hexec).1
  rw [hreserved] at hexec
  dsimp only at hexec
  split at hexec
  · exact absurd (hdeny _ hexec).2 (by decide)
  rw [exec_bind] at hexec
  rcases exec_saveState env reserved (some t) with ⟨hsave, -⟩ | ⟨-, e, hsave⟩
  · rw [hsave] at hexec
    obtain rfl := Except.ok.inj (Prod.mk.inj hexec).1
    cases hreason
  · rw [hsave] at hexec
    cases (Prod.mk.inj hexec).1

/-- The denial of such a call. -/
theorem exec_reserveWithGrants_of_conflict (h : t.Valid) (htask : isNonEmptyString (.str args.taskId) = true)
    (hgrants : applicableGrants env policy request args.providerId = .ok grants)
    (hconflict : GrantConflict env args grants s) :
    ∃ t', (reserveWithGrants env s args request policy policyStatus).exec (some t) =
        (.ok { allowed := false, reason := some "reservation_conflict", policyStatus := some policyStatus },
          some t') ∧ SameLedgers t t' := by
  have hnonempty : grants ≠ [] := by
    obtain ⟨before, grant, after, -, rfl, -⟩ := hconflict
    simp
  obtain ⟨state, hloop⟩ : ∃ state, reserveGrants env args grants [] s =
      .ok (.denied "reservation_conflict" state) := reserveGrants_conflict_iff.mpr hconflict
  unfold reserveWithGrants
  rw [exec_bind, exec_ofResult, hgrants]
  dsimp only
  rw [if_neg hnonempty, exec_bind, exec_ofResult, hloop]
  exact exec_deny_of_named h htask (by decide +kernel)

/-! ## Denying exactly -/

section Denying

variable (env : BudgetEnv) (taskId : String) (request : TaskExecutionRequest) (providerId modelId : String)
  (bundle : Value) (s : BudgetState)

/-- What a reservation ends with in a stored state. -/
def reservationOutcome : Except Exc BudgetReservationResult × Option BudgetState :=
  (reserveExecution env taskId request providerId modelId bundle).exec (some s)

/-- The call is denied as a conflict and leaves the ledgers alone. -/
def DeniedAsConflict : Prop :=
  ∃ r s', reservationOutcome env taskId request providerId modelId bundle s = (.ok r, some s') ∧
    r.allowed = false ∧ r.reason = some "reservation_conflict" ∧ SameLedgers s s'

/-- A denial is atomic, and a reservation that is held already is denied as a conflict. -/
structure DeniesExactly : Prop where
  atomic : ∀ r file, reservationOutcome env taskId request providerId modelId bundle s = (.ok r, file) →
    r.allowed = false → ∃ s', file = some s' ∧ SameLedgers s s'
  conflict : s.Holds (reservationIdOf taskId) → DeniedAsConflict env taskId request providerId modelId bundle s

/-- The task has an id, the policy of the bundle is taken and active, and the loop over the applicable grants meets
a grant whose entry for the present period holds the reservation. -/
def ConflictMet : Prop :=
  isNonEmptyString (.str taskId) = true ∧ TakesPolicy bundle s ∧
    ∃ cents policy grants, reservationCost env request providerId modelId (takenState env bundle s) = .ok cents ∧
      activePolicy bundle s = some policy ∧ applicableGrants env policy request providerId = .ok grants ∧
      GrantConflict env (argsOf taskId providerId modelId cents) grants (workingState bundle s)

end Denying

/-- **A denial leaves the ledgers alone**, whatever denied it. -/
theorem sameLedgers_of_denied (h : s.Valid)
    (hexec : reservationOutcome env taskId request providerId modelId bundle s = (.ok r, file))
    (hdenied : r.allowed = false) : ∃ s', file = some s' ∧ SameLedgers s s' := by
  obtain ⟨result, s', hresult, -, heffect⟩ :=
    reserveExecution_effect env taskId request providerId modelId bundle h
  obtain ⟨rfl, rfl⟩ := Prod.mk.inj (hresult.symm.trans hexec)
  refine ⟨s', rfl, ?_⟩
  cases heffect with
  | untouched hsame _ => exact hsame
  | provider _ _ _ _ _ _ hallowed _ _ _ =>
    rw [hdenied] at hallowed
    cases hallowed
  | grants _ _ _ _ _ _ _ _ _ _ _ _ _ hallowed _ _ =>
    rw [hdenied] at hallowed
    cases hallowed

/-- **Only the loop over the grants** denies as a conflict. -/
theorem deniedAsConflict_iff (h : s.Valid) :
    DeniedAsConflict env taskId request providerId modelId bundle s ↔
      ConflictMet env taskId request providerId modelId bundle s := by
  constructor
  · rintro ⟨r, s', hexec, -, hreason, -⟩
    unfold reservationOutcome at hexec
    have htakes : TakesPolicy bundle s := by
      by_contra htakes
      obtain ⟨e, hcache⟩ : ∃ e, (cachePolicyFromGovernance env bundle).exec (some s) = (.error e, some s) :=
        exec_cachePolicy_of_not_takes h htakes
      unfold reserveExecution at hexec
      rw [exec_bind_of_ok (loadState_of_valid env h), exec_bind_of_error hcache] at hexec
      cases (Prod.mk.inj hexec).1
    have htaken : (takenState env bundle s).Valid := takenState_valid h htakes
    rcases hcost : reservationCost env request providerId modelId (takenState env bundle s) with e | cents
    · unfold reserveExecution at hexec
      rw [exec_bind_of_ok (loadState_of_valid env h), exec_bind_of_ok (exec_cachePolicy h htakes), exec_bind,
        exec_reservationCostCents htaken, hcost] at hexec
      cases (Prod.mk.inj hexec).1
    rcases hpolicy : activePolicy bundle s with _ | policy
    · obtain ⟨policyStatus, hequal⟩ := @exec_reserveExecution_of_inactive _ _ _ taskId _ _ _ _ h htakes hcost hpolicy
      rw [hequal] at hexec
      exact absurd hreason (reserveWithoutGrants_reason htaken hexec)
    · rw [exec_reserveExecution_of_active h htakes hcost hpolicy] at hexec
      obtain ⟨htask, grants, hgrants, hconflict⟩ := conflict_of_reserveWithGrants htaken hexec hreason
      exact ⟨htask, htakes, cents, policy, grants, hcost, hpolicy, hgrants, hconflict⟩
  · rintro ⟨htask, htakes, cents, policy, grants, hcost, hpolicy, hgrants, hconflict⟩
    have htaken : (takenState env bundle s).Valid := takenState_valid h htakes
    obtain ⟨s', hexec, hsame⟩ : ∃ s', (reserveWithGrants env (workingState bundle s)
        (argsOf taskId providerId modelId cents) request policy "active").exec (some (takenState env bundle s)) =
          (.ok { allowed := false, reason := some "reservation_conflict", policyStatus := some "active" },
            some s') ∧ SameLedgers (takenState env bundle s) s' :=
      exec_reserveWithGrants_of_conflict htaken htask hgrants hconflict
    have houtcome : reservationOutcome env taskId request providerId modelId bundle s = _ :=
      (exec_reserveExecution_of_active h htakes hcost hpolicy).trans hexec
    exact ⟨_, s', houtcome, rfl, rfl, sameLedgers_takenState.trans hsame⟩

/-- The first reservation of a node without a policy, against a provider budget. -/
def firstReservation : Except Exc BudgetReservationResult × Option BudgetState :=
  reservationOutcome sampleEnv "t1" sampleRequest "openai" "gpt" .null (createBudgetState "2026-01-01")

end Budget
end HexeAiNode
