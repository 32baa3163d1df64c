import HexeAiNode.Budget.GrantEntries
import HexeAiNode.Library.Run
import Mathlib.Data.List.Dedup

/-!
# Every execution is charged once

What the calls of the manager answer says what each of them owes: an allowed reservation names the grants it was
applied to and the amount, and a finalization or a release that returns settles it.  `Books` keeps this account, the
holds, beside the stored state, without looking into the entries.

`ChargesDue` is the law of one call: to the totals of every grant it adds the cost of each hold that it settles as
completed, and one request, and it queues one summary; every other call adds nothing.  `charged_exactly_once` says
that every call of a run keeps it, as long as no reservation starts an entry for a new period while something is
reserved in it.  Such a reservation drops what is reserved there, and the executions behind it are charged nothing
(`new_period_loses_charge`).
-/

namespace HexeAiNode
namespace Budget

open Py Execution

/-! ## The books -/

/-- A grant was applied to a task, which reserved an amount. -/
structure Hold where
  reservationId : String
  grantId : String
  cents : ℤ
  deriving DecidableEq

/-- The stored state, and the holds that the answers so far have made and not settled. -/
structure Books where
  store : BudgetState
  holds : List Hold := []

/-- The holds of an answer: one for each grant that was applied. -/
def holdsOf (taskId : String) : Except Exc BudgetReservationResult → List Hold
  | .ok r =>
    if r.allowed then
      r.appliedGrantIds.dedup.map fun grantId => ⟨reservationIdOf taskId, grantId, r.reservedCostCents⟩
    else []
  | .error _ => []

/-- The holds of other tasks. -/
def holdsOfOthers (taskId : String) (holds : List Hold) : List Hold :=
  holds.filter fun hold => hold.reservationId ≠ reservationIdOf taskId

namespace Books

/-- The holds after a call.  A finalization that raises settles nothing. -/
def holdsAfter (b : Books) (env : BudgetEnv) : BudgetOp → List Hold
  | .reserve taskId request providerId modelId bundle =>
    holdsOf taskId ((reserveExecution env taskId request providerId modelId bundle).exec (some b.store)).1 ++ b.holds
  | .finalize taskId metrics status =>
    match ((finalizeExecution env taskId metrics status).exec (some b.store)).1 with
    | .ok _ => holdsOfOthers taskId b.holds
    | .error _ => b.holds
  | .release taskId _ => holdsOfOthers taskId b.holds
  | .cachePolicy _ => b.holds
  | .storeFetchedPolicy _ => b.holds

/-- A call. -/
def fire (b : Books) (call : BudgetEnv × BudgetOp) : Books where
  store := ((call.2.action call.1).store (some b.store)).getD b.store
  holds := b.holdsAfter call.1 call.2

/-- The hold of a task on a grant. -/
def holdsOn (b : Books) (taskId grantId : String) : List Hold :=
  b.holds.filter fun hold => hold.reservationId = reservationIdOf taskId ∧ hold.grantId = grantId

/-- The costs a call is due to charge to a grant: the final cost, or what was reserved if it is not known, for the
holds that it settles as completed. -/
def due (b : Books) (env : BudgetEnv) (op : BudgetOp) (grantId : String) : List ℤ :=
  match op with
  | .finalize taskId metrics status =>
    match ((finalizeExecution env taskId metrics status).exec (some b.store)).1, finalCostCents metrics with
    | .ok _, .ok cents =>
      if status = "completed" then (b.holdsOn taskId grantId).map fun hold => cents.getD hold.cents else []
    | _, _ => []
  | _ => []

end Books

/-- The grants a call asks to reserve. -/
def askedGrants (env : BudgetEnv) (op : BudgetOp) (s : BudgetState) : List Dict :=
  match op with
  | .reserve _ request providerId _ bundle =>
    match activePolicy bundle s with
    | none => []
    | some policy =>
      match applicableGrants env policy request providerId with
      | .error _ => []
      | .ok grants => grants
  | _ => []

/-- The totals of a grant start again, for a new period. -/
def StartsAgain (env : BudgetEnv) (op : BudgetOp) (s s' : BudgetState) (grantId : String) : Prop :=
  totals s' grantId = 0 ∧ ∃ grant ∈ askedGrants env op s, grantIdOf grant = grantId ∧ OtherPeriod s grant

/-- **The law of one call.** -/
structure ChargesDue (b : Books) (call : BudgetEnv × BudgetOp) : Prop where
  once : ∀ grantId, (b.due call.1 call.2 grantId).length ≤ 1
  totals : ∀ grantId,
    totals (b.fire call).store grantId =
        totals b.store grantId + ((b.due call.1 call.2 grantId).sum, ((b.due call.1 call.2 grantId).length : ℤ)) ∨
      StartsAgain call.1 call.2 b.store (b.fire call).store grantId
  summaries : ∃ queued, (b.fire call).store.pendingUsageSummaries = b.store.pendingUsageSummaries ++ queued ∧
    ∀ grantId, queued.countP (fun summary => decide (summary.grantId = grantId)) =
      (b.due call.1 call.2 grantId).length

/-- No reservation starts an entry for a new period while something is reserved in it. -/
def KeepsReserved (b : Books) (call : BudgetEnv × BudgetOp) : Prop :=
  RestartsFree (askedGrants call.1 call.2 b.store) b.store

/-! ## The books agree with the entries -/

/-- A list without repetition has one element that satisfies a condition, if only one element does. -/
theorem filter_eq_toList {α : Type*} {l : List α} {p : α → Bool} {o : Option α} (hl : l.Nodup)
    (h : ∀ a, a ∈ l.filter p ↔ o = some a) : l.filter p = o.toList := by
  rcases o with _ | x
  · rw [Option.toList_none, List.eq_nil_iff_forall_not_mem]
    intro a ha
    cases (h a).mp ha
  · rw [Option.toList_some, ← List.perm_singleton, List.perm_ext_iff_of_nodup (hl.filter p) (List.nodup_singleton x)]
    intro a
    rw [h, List.mem_singleton, Option.some.injEq, eq_comm]

/-- The holds are the reservations of the entries. -/
structure Books.Agrees (b : Books) : Prop where
  valid : b.store.Valid
  named : Named b.store
  held : ∀ id key cents,
    ⟨id, key, cents⟩ ∈ b.holds ↔ (reservedIn b.store key id).map Reservation.reservedCostCents = some cents
  nodup : b.holds.Nodup

section

variable {b : Books} {env : BudgetEnv} {s' : BudgetState} {taskId : String}

/-- Ledgers that stay the same. -/
theorem Books.Agrees.same (hb : b.Agrees) (hvalid : s'.Valid) (hgrants : s'.grantUsage = b.store.grantUsage) :
    Books.Agrees ⟨s', b.holds⟩ where
  valid := hvalid
  named := hb.named.congr hgrants
  held := by
    intro id key cents
    rw [hb.held, reservedIn, reservedIn, hgrants]
  nodup := hb.nodup

/-- A task that is taken out of the entries and of the books. -/
theorem Books.Agrees.takeOut (hb : b.Agrees) (hvalid : s'.Valid) (hnamed : Named s')
    (hout : TakesOut b.store s' (reservationIdOf taskId)) :
    Books.Agrees ⟨s', holdsOfOthers taskId b.holds⟩ where
  valid := hvalid
  named := hnamed
  held := by
    intro id key cents
    rw [hout key id, holdsOfOthers, List.mem_filter, hb.held, decide_eq_true_eq]
    by_cases hid : id = reservationIdOf taskId
    · simp [hid]
    · simp [hid]
  nodup := hb.nodup.filter _

/-- **The hold of a task on a grant** is its reservation in the entry. -/
theorem Books.Agrees.holdsOn_eq (hb : b.Agrees) (taskId grantId : String) :
    b.holdsOn taskId grantId = ((reservedIn b.store grantId (reservationIdOf taskId)).map fun r =>
      (⟨reservationIdOf taskId, grantId, r.reservedCostCents⟩ : Hold)).toList := by
  refine filter_eq_toList hb.nodup fun hold => ?_
  obtain ⟨id, key, cents⟩ := hold
  rw [List.mem_filter, hb.held, decide_eq_true_eq]
  constructor
  · rintro ⟨hheld, rfl, rfl⟩
    obtain ⟨r, hr, rfl⟩ := Option.map_eq_some_iff.mp hheld
    rw [hr, Option.map_some]
  · intro hhold
    obtain ⟨r, hr, heq⟩ := Option.map_eq_some_iff.mp hhold
    obtain ⟨rfl, rfl, rfl⟩ := Hold.mk.inj heq
    exact ⟨by rw [hr, Option.map_some], rfl, rfl⟩

/-- A hold that is not there. -/
theorem Books.Agrees.not_mem (hb : b.Agrees) {id key : String} {cents : ℤ} (h : reservedIn b.store key id = none) :
    ⟨id, key, cents⟩ ∉ b.holds := by
  rw [hb.held, h]
  simp

/-! ## The calls -/

/-- A call that is due to charge nothing. -/
theorem chargesDue_of_nothing {call : BudgetEnv × BudgetOp} (hdue : ∀ grantId, b.due call.1 call.2 grantId = [])
    (hstore : (b.fire call).store = s')
    (htotals : ∀ grantId, totals s' grantId = totals b.store grantId ∨
      StartsAgain call.1 call.2 b.store s' grantId)
    (hsummaries : s'.pendingUsageSummaries = b.store.pendingUsageSummaries) : ChargesDue b call where
  once := fun grantId => by rw [hdue]; exact Nat.zero_le 1
  totals := by
    intro grantId
    rw [hdue, hstore]
    refine (htotals grantId).imp_left fun h => ?_
    rw [h]
    simp
  summaries := ⟨[], by rw [hstore, hsummaries, List.append_nil], fun grantId => by rw [hdue]; rfl⟩

/-- What a call leaves in the store. -/
theorem Books.store_fire {op : BudgetOp} (h : (op.action env).store (some b.store) = some s') :
    (b.fire (env, op)).store = s' := by
  rw [Books.fire]
  dsimp only
  rw [h, Option.getD_some]

theorem Books.fire_eq {op : BudgetOp} (h : (op.action env).store (some b.store) = some s') :
    b.fire (env, op) = ⟨s', b.holdsAfter env op⟩ := by
  rw [Books.fire]
  dsimp only
  rw [h, Option.getD_some]

section Reserve

variable {request : TaskExecutionRequest} {providerId modelId : String} {bundle : Value}

/-- The holds of a reservation that was allowed. -/
theorem mem_holdsOf {r : BudgetReservationResult} (hallowed : r.allowed = true) {id key : String} {cents : ℤ} :
    ⟨id, key, cents⟩ ∈ holdsOf taskId (.ok r) ↔
      (id = reservationIdOf taskId ∧ key ∈ r.appliedGrantIds) ∧ cents = r.reservedCostCents := by
  rw [holdsOf, if_pos hallowed, List.mem_map]
  constructor
  · rintro ⟨grantId, hgrantId, heq⟩
    obtain ⟨rfl, rfl, rfl⟩ := Hold.mk.inj heq
    exact ⟨⟨rfl, List.mem_dedup.mp hgrantId⟩, rfl⟩
  · rintro ⟨⟨rfl, hkey⟩, rfl⟩
    exact ⟨key, List.mem_dedup.mpr hkey, rfl⟩

theorem nodup_holdsOf (taskId : String) (result : Except Exc BudgetReservationResult) :
    (holdsOf taskId result).Nodup := by
  unfold holdsOf
  split
  · split
    · exact (List.nodup_dedup _).map fun _ _ heq => (Hold.mk.inj heq).2.1
    · exact List.nodup_nil
  · exact List.nodup_nil

/-- An answer without applied grants makes no holds. -/
theorem holdsOf_eq_nil {result : Except Exc BudgetReservationResult}
    (h : ∀ r, result = .ok r → r.allowed = true → r.appliedGrantIds = []) : holdsOf taskId result = [] := by
  unfold holdsOf
  split
  · next r =>
    split
    · next hallowed => rw [h r rfl hallowed, List.dedup_nil, List.map_nil]
    · rfl
  · rfl

/-- **A reservation**: the holds of its answer are what it has put into the entries, and nothing is charged. -/
theorem reserve_books (hb : b.Agrees) (env : BudgetEnv) (taskId : String) (request : TaskExecutionRequest)
    (providerId modelId : String) (bundle : Value)
    (hfree : KeepsReserved b (env, .reserve taskId request providerId modelId bundle)) :
    (b.fire (env, .reserve taskId request providerId modelId bundle)).Agrees ∧
      ChargesDue b (env, .reserve taskId request providerId modelId bundle) := by
  obtain ⟨result, s', hexec, hvalid, heffect⟩ :=
    reserveExecution_effect env taskId request providerId modelId bundle hb.valid
  have hstore : (BudgetOp.action env (.reserve taskId request providerId modelId bundle)).store (some b.store) =
      some s' := store_discard hexec
  have hholds : b.holdsAfter env (.reserve taskId request providerId modelId bundle) =
      holdsOf taskId result ++ b.holds := by
    rw [Books.holdsAfter, hexec]
  have hsame : s'.grantUsage = b.store.grantUsage →
      s'.pendingUsageSummaries = b.store.pendingUsageSummaries →
      (∀ r, result = .ok r → r.allowed = true → r.appliedGrantIds = []) →
      (b.fire (env, .reserve taskId request providerId modelId bundle)).Agrees ∧
        ChargesDue b (env, .reserve taskId request providerId modelId bundle) := by
    intro hgrants hsummaries hnone
    rw [Books.fire_eq hstore, hholds, holdsOf_eq_nil hnone, List.nil_append]
    refine ⟨hb.same hvalid hgrants, chargesDue_of_nothing (fun _ => rfl) (Books.store_fire hstore) (fun grantId => ?_)
      hsummaries⟩
    exact Or.inl (totals_congr (by rw [hgrants]))
  have hwork := sameLedgers_workingState bundle b.store
  cases heffect with
  | untouched hunchanged hresult =>
    exact hsame hunchanged.grants hunchanged.summaries fun r hr hallowed => (hresult r hr hallowed).1
  | provider cents reserved hcents hpolicy hreserved hunchanged hallowed happlied hid hamount =>
    obtain ⟨providers, rfl⟩ := exists_providers_of_reserveProviderBudget hreserved
    refine hsame (hunchanged.grants.trans hwork.grants) (hunchanged.summaries.trans hwork.summaries) fun r hr _ => ?_
    rw [← Except.ok.inj hr, happlied]
  | @grants r _ cents policy grants afterGrants reserved provider hcents hpolicy hgrants hloop hreserved hprovider
      hunchanged hallowed hid hamount =>
    obtain ⟨providers, rfl⟩ := exists_providers_of_reserveProviderBudget hreserved
    obtain ⟨happlied, hturns⟩ := reserveGrants_eq_reserved_iff.mp hloop
    rw [List.nil_append] at happlied
    have hafter : s'.grantUsage = afterGrants.grantUsage := hunchanged.grants
    have hasked : askedGrants env (.reserve taskId request providerId modelId bundle) b.store = grants := by
      rw [askedGrants, hpolicy]
      dsimp only
      rw [hgrants]
    have hother : ∀ grant, OtherPeriod (workingState bundle b.store) grant ↔ OtherPeriod b.store grant := by
      intro grant
      rw [OtherPeriod, hwork.grants, OtherPeriod]
    have hreservedIn : ∀ key id, reservedIn (workingState bundle b.store) key id = reservedIn b.store key id :=
      fun key id => reservedIn_congr (by rw [hwork.grants])
    have hfree' : RestartsFree grants (workingState bundle b.store) := by
      intro grant hgrant hperiod id
      rw [hreservedIn]
      exact hfree grant (hasked ▸ hgrant) ((hother grant).mp hperiod) id
    have hentries : ∀ key id, reservedIn s' key id =
        if id = reservationIdOf taskId ∧ key ∈ r.appliedGrantIds then
          some ((argsOf taskId providerId modelId cents).record env.nowIso)
        else reservedIn b.store key id := by
      intro key id
      rw [reservedIn_congr (s := afterGrants) (by rw [hafter]), hturns.reservedIn_eq hfree' key id, hreservedIn,
        happlied]
      rfl
    have hnew : ∀ key ∈ r.appliedGrantIds, reservedIn b.store key (reservationIdOf taskId) = none := by
      intro key hkey
      rw [← hreservedIn]
      refine hturns.fresh (happlied ▸ hkey) fun grant hgrant hid hperiod => ?_
      rw [← hid]
      exact hfree' grant hgrant hperiod _
    rw [Books.fire_eq hstore, hholds]
    refine ⟨⟨hvalid, ?_, ?_, ?_⟩, chargesDue_of_nothing (fun _ => rfl) (Books.store_fire hstore) (fun grantId => ?_)
      (hunchanged.summaries.trans (hturns.others.2.trans hwork.summaries))⟩
    · exact (hturns.named (hb.named.congr hwork.grants)).congr hafter
    · intro id key c
      rw [List.mem_append, mem_holdsOf hallowed, hentries, hamount]
      by_cases hboth : id = reservationIdOf taskId ∧ key ∈ r.appliedGrantIds
      · have hold : ⟨id, key, c⟩ ∉ b.holds := hb.not_mem (hboth.1 ▸ hnew key hboth.2)
        rw [if_pos hboth, Option.map_some, Option.some.injEq]
        constructor
        · rintro (⟨-, rfl⟩ | hmem)
          · rfl
          · exact absurd hmem hold
        · rintro rfl
          exact Or.inl ⟨hboth, rfl⟩
      · rw [if_neg hboth, hb.held]
        exact or_iff_right fun h => hboth h.1
    · refine List.nodup_append.mpr ⟨nodup_holdsOf taskId (.ok r), hb.nodup, ?_⟩
      rintro ⟨id, key, c⟩ hmem hold' hold rfl
      obtain ⟨⟨rfl, hkey⟩, -⟩ := (mem_holdsOf hallowed).mp hmem
      exact hb.not_mem (hnew key hkey) hold
    · rw [StartsAgain, hasked, totals_congr (s := afterGrants) (by rw [hafter])]
      rcases hturns.totals_eq hfree' grantId with heq | ⟨hzero, grant, hgrant, hid, hperiod⟩
      · exact Or.inl (heq.trans (totals_congr (by rw [hwork.grants])))
      · exact Or.inr ⟨hzero, grant, hgrant, hid, (hother grant).mp hperiod⟩

end Reserve

/-- The final cost is not negative. -/
theorem nonneg_finalCostCents {metrics : Option TaskExecutionMetrics} {c : ℤ}
    (h : finalCostCents metrics = .ok (some c)) : 0 ≤ c := by
  unfold finalCostCents at h
  split at h
  · cases h
  · obtain ⟨i, -, h⟩ := bind_eq_ok.mp h
    rw [← Option.some.inj (Except.ok.inj h)]
    exact le_max_right _ _

theorem completed_costOf_iff {status : String} {metrics : Option TaskExecutionMetrics} {cents : Option ℤ} :
    (costOf status metrics cents).completed = true ↔ status = "completed" := by
  rw [costOf, beq_iff_eq]

/-- **A finalization** charges what is due. -/
theorem finalize_books (hb : b.Agrees) (env : BudgetEnv) (taskId : String) (metrics : Option TaskExecutionMetrics)
    (status : String) :
    (b.fire (env, .finalize taskId metrics status)).Agrees ∧ ChargesDue b (env, .finalize taskId metrics status) := by
  obtain ⟨result, s', hexec, hvalid, heffect, -⟩ := finalizeExecution_effect env taskId metrics status hb.valid
  have hstore : (BudgetOp.action env (.finalize taskId metrics status)).store (some b.store) = some s' :=
    store_discard hexec
  cases heffect with
  | raised e =>
    have hholds : b.holdsAfter env (.finalize taskId metrics status) = b.holds := by
      rw [Books.holdsAfter, hexec]
    have hdue : ∀ grantId, b.due env (.finalize taskId metrics status) grantId = [] := by
      intro grantId
      rw [Books.due, hexec]
    rw [Books.fire_eq hstore, hholds]
    exact ⟨hb, chargesDue_of_nothing hdue (Books.store_fire hstore) (fun _ => Or.inl rfl) rfl⟩
  | finalized result cents providers hcents hproviders hsame =>
    have hholds : b.holdsAfter env (.finalize taskId metrics status) = holdsOfOthers taskId b.holds := by
      rw [Books.holdsAfter, hexec]
    have hdue : ∀ grantId, b.due env (.finalize taskId metrics status) grantId =
        if status = "completed" then
          ((reservedIn b.store grantId (reservationIdOf taskId)).map fun r =>
            cents.getD r.reservedCostCents).toList
        else [] := by
      intro grantId
      rw [Books.due, hexec, hcents]
      dsimp only
      rw [hb.holdsOn_eq]
      congr 1
      rcases reservedIn b.store grantId (reservationIdOf taskId) with _ | r <;> rfl
    have happlied : ∀ grantId r, reservedIn b.store grantId (reservationIdOf taskId) = some r →
        max ((costOf status metrics cents).applied r) 0 = cents.getD r.reservedCostCents := by
      intro grantId r hr
      refine max_eq_left ?_
      rcases cents with _ | c
      · obtain ⟨u, hu, hr⟩ := Option.bind_eq_some_iff.mp hr
        exact nonneg_of_reservationsError (hb.valid.fields hu).reservations r (OrderedDict.mem_values_of_get? hr)
      · exact nonneg_finalCostCents hcents
    have hnamed : Named s' := hb.named.mapValues (fun u => u.grantId_finalize) hsame.grants
    rw [Books.fire_eq hstore, hholds]
    refine ⟨hb.takeOut hvalid hnamed (takesOut_finalized hsame), ?_⟩
    refine ⟨fun grantId => ?_, fun grantId => Or.inl ?_, summariesOf env.nowIso (reservationIdOf taskId)
      (costOf status metrics cents) b.store, ?_, fun grantId => ?_⟩
    · rw [hdue]
      split
      · exact Option.length_toList_le
      · exact Nat.zero_le 1
    · rw [Books.store_fire hstore, hdue, totals_finalized hsame]
      congr 1
      by_cases hcompleted : status = "completed"
      · rw [if_pos hcompleted, if_pos (completed_costOf_iff.mpr hcompleted)]
        rcases hr : reservedIn b.store grantId (reservationIdOf taskId) with _ | r
        · rfl
        · rw [Option.map_some, Option.map_some, happlied grantId r hr]
          simp
      · rw [if_neg hcompleted, if_neg fun h => hcompleted (completed_costOf_iff.mp h)]
        rfl
    · rw [Books.store_fire hstore]
      exact hsame.summaries
    · rw [countP_summariesOf hb.named, hdue]
      simp only [completed_costOf_iff]
      by_cases hcompleted : status = "completed"
      · rw [if_pos hcompleted]
        rcases reservedIn b.store grantId (reservationIdOf taskId) with _ | r <;> simp [hcompleted]
      · rw [if_neg hcompleted, if_neg fun h => hcompleted h.1]
        rfl

/-- **One call** of the manager: the books stay right, and what is due is charged. -/
theorem books_fire (hb : b.Agrees) (call : BudgetEnv × BudgetOp) (hfree : KeepsReserved b call) :
    (b.fire call).Agrees ∧ ChargesDue b call := by
  obtain ⟨env, op⟩ := call
  cases op with
  | reserve taskId request providerId modelId bundle =>
    exact reserve_books hb env taskId request providerId modelId bundle hfree
  | finalize taskId metrics status => exact finalize_books hb env taskId metrics status
  | release taskId reason =>
    obtain ⟨s', hstore, hvalid, heffect⟩ := BudgetOp.effect env (.release taskId reason) hb.valid
    have hsame : SameLedgers (b.store.released env (reservationIdOf taskId)) s' := by
      cases heffect with
      | release hsame => exact hsame
    rw [Books.fire_eq hstore]
    refine ⟨hb.takeOut hvalid (hb.named.mapValues (fun u => u.grantId_release) hsame.grants)
      (takesOut_released hsame), ?_⟩
    exact chargesDue_of_nothing (fun _ => rfl) (Books.store_fire hstore)
      (fun grantId => Or.inl (totals_released hsame grantId)) hsame.summaries
  | cachePolicy bundle =>
    obtain ⟨s', hstore, hvalid, heffect⟩ := BudgetOp.effect env (.cachePolicy bundle) hb.valid
    have hsame : SameLedgers b.store s' := by
      cases heffect with
      | cachePolicy hsame => exact hsame
    rw [Books.fire_eq hstore]
    exact ⟨hb.same hvalid hsame.grants, chargesDue_of_nothing (fun _ => rfl) (Books.store_fire hstore)
      (fun grantId => Or.inl (totals_congr (by rw [hsame.grants]))) hsame.summaries⟩
  | storeFetchedPolicy payload =>
    obtain ⟨s', hstore, hvalid, heffect⟩ := BudgetOp.effect env (.storeFetchedPolicy payload) hb.valid
    have hsame : SameLedgers b.store s' := by
      cases heffect with
      | storeFetchedPolicy hsame => exact hsame
    rw [Books.fire_eq hstore]
    exact ⟨hb.same hvalid hsame.grants, chargesDue_of_nothing (fun _ => rfl) (Books.store_fire hstore)
      (fun grantId => Or.inl (totals_congr (by rw [hsame.grants]))) hsame.summaries⟩

end

/-! ## The run -/

/-- A stored state in which nothing is reserved on any grant. -/
structure Unreserved (s : BudgetState) : Prop where
  valid : s.Valid
  named : Named s
  free : ∀ key id, reservedIn s key id = none

theorem Unreserved.agrees {s : BudgetState} (h : Unreserved s) : Books.Agrees ⟨s, []⟩ where
  valid := h.valid
  named := h.named
  held := by
    intro id key cents
    rw [h.free]
    simp
  nodup := List.nodup_nil

/-- **Every completed execution is charged once**: in a run in which no reservation starts an entry for a new period
while something is reserved in it, every call charges what is due. -/
theorem charged_exactly_once {s : BudgetState} (hs : Unreserved s) (calls : List (BudgetEnv × BudgetOp))
    (hcalls : Run.Along Books.fire KeepsReserved ⟨s, []⟩ calls) : Run.Along Books.fire ChargesDue ⟨s, []⟩ calls :=
  hcalls.derive hs.agrees fun _ call hb hfree => books_fire hb call hfree

/-! ## A new period -/

/-- A grant from the beginning of January to the given time. -/
def grantUntil (periodEnd grantId scopeKind subjectId : String) (maxCostCents : ℤ) : Value :=
  .dict
    [("grant_id", .str grantId), ("consumer_node_id", .str "node-1"), ("service", .str "ai.inference"),
      ("period_start", .str "2026-01-01T00:00:00+00:00"), ("period_end", .str periodEnd), ("status", .str "active"),
      ("scope_kind", .str scopeKind), ("subject_id", .str subjectId), ("governance_version", .str "1"),
      ("budget_policy_version", .str "1"), ("issued_at", .str "2026-01-01T00:00:00+00:00"),
      ("limits", .dict [("max_cost_cents", .int maxCostCents)])]

/-- An active policy with the given grants. -/
def policyUntil (periodEnd : String) (grants : List Value) : Dict :=
  [("node_id", .str "node-1"), ("service", .str "ai.inference"), ("status", .str "active"),
    ("governance_version", .str "1"), ("budget_policy_version", .str "1"),
    ("period_start", .str "2026-01-01T00:00:00+00:00"), ("period_end", .str periodEnd),
    ("issued_at", .str "2026-01-01T00:00:00+00:00"), ("grants", .list grants)]

/-- A bundle with a policy that grants a dollar to the node. -/
def bundleUntil (periodEnd : String) : Value :=
  .dict [("budget_policy", .dict (policyUntil periodEnd [grantUntil periodEnd "g1" "node" "node-1" 100]))]

/-- A time in January. -/
def januaryEnv : BudgetEnv where
  nowIso := "2026-01-20T00:00:00+00:00"
  now := 1768867200000000
  fromIsoFormat text :=
    (Assoc.get? [("2026-01-01T00:00:00+00:00", 1767225600000000), ("2026-01-31T00:00:00+00:00", 1769817600000000),
      ("2026-02-28T00:00:00+00:00", 1772236800000000)] text).map fun instant => ⟨instant, true⟩
  periodWindow _ := ("2026-01-01T00:00:00+00:00", "2026-01-31T23:59:59.999999+00:00")

/-- The empty state of a node. -/
def newState : BudgetState := createBudgetState "2026-01-20T00:00:00+00:00"

/-- A reservation of forty cents. -/
def reserveUntil (taskId periodEnd : String) : BudgetEnv × BudgetOp :=
  (januaryEnv, .reserve taskId sampleRequest "openai" "gpt" (bundleUntil periodEnd))

/-- The completion of a task whose cost is not known. -/
def completeUnknown (taskId : String) : BudgetEnv × BudgetOp := (januaryEnv, .finalize taskId none "completed")

/-- Two reservations, the second after the period of the grant was made longer. -/
def newPeriodCalls : List (BudgetEnv × BudgetOp) :=
  [reserveUntil "t1" "2026-01-31T00:00:00+00:00", reserveUntil "t2" "2026-02-28T00:00:00+00:00"]

/-- **A charge that is lost**: the first task completes, and its grant is charged nothing. -/
theorem new_period_loses_charge :
    ¬Run.Along Books.fire ChargesDue ⟨newState, []⟩ (newPeriodCalls ++ [completeUnknown "t1"]) := by
  intro hall
  obtain ⟨-, hcharges, -⟩ := Run.along_append.mp hall
  have hfacts : (Run.after Books.fire ⟨newState, []⟩ newPeriodCalls).due januaryEnv
        (.finalize "t1" none "completed") "g1" = [40] ∧
      totals ((Run.after Books.fire ⟨newState, []⟩ newPeriodCalls).fire (completeUnknown "t1")).store "g1" =
        totals (Run.after Books.fire ⟨newState, []⟩ newPeriodCalls).store "g1" := by
    decide +kernel
  obtain ⟨hdue, hafter⟩ := hfacts
  rcases hcharges.totals "g1" with heq | ⟨-, grant, hgrant, -⟩
  · rw [hafter, completeUnknown, hdue] at heq
    exact absurd (congrArg Prod.fst heq) (by simp)
  · cases hgrant

theorem unreserved_newState : Unreserved newState where
  valid := valid_createBudgetState (by decide)
  named := fun _ _ hget => nomatch hget
  free := fun _ _ => rfl

/-- Without the new period the task is charged. -/
theorem charged_exactly_once_sample :
    Run.Along Books.fire ChargesDue ⟨newState, []⟩
      [reserveUntil "t1" "2026-01-31T00:00:00+00:00", completeUnknown "t1"] := by
  refine charged_exactly_once unreserved_newState _ ⟨?_, ?_, trivial⟩
  · rintro grant - ⟨u, hu, -⟩
    cases hu
  · intro grant hgrant
    cases hgrant

end Budget
end HexeAiNode
