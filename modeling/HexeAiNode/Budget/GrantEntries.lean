import HexeAiNode.Budget.BothLedgers
import Mathlib.Algebra.Group.Prod

/-!
# What the grant entries hold

An entry of the grant ledger is read here through two functions: `reservedIn` is the reservation a task has in the
entry of a grant, and `totals` what the entry counts as used.  Each operation has one lemma for each of the two.

Finalizing and releasing take one task out of every entry, and a completion adds to the totals of the entries that
held it.  Reserving is the operation with a memory of its own: an entry of another period than its grant is started
again (`OtherPeriod`), and with its totals it loses every reservation.  `Turned` says what the turns of a reservation
have made of an entry when nothing is reserved in the entries that start again.
-/

namespace HexeAiNode
namespace Budget

open Py Execution

variable {env : BudgetEnv} {s s' t t' : BudgetState} {args : ReservationArgs} {grant : Dict}
  {asked grants : List Dict} {key reservationId nowIso : String} {cost : FinalCost}

/-! ## Reading an entry -/

/-- The reservation of a task in the entry of a grant. -/
def reservedIn (s : BudgetState) (key reservationId : String) : Option Reservation :=
  (s.grantUsage.get? key).bind fun u => u.reservations.get? reservationId

/-- The cost and the requests that an entry counts as used. -/
def GrantUsage.totals (u : GrantUsage) : ℤ × ℤ := (u.usedCostCents, u.usedRequests)

/-- The totals of a grant; without an entry nothing is used. -/
def totals (s : BudgetState) (key : String) : ℤ × ℤ := ((s.grantUsage.get? key).map GrantUsage.totals).getD 0

/-- Every entry carries the id of its grant, without blanks around it. -/
def Named (s : BudgetState) : Prop :=
  ∀ key u, s.grantUsage.get? key = some u → u.grantId = key ∧ strip key = key

theorem reservedIn_of_get? {u : GrantUsage} (h : s.grantUsage.get? key = some u) :
    reservedIn s key reservationId = u.reservations.get? reservationId := by
  rw [reservedIn, h, Option.bind_some]

theorem reservedIn_of_none (h : s.grantUsage.get? key = none) : reservedIn s key reservationId = none := by
  rw [reservedIn, h, Option.bind_none]

theorem totals_of_get? {u : GrantUsage} (h : s.grantUsage.get? key = some u) : totals s key = u.totals := by
  rw [totals, h, Option.map_some, Option.getD_some]

theorem totals_of_none (h : s.grantUsage.get? key = none) : totals s key = 0 := by
  rw [totals, h, Option.map_none, Option.getD_none]

theorem reservedIn_congr (h : s'.grantUsage.get? key = s.grantUsage.get? key) :
    reservedIn s' key reservationId = reservedIn s key reservationId := by
  rw [reservedIn, h, reservedIn]

theorem totals_congr (h : s'.grantUsage.get? key = s.grantUsage.get? key) : totals s' key = totals s key := by
  rw [totals, h, totals]

/-- Equal entries hold and count the same. -/
theorem Named.congr (hnamed : Named s) (h : s'.grantUsage = s.grantUsage) : Named s' := by
  intro key u hu
  rw [h] at hu
  exact hnamed key u hu

/-! ## Finalizing and releasing -/

/-- One task is taken out of every entry, and nothing else about the reservations changes. -/
def TakesOut (s s' : BudgetState) (reservationId : String) : Prop :=
  ∀ key id, reservedIn s' key id = if id = reservationId then none else reservedIn s key id

theorem GrantUsage.get?_release (reservationId nowIso : String) (u : GrantUsage) (id : String) :
    (u.release reservationId nowIso).reservations.get? id =
      if id = reservationId then none else u.reservations.get? id := by
  unfold GrantUsage.release
  rcases hget : u.reservations.get? reservationId with _ | r
  · dsimp only
    split
    · next heq => rw [heq, hget]
    · rfl
  · exact OrderedDict.get?_erase _ _ _

theorem takesOut_of_mapValues {f : GrantUsage → GrantUsage}
    (hf : ∀ u id, (f u).reservations.get? id = if id = reservationId then none else u.reservations.get? id)
    (h : s'.grantUsage = s.grantUsage.mapValues f) : TakesOut s s' reservationId := by
  intro key id
  rw [reservedIn, h, OrderedDict.get?_mapValues, reservedIn]
  rcases s.grantUsage.get? key with _ | u
  · exact (ite_self none).symm
  · exact hf u id

theorem takesOut_released (hsame : SameLedgers (s.released env reservationId) s') :
    TakesOut s s' reservationId :=
  takesOut_of_mapValues (GrantUsage.get?_release reservationId env.nowIso) hsame.grants

theorem takesOut_finalized {providers : OrderedDict String ProviderUsage}
    (hsame : SameLedgers (s.finalized env reservationId cost providers) s') : TakesOut s s' reservationId := by
  refine takesOut_of_mapValues (fun u id => ?_) hsame.grants
  rw [GrantUsage.reservations_finalize, GrantUsage.get?_release]

theorem GrantUsage.grantId_release (u : GrantUsage) : (u.release reservationId nowIso).grantId = u.grantId := by
  unfold GrantUsage.release
  split <;> rfl

theorem GrantUsage.grantId_finalize (u : GrantUsage) :
    (u.finalize reservationId nowIso cost).grantId = u.grantId := by
  unfold GrantUsage.finalize
  split
  · rfl
  · dsimp only
    split <;> exact GrantUsage.grantId_release u

theorem GrantUsage.totals_release (u : GrantUsage) : (u.release reservationId nowIso).totals = u.totals := by
  unfold GrantUsage.release
  split <;> rfl

/-- What a completion adds to the totals of an entry. -/
theorem GrantUsage.totals_finalize (u : GrantUsage) :
    (u.finalize reservationId nowIso cost).totals = u.totals +
      if cost.completed then
        ((u.reservations.get? reservationId).map fun r => (max (cost.applied r) 0, (1 : ℤ))).getD 0
      else 0 := by
  rcases hget : u.reservations.get? reservationId with _ | r
  · rw [GrantUsage.finalize_of_none hget]
    simp
  cases hcompleted : cost.completed with
  | true =>
    rw [GrantUsage.finalize_eq hget hcompleted]
    rfl
  | false =>
    have hreleased : u.finalize reservationId nowIso cost = u.release reservationId nowIso := by
      unfold GrantUsage.finalize
      rw [hget]
      dsimp only
      rw [hcompleted]
      rfl
    rw [hreleased, GrantUsage.totals_release]
    simp

theorem Named.mapValues {f : GrantUsage → GrantUsage} (hnamed : Named s) (hf : ∀ u, (f u).grantId = u.grantId)
    (h : s'.grantUsage = s.grantUsage.mapValues f) : Named s' := by
  intro key u hu
  rw [h, OrderedDict.get?_mapValues] at hu
  obtain ⟨v, hv, rfl⟩ := Option.map_eq_some_iff.mp hu
  rw [hf]
  exact hnamed key v hv

/-- A release adds nothing to the totals. -/
theorem totals_released (hsame : SameLedgers (s.released env reservationId) s') (key : String) :
    totals s' key = totals s key := by
  have hgrants : s'.grantUsage = s.grantUsage.mapValues (GrantUsage.release reservationId env.nowIso) := hsame.grants
  rw [totals, hgrants, OrderedDict.get?_mapValues, totals]
  rcases s.grantUsage.get? key with _ | u
  · rfl
  · exact GrantUsage.totals_release u

/-- **What a finalization adds** to the totals of a grant. -/
theorem totals_finalized {providers : OrderedDict String ProviderUsage}
    (hsame : SameLedgers (s.finalized env reservationId cost providers) s') (key : String) :
    totals s' key = totals s key +
      if cost.completed then
        ((reservedIn s key reservationId).map fun r => (max (cost.applied r) 0, (1 : ℤ))).getD 0
      else 0 := by
  have hgrants : s'.grantUsage = s.grantUsage.mapValues (GrantUsage.finalize reservationId env.nowIso cost) :=
    hsame.grants
  rw [totals, hgrants, OrderedDict.get?_mapValues, totals, reservedIn]
  rcases s.grantUsage.get? key with _ | u
  · simp
  · exact GrantUsage.totals_finalize u

/-! ## The summaries of a completion -/

/-- The entries with a key are counted once, if there is one. -/
theorem countP_key {l : List (String × GrantUsage)} (hl : Assoc.Distinct l) (p : GrantUsage → Bool) :
    l.countP (fun e => decide (e.1 = key) && p e.2) = if (Assoc.get? l key).any p then 1 else 0 := by
  induction l with
  | nil => rfl
  | cons e l ih =>
    obtain ⟨k, u⟩ := e
    obtain ⟨hnew, hrest⟩ := List.nodup_cons.mp hl
    rw [List.countP_cons, ih hrest, Assoc.get?_cons]
    by_cases hk : k = key
    · have hnone : Assoc.get? l key = none := Assoc.get?_eq_none_iff.mpr (hk ▸ hnew)
      rw [if_pos hk, hnone]
      simp [hk]
    · rw [if_neg hk]
      simp [hk]

/-- **A completion queues one summary** for each entry that held the task. -/
theorem countP_summariesOf (hnamed : Named s) (key : String) :
    (summariesOf nowIso reservationId cost s).countP (fun summary => decide (summary.grantId = key)) =
      if cost.completed ∧ (reservedIn s key reservationId).isSome then 1 else 0 := by
  unfold summariesOf
  cases hcompleted : cost.completed with
  | false => simp
  | true =>
    rw [if_pos rfl, List.countP_map, List.countP_filter]
    have hcount : s.grantUsage.values.countP (fun u =>
          ((fun summary : UsageSummary => decide (summary.grantId = key)) ∘ fun u =>
            (u.finalize reservationId nowIso cost).summary nowIso) u && u.reservations.contains reservationId) =
        s.grantUsage.entries.countP (fun e => decide (e.1 = key) && e.2.reservations.contains reservationId) := by
      rw [OrderedDict.values, List.countP_map]
      refine List.countP_congr fun e he => ?_
      obtain ⟨hid, hstrip⟩ := hnamed e.1 e.2 (OrderedDict.get?_of_mem_entries he)
      have hsummary : ((e.2.finalize reservationId nowIso cost).summary nowIso).grantId = e.1 := by
        rw [GrantUsage.summary, GrantUsage.grantId_finalize, hid, hstrip]
      simp only [Function.comp_apply, hsummary]
    rw [hcount, countP_key s.grantUsage.distinct fun u => u.reservations.contains reservationId]
    have hheld : (Assoc.get? s.grantUsage.entries key).any (fun u => u.reservations.contains reservationId) =
        (reservedIn s key reservationId).isSome := by
      show (s.grantUsage.get? key).any _ = _
      rcases hget : s.grantUsage.get? key with _ | u
      · rw [reservedIn_of_none hget]
        rfl
      · rw [reservedIn_of_get? hget]
        rfl
    rw [hheld]
    simp

/-! ## The turns of a reservation -/

/-- There is an entry for the grant, of another period. -/
def OtherPeriod (s : BudgetState) (grant : Dict) : Prop :=
  ∃ u, s.grantUsage.get? (grantIdOf grant) = some u ∧
    (u.periodStart.same (Dict.get grant "period_start") && u.periodEnd.same (Dict.get grant "period_end")) = false

/-- Nothing is reserved in the entries that are started again. -/
def RestartsFree (asked : List Dict) (s : BudgetState) : Prop :=
  ∀ grant ∈ asked, OtherPeriod s grant → ∀ id, reservedIn s (grantIdOf grant) id = none

/-- The entry a turn works on is the one there is, or one that starts with nothing. -/
theorem ensureUsageEntry_cases (env : BudgetEnv) (s : BudgetState) (grant : Dict) :
    (∃ u, s.grantUsage.get? (grantIdOf grant) = some u ∧ ensureUsageEntry env s grant = u) ∨
    ((s.grantUsage.get? (grantIdOf grant) = none ∨ OtherPeriod s grant) ∧
      (ensureUsageEntry env s grant).totals = 0 ∧ (ensureUsageEntry env s grant).reservations = .empty ∧
      (ensureUsageEntry env s grant).grantId =
        ((s.grantUsage.get? (grantIdOf grant)).map GrantUsage.grantId).getD (grantIdOf grant)) := by
  unfold ensureUsageEntry
  dsimp only
  rw [← grantIdOf]
  rcases hget : s.grantUsage.get? (grantIdOf grant) with _ | u
  · exact Or.inr ⟨Or.inl rfl, rfl, rfl, rfl⟩
  dsimp only
  cases hperiod : u.periodStart.same (Dict.get grant "period_start") && u.periodEnd.same (Dict.get grant "period_end")
  · exact Or.inr ⟨Or.inr ⟨u, hget, hperiod⟩, rfl, rfl, rfl⟩
  · exact Or.inl ⟨u, rfl, rfl⟩

/-- What turns have made of the entry of a key. -/
inductive Turned (s : BudgetState) (asked : List Dict) (reservationId key : String) (t : BudgetState) : Prop
  /-- The entry had no turn. -/
  | same (hsame : t.grantUsage.get? key = s.grantUsage.get? key)
  /-- The entry got the reservation. -/
  | kept {u u' : GrantUsage} (hbefore : s.grantUsage.get? key = some u) (hafter : t.grantUsage.get? key = some u')
      (hstart : u'.periodStart = u.periodStart) (hend : u'.periodEnd = u.periodEnd) (htotals : u'.totals = u.totals)
      (hothers : ∀ id, id ≠ reservationId → u'.reservations.get? id = u.reservations.get? id)
  /-- The entry is new, or was started again. -/
  | started {u' : GrantUsage} (hbefore : s.grantUsage.get? key = none ∨
        (∀ id, reservedIn s key id = none) ∧ ∃ grant ∈ asked, grantIdOf grant = key ∧ OtherPeriod s grant)
      (hafter : t.grantUsage.get? key = some u') (htotals : u'.totals = 0)
      (hothers : ∀ id, id ≠ reservationId → u'.reservations.get? id = none)

/-- One more turn. -/
theorem Turned.turn (hfree : RestartsFree asked s) (hgrant : grant ∈ asked)
    (h : Turned s asked args.reservationId key t) (hturn : Turn env args grant t t') :
    Turned s asked args.reservationId key t' := by
  have hwritten := hturn.written
  by_cases hkey : key = grantIdOf grant
  case neg =>
    have hget : t'.grantUsage.get? key = t.grantUsage.get? key := by
      rw [hwritten]
      exact OrderedDict.get?_set_of_ne _ _ hkey
    cases h with
    | same hsame => exact .same (hget.trans hsame)
    | kept hbefore hafter hstart hend htotals hothers =>
      exact .kept hbefore (hget.trans hafter) hstart hend htotals hothers
    | started hbefore hafter htotals hothers => exact .started hbefore (hget.trans hafter) htotals hothers
  subst hkey
  have hget : t'.grantUsage.get? (grantIdOf grant) =
      some ((ensureUsageEntry env t grant).reserve args env.nowIso) := by
    rw [hwritten]
    exact OrderedDict.get?_set_self _ _ _
  have hreserve : ∀ (u : GrantUsage) id, id ≠ args.reservationId →
      (u.reserve args env.nowIso).reservations.get? id = u.reservations.get? id :=
    fun u id hid => OrderedDict.get?_set_of_ne _ _ hid
  rcases ensureUsageEntry_cases env t grant with ⟨u₁, hu₁, hensure⟩ | ⟨hnew, hzero, hempty, -⟩
  · -- the entry there is gets the reservation
    rw [hensure] at hget
    cases h with
    | same hsame => exact .kept (hsame.symm.trans hu₁) hget rfl rfl rfl (hreserve u₁)
    | @kept u u' hbefore hafter hstart hend htotals hothers =>
      obtain rfl := Option.some.inj (hafter.symm.trans hu₁)
      exact .kept hbefore hget hstart hend htotals fun id hid => (hreserve _ id hid).trans (hothers id hid)
    | started hbefore hafter htotals hothers =>
      obtain rfl := Option.some.inj (hafter.symm.trans hu₁)
      exact .started hbefore hget htotals fun id hid => (hreserve _ id hid).trans (hothers id hid)
  · -- the entry starts again
    have hothers : ∀ id, id ≠ args.reservationId →
        ((ensureUsageEntry env t grant).reserve args env.nowIso).reservations.get? id = none := by
      intro id hid
      rw [hreserve _ id hid, hempty]
      rfl
    have hstarted : OtherPeriod s grant → Turned s asked args.reservationId (grantIdOf grant) t' := fun hother =>
      .started (Or.inr ⟨hfree grant hgrant hother, grant, hgrant, rfl, hother⟩) hget hzero hothers
    cases h with
    | same hsame =>
      rcases hnew with hnone | ⟨u, hu, hperiod⟩
      · exact .started (Or.inl (hsame ▸ hnone)) hget hzero hothers
      · exact hstarted ⟨u, hsame ▸ hu, hperiod⟩
    | kept hbefore hafter hstart hend _ _ =>
      rcases hnew with hnone | ⟨u₁, hu₁, hperiod⟩
      · rw [hafter] at hnone
        cases hnone
      · obtain rfl := Option.some.inj (hafter.symm.trans hu₁)
        rw [hstart, hend] at hperiod
        exact hstarted ⟨_, hbefore, hperiod⟩
    | started hbefore _ _ _ => exact .started hbefore hget hzero hothers

/-- All the turns of a reservation. -/
theorem Turns.turned (hfree : RestartsFree asked s) (h : Turns env args grants s t)
    (hasked : ∀ grant ∈ grants, grant ∈ asked) (key : String) : Turned s asked args.reservationId key t :=
  h.keep (I := Turned s asked args.reservationId key)
    (fun grant hgrant _ _ ht hturn => ht.turn hfree (hasked grant hgrant) hturn) (.same rfl)

/-- A grant that is reserved did not hold the reservation before. -/
theorem Turns.fresh (h : Turns env args grants s t) (hkey : key ∈ grants.map grantIdOf)
    (hfree : ∀ grant ∈ grants, grantIdOf grant = key → OtherPeriod s grant →
      reservedIn s key args.reservationId = none) : reservedIn s key args.reservationId = none := by
  induction grants generalizing s with
  | nil => cases hkey
  | cons grant grants ih =>
    obtain ⟨s₁, hturn, hrest⟩ := h
    by_cases heq : key = grantIdOf grant
    · subst heq
      rcases ensureUsageEntry_cases env s grant with ⟨u, hu, hensure⟩ | ⟨hnone | hother, -⟩
      · rw [reservedIn_of_get? hu]
        exact get?_eq_none_of_not_contains (hensure ▸ hturn.fresh)
      · exact reservedIn_of_none hnone
      · exact hfree grant List.mem_cons_self rfl hother
    · have hget : s₁.grantUsage.get? key = s.grantUsage.get? key := by
        rw [hturn.written]
        exact OrderedDict.get?_set_of_ne _ _ heq
      have hsame : reservedIn s₁ key args.reservationId = reservedIn s key args.reservationId := reservedIn_congr hget
      have hmem : key ∈ grants.map grantIdOf := (List.mem_cons.mp hkey).resolve_left heq
      rw [← hsame]
      refine ih hrest hmem fun grant' hgrant' hid hother => ?_
      rw [hsame]
      refine hfree grant' (List.mem_cons_of_mem _ hgrant') hid ?_
      obtain ⟨u, hu, hperiod⟩ := hother
      exact ⟨u, by rw [hid, ← hget, ← hid, hu], hperiod⟩

/-- **What a reservation puts into the entries**: its record, under every grant that had a turn. -/
theorem Turns.reservedIn_eq (hfree : RestartsFree grants s) (h : Turns env args grants s t) (key id : String) :
    reservedIn t key id =
      if id = args.reservationId ∧ key ∈ grants.map grantIdOf then some (args.record env.nowIso)
      else reservedIn s key id := by
  by_cases hkey : key ∈ grants.map grantIdOf
  case neg =>
    rw [if_neg fun hboth => hkey hboth.2]
    exact reservedIn_congr (h.get?_of_notMem hkey)
  by_cases hid : id = args.reservationId
  · subst hid
    rw [if_pos ⟨rfl, hkey⟩]
    obtain ⟨u, hu, hheld⟩ := h.held hkey
    rw [reservedIn_of_get? hu, hheld]
  · rw [if_neg fun hboth => hid hboth.1]
    cases h.turned hfree (fun _ hgrant => hgrant) key with
    | same hsame => exact reservedIn_congr hsame
    | kept hbefore hafter _ _ _ hothers =>
      rw [reservedIn_of_get? hbefore, reservedIn_of_get? hafter]
      exact hothers id hid
    | started hbefore hafter _ hothers =>
      rw [reservedIn_of_get? hafter, hothers id hid]
      rcases hbefore with hnone | ⟨hfree, -⟩
      · exact (reservedIn_of_none hnone).symm
      · exact (hfree id).symm

/-- A reservation adds nothing to the totals; those of an entry of another period start again. -/
theorem Turns.totals_eq (hfree : RestartsFree grants s) (h : Turns env args grants s t) (key : String) :
    totals t key = totals s key ∨
      totals t key = 0 ∧ ∃ grant ∈ grants, grantIdOf grant = key ∧ OtherPeriod s grant := by
  cases h.turned hfree (fun _ hgrant => hgrant) key with
  | same hsame => exact Or.inl (totals_congr hsame)
  | kept hbefore hafter _ _ htotals _ =>
    rw [totals_of_get? hbefore, totals_of_get? hafter]
    exact Or.inl htotals
  | started hbefore hafter htotals _ =>
    rw [totals_of_get? hafter, htotals]
    rcases hbefore with hnone | ⟨-, hother⟩
    · exact Or.inl (totals_of_none hnone).symm
    · exact Or.inr ⟨rfl, hother⟩

/-- The entries stay named. -/
theorem Turns.named (h : Turns env args grants s t) (hnamed : Named s) : Named t := by
  refine h.keep (I := Named) ?_ hnamed
  intro grant _ t t' ht hturn key u hu
  rw [hturn.written] at hu
  by_cases hkey : key = grantIdOf grant
  case neg => exact ht key u ((OrderedDict.get?_set_of_ne _ _ hkey).symm.trans hu)
  subst hkey
  obtain rfl := Option.some.inj ((OrderedDict.get?_set_self _ _ _).symm.trans hu)
  refine ⟨?_, Value.strip_normalizeString _⟩
  show (ensureUsageEntry env t grant).grantId = _
  rcases ensureUsageEntry_cases env t grant with ⟨u₁, hu₁, hensure⟩ | ⟨-, -, -, hid⟩
  · rw [hensure]
    exact (ht _ u₁ hu₁).1
  · rw [hid]
    rcases hget : t.grantUsage.get? (grantIdOf grant) with _ | u₁
    · rfl
    · exact (ht _ u₁ hget).1

end Budget
end HexeAiNode
