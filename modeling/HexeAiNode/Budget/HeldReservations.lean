import HexeAiNode.Budget.LedgerInvariant

/-!
# Who holds a reservation

`Held file reservationId` says that some entry of the stored ledgers still has the reservation.  A
release always clears it (`not_held_releaseExecution`): the state it saves is valid, since releasing
only takes away, so the save cannot fail.  A finalization clears it when it returns, and leaves the
store alone when it raises (`finalizeExecution_cases`).
-/

namespace HexeAiNode
namespace Budget

open Py Execution
open StoreAction (exec_bind exec_bind_of_ok exec_bind_of_error)

/-- Some entry of the state has the reservation. -/
def BudgetState.Holds (s : BudgetState) (reservationId : String) : Prop :=
  (∃ u ∈ s.grantUsage.values, u.reservations.contains reservationId = true) ∨
    ∃ u ∈ s.providerBudgetUsage.values, u.reservations.contains reservationId = true

instance (s : BudgetState) (reservationId : String) : Decidable (s.Holds reservationId) :=
  inferInstanceAs (Decidable (_ ∨ _))

/-- Some entry of the stored state has the reservation. -/
def Held (file : Option BudgetState) (reservationId : String) : Prop :=
  ∃ s ∈ file, s.Holds reservationId

theorem held_some {s : BudgetState} {reservationId : String} :
    Held (some s) reservationId ↔ s.Holds reservationId := by
  simp [Held]

instance (file : Option BudgetState) (reservationId : String) :
    Decidable (Held file reservationId) :=
  match file with
  | none => isFalse (by simp [Held])
  | some _ => decidable_of_iff _ held_some.symm

/-! ## Loading -/

/-- **Loading** gives a valid state, and it is the one in the store afterwards. -/
theorem loadState_spec (env : BudgetEnv) (file : Option BudgetState) :
    ∃ s, (loadState env).exec file = (.ok s, some s) ∧ s.Valid := by
  rcases hload : storeLoad file with _ | s
  · refine ⟨createBudgetState env.nowIso, ?_, valid_createBudgetState env.nowIso_nonEmpty⟩
    have herror := BudgetState.valid_iff.mp (valid_createBudgetState env.nowIso_nonEmpty)
    have hsave : (storeSave (createBudgetState env.nowIso)).exec file =
        (.ok (), some (createBudgetState env.nowIso)) := by
      rw [storeSave, herror]
      rfl
    rw [loadState, exec_bind_of_ok (StoreAction.exec_read file), hload, exec_bind_of_ok hsave]
    rfl
  · obtain ⟨hfile, hvalid⟩ := Option.filter_eq_some_iff.mp hload
    subst hfile
    refine ⟨s, ?_, BudgetState.valid_iff.mpr (Option.isNone_iff_eq_none.mp hvalid)⟩
    rw [loadState, exec_bind_of_ok (StoreAction.exec_read (some s)), hload]
    rfl

/-- A valid stored state is the one loaded. -/
theorem loadState_of_valid (env : BudgetEnv) {s : BudgetState} (h : s.Valid) :
    (loadState env).exec (some s) = (.ok s, some s) := by
  have hload : storeLoad (some s) = some s := by
    simp [storeLoad, BudgetState.valid_iff.mp h]
  rw [loadState, exec_bind_of_ok (StoreAction.exec_read (some s)), hload]
  rfl

theorem saveIf_of_valid (condition : Bool) (env : BudgetEnv) {s : BudgetState}
    (h : BudgetState.Valid { s with updatedAt := env.nowIso }) (file : Option BudgetState) :
    (saveIf condition env s).exec file =
      (.ok (), if condition then some { s with updatedAt := env.nowIso } else file) := by
  unfold saveIf saveState storeSave
  cases condition with
  | false => rfl
  | true =>
    rw [if_pos rfl, if_pos rfl, BudgetState.valid_iff.mp h]
    rfl

/-- A save that raises writes nothing. -/
theorem saveIf_cases (condition : Bool) (env : BudgetEnv) (s : BudgetState)
    (file : Option BudgetState) :
    (saveIf condition env s).exec file = (.ok (), some { s with updatedAt := env.nowIso }) ∨
    (condition = false ∧ (saveIf condition env s).exec file = (.ok (), file)) ∨
    ∃ e, (saveIf condition env s).exec file = (.error e, file) := by
  unfold saveIf saveState storeSave
  cases condition with
  | false => exact Or.inr (Or.inl ⟨rfl, rfl⟩)
  | true =>
    rw [if_pos rfl]
    split
    · exact Or.inr (Or.inr ⟨_, rfl⟩)
    · exact Or.inl rfl

/-! ## Releasing -/

theorem reservationsError_erase {ledger : String} {reservations : Reservations} (key : String)
    (h : reservationsError ledger reservations = none) :
    reservationsError ledger (reservations.erase key) = none := by
  unfold reservationsError at h ⊢
  rw [List.findSome?_eq_none_iff] at h ⊢
  exact fun e he => h e (List.mem_of_mem_filter he)

/-- Releasing in a valid grant entry leaves it valid. -/
theorem GrantUsage.error_release {key reservationId nowIso : String} {u : GrantUsage}
    (hnow : isNonEmptyString (.str nowIso) = true) (h : u.error key = none) :
    (u.release reservationId nowIso).error key = none := by
  unfold GrantUsage.release
  split
  · exact h
  · simp only [GrantUsage.error, Option.orElse_eq_orElse, Option.orElse_eq_or,
      Option.or_eq_none_iff, firstError_eq_none_iff, List.forall_mem_cons, List.not_mem_nil,
      decide_eq_true_eq] at h ⊢
    obtain ⟨⟨hkey, hid, hstart, hend, -, hcost, hrequests, htokens, -, hnil⟩, hreservations⟩ := h
    refine ⟨⟨hkey, hid, hstart, hend, hnow, hcost, hrequests, htokens, ?_, hnil⟩,
      reservationsError_erase _ hreservations⟩
    exact le_max_right _ _

/-- Releasing in a valid provider entry leaves it valid. -/
theorem ProviderUsage.error_release {key reservationId nowIso : String} {u : ProviderUsage}
    (hnow : isNonEmptyString (.str nowIso) = true) (h : u.error key = none) :
    (u.release reservationId nowIso).error key = none := by
  unfold ProviderUsage.release
  split
  · exact h
  · simp only [ProviderUsage.error, Option.orElse_eq_orElse, Option.orElse_eq_or,
      Option.or_eq_none_iff, firstError_eq_none_iff, List.forall_mem_cons, List.not_mem_nil,
      decide_eq_true_eq] at h ⊢
    obtain ⟨⟨hkey, hid, hperiod, hstart, hend, -, hcost, -, hexact, hnil⟩, hreservations⟩ := h
    refine ⟨⟨hkey, hid, hperiod, hstart, hend, hnow, hcost, ?_, hexact, hnil⟩,
      reservationsError_erase _ hreservations⟩
    exact le_max_right _ _

/-- A valid state stays valid when a reservation is released. -/
theorem BudgetState.Valid.release {s : BudgetState} (h : s.Valid) (reservationId : String)
    {nowIso : String} (hnow : isNonEmptyString (.str nowIso) = true) :
    BudgetState.Valid
      { s with
        grantUsage := s.grantUsage.mapValues (GrantUsage.release reservationId nowIso)
        providerBudgetUsage :=
          s.providerBudgetUsage.mapValues (ProviderUsage.release reservationId nowIso)
        updatedAt := nowIso } where
  policy := h.policy
  grants := by
    intro e he
    obtain ⟨e', he', rfl⟩ := List.mem_map.mp he
    exact GrantUsage.error_release hnow (h.grants e' he')
  providers := by
    intro e he
    obtain ⟨e', he', rfl⟩ := List.mem_map.mp he
    exact ProviderUsage.error_release hnow (h.providers e' he')
  denials := h.denials
  summaries := h.summaries
  updatedAt := hnow

theorem GrantUsage.not_contains_release (reservationId nowIso : String) (u : GrantUsage) :
    (u.release reservationId nowIso).reservations.contains reservationId = false := by
  unfold GrantUsage.release
  rcases hget : u.reservations.get? reservationId with _ | r
  · simp [OrderedDict.contains, hget]
  · simp [OrderedDict.contains]

theorem ProviderUsage.not_contains_release (reservationId nowIso : String) (u : ProviderUsage) :
    (u.release reservationId nowIso).reservations.contains reservationId = false := by
  unfold ProviderUsage.release
  rcases hget : u.reservations.get? reservationId with _ | r
  · simp [OrderedDict.contains, hget]
  · simp [OrderedDict.contains]

/-- Nothing is reported released exactly when nothing holds the reservation. -/
theorem filterMap_get?_isEmpty {α β : Type} {values : List α} {reservations : α → Reservations}
    {report : α → Reservation → β} {reservationId : String}
    (h : (values.filterMap fun u =>
      ((reservations u).get? reservationId).map (report u)).isEmpty = true) :
    ∀ u ∈ values, (reservations u).contains reservationId = false := by
  intro u hu
  rw [List.isEmpty_iff, List.filterMap_eq_nil_iff] at h
  have hnone := Option.map_eq_none_iff.mp (h u hu)
  rw [OrderedDict.contains, hnone, Option.isSome_none]

/-- **A release clears the reservation**, from whatever the store holds. -/
theorem not_held_releaseExecution (env : BudgetEnv) (taskId reason : String)
    (file : Option BudgetState) :
    ∃ result, ((releaseExecution env taskId reason).exec file).1 = .ok result ∧
      ¬Held ((releaseExecution env taskId reason).exec file).2 (reservationIdOf taskId) := by
  obtain ⟨s, hload, hvalid⟩ := loadState_spec env file
  rw [releaseExecution, exec_bind_of_ok hload]
  dsimp only
  have hreleased := hvalid.release (reservationIdOf taskId) env.nowIso_nonEmpty
  rw [exec_bind_of_ok (saveIf_of_valid _ env hreleased _)]
  refine ⟨_, rfl, ?_⟩
  dsimp only [StoreAction.exec_pure]
  split
  · rw [held_some]
    rintro (⟨u, hu, hcontains⟩ | ⟨u, hu, hcontains⟩)
    · obtain ⟨v, -, rfl⟩ := OrderedDict.mem_values_mapValues hu
      rw [GrantUsage.not_contains_release] at hcontains
      cases hcontains
    · obtain ⟨v, -, rfl⟩ := OrderedDict.mem_values_mapValues hu
      rw [ProviderUsage.not_contains_release] at hcontains
      cases hcontains
  · next hnothing =>
    simp only [Bool.not_eq_true, Bool.or_eq_false_iff, Bool.not_eq_false'] at hnothing
    rw [held_some]
    rintro (⟨u, hu, hcontains⟩ | ⟨u, hu, hcontains⟩)
    · rw [filterMap_get?_isEmpty hnothing.1 u hu] at hcontains
      cases hcontains
    · rw [filterMap_get?_isEmpty hnothing.2 u hu] at hcontains
      cases hcontains

/-! ## Finalizing -/

theorem GrantUsage.reservations_finalize (reservationId nowIso : String) (cost : FinalCost)
    (u : GrantUsage) :
    (u.finalize reservationId nowIso cost).reservations =
      (u.release reservationId nowIso).reservations := by
  unfold GrantUsage.finalize
  rcases hget : u.reservations.get? reservationId with _ | r
  · simp only [GrantUsage.release, hget]
  · dsimp only
    split <;> rfl

theorem ProviderUsage.reservations_finalize {reservationId nowIso : String} {cost : FinalCost}
    {u u' : ProviderUsage} (h : u.finalize reservationId nowIso cost = .ok u') :
    u'.reservations = (u.release reservationId nowIso).reservations := by
  unfold ProviderUsage.finalize at h
  rcases hget : u.reservations.get? reservationId with _ | r
  · rw [hget] at h
    obtain rfl := Except.ok.inj h
    simp only [ProviderUsage.release, hget]
  · rw [hget] at h
    dsimp only at h
    split at h
    · obtain ⟨cents, -, h⟩ := bind_eq_ok.mp h
      obtain rfl := Except.ok.inj h
      rfl
    · obtain rfl := Except.ok.inj h
      rfl

/-- **A finalization** of a valid store clears the reservation or raises and leaves the store. -/
theorem finalizeExecution_cases (env : BudgetEnv) (taskId : String)
    (metrics : Option TaskExecutionMetrics) (status : String) {s : BudgetState} (h : s.Valid) :
    (∃ result, ((finalizeExecution env taskId metrics status).exec (some s)).1 = .ok result ∧
      ¬Held ((finalizeExecution env taskId metrics status).exec (some s)).2
        (reservationIdOf taskId)) ∨
    ∃ e, (finalizeExecution env taskId metrics status).exec (some s) = (.error e, some s) := by
  rw [finalizeExecution, exec_bind_of_ok (loadState_of_valid env h)]
  dsimp only
  rcases hcents : finalCostCents metrics with e | cents
  · exact Or.inr ⟨e, exec_bind_of_error rfl⟩
  rw [exec_bind_of_ok (StoreAction.exec_ofResult _ _)]
  rcases hproviders : s.providerBudgetUsage.updateValues (ProviderUsage.finalize
    (reservationIdOf taskId) env.nowIso ⟨status == "completed", cents, metrics⟩) with e | providers
  · exact Or.inr ⟨e, exec_bind_of_error rfl⟩
  rw [exec_bind_of_ok (StoreAction.exec_ofResult _ _)]
  rcases saveIf_cases _ env _ (some s) with hsave | ⟨hnothing, hsave⟩ | ⟨e, hsave⟩
  · rw [exec_bind_of_ok hsave]
    refine Or.inl ⟨_, rfl, ?_⟩
    dsimp only [StoreAction.exec_pure]
    rw [held_some]
    rintro (⟨u, hu, hcontains⟩ | ⟨u, hu, hcontains⟩)
    · obtain ⟨v, -, rfl⟩ := OrderedDict.mem_values_mapValues hu
      rw [GrantUsage.reservations_finalize, GrantUsage.not_contains_release] at hcontains
      cases hcontains
    · obtain ⟨v, -, hfinalize⟩ := OrderedDict.mem_values_updateValues hproviders hu
      rw [ProviderUsage.reservations_finalize hfinalize,
        ProviderUsage.not_contains_release] at hcontains
      cases hcontains
  · rw [exec_bind_of_ok hsave]
    refine Or.inl ⟨_, rfl, ?_⟩
    dsimp only [StoreAction.exec_pure]
    simp only [Bool.or_eq_false_iff, Bool.not_eq_false'] at hnothing
    rw [held_some]
    rintro (⟨u, hu, hcontains⟩ | ⟨u, hu, hcontains⟩)
    · rw [filterMap_get?_isEmpty hnothing.1 u hu] at hcontains
      cases hcontains
    · rw [filterMap_get?_isEmpty hnothing.2 u hu] at hcontains
      cases hcontains
  · exact Or.inr ⟨e, exec_bind_of_error hsave⟩

/-- After a reservation that returned, the store holds a valid state. -/
theorem valid_of_reserveExecution {env : BudgetEnv} {taskId : String}
    {request : TaskExecutionRequest} {providerId modelId : String} {bundle : Value}
    {file file' : Option BudgetState} {result : BudgetReservationResult}
    (h : (reserveExecution env taskId request providerId modelId bundle).exec file =
      (.ok result, file')) : ∃ s, file' = some s ∧ s.Valid := by
  obtain ⟨s, hload, hvalid⟩ := loadState_spec env file
  -- reserving starts by loading, so it runs as it would from the loaded state
  have hsame : (reserveExecution env taskId request providerId modelId bundle).exec file =
      (reserveExecution env taskId request providerId modelId bundle).exec (some s) := by
    rw [reserveExecution, exec_bind_of_ok hload, exec_bind_of_ok (loadState_of_valid env hvalid)]
  have hsound := (trivialInvariant.keeps_reserveExecution env taskId request providerId modelId
    bundle (some s) ⟨s, rfl, hvalid, trivial⟩).1
  rw [← hsame, h] at hsound
  obtain ⟨s', hs', hvalid', -⟩ := hsound
  exact ⟨s', hs', hvalid'⟩

end Budget
end HexeAiNode
