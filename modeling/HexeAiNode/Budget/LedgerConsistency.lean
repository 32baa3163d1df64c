import HexeAiNode.Budget.LedgerInvariant

/-!
# Consistency of the budget ledgers

Every operation of the manager keeps the ledgers balanced: each entry reserves the sum of its
reservations.

An entry of either ledger is an account of `ReservationLedger`, and what the manager does to one
entry is an operation of that account: `reserve`, `settle`, or starting again.  A state is balanced
when its entries are, so balance is a `LedgerInvariant`, and `consistent_after_operations` is that
invariant over a whole run.
-/

namespace HexeAiNode
namespace Budget

open Py Execution ReservationLedger
open StoreAction (storeAfter)

/-! ## Entries as accounts -/

theorem accountOf_reserve {reserved : ℤ} {reservations : Reservations} {key : String}
    {r : Reservation} :
    accountOf (reserved + r.reservedCostCents) (reservations.set key r) =
      (accountOf reserved reservations).reserve key r.reservedCostCents := by
  unfold accountOf Account.reserve
  rw [OrderedDict.mapValues_set]

theorem accountOf_settle {reserved : ℤ} {reservations : Reservations} {key : String}
    {r : Reservation} (h : reservations.get? key = some r) :
    accountOf (max (reserved - r.reservedCostCents) 0) (reservations.erase key) =
      (accountOf reserved reservations).settle key := by
  unfold accountOf Account.settle
  rw [OrderedDict.get?_mapValues, h, Option.map_some, OrderedDict.mapValues_erase]

theorem accountOf_settle_of_none {reserved : ℤ} {reservations : Reservations} {key : String}
    (h : reservations.get? key = none) :
    accountOf reserved reservations = (accountOf reserved reservations).settle key := by
  unfold accountOf Account.settle
  rw [OrderedDict.get?_mapValues, h, Option.map_none]

theorem get?_accountOf_of_not_contains {reserved : ℤ} {reservations : Reservations} {key : String}
    (h : ¬reservations.contains key = true) :
    (accountOf reserved reservations).reservations.get? key = none := by
  have hnone : reservations.get? key = none := by
    rw [OrderedDict.contains, Option.isSome_iff_ne_none, not_not] at h
    exact h
  show (reservations.mapValues _).get? key = none
  rw [OrderedDict.get?_mapValues, hnone, Option.map_none]

/-- An entry without reservations is balanced. -/
theorem balanced_accountOf_empty : (accountOf 0 .empty).Balanced :=
  Account.balanced_empty

/-- Adding a fresh reservation to a grant entry keeps it balanced. -/
theorem GrantUsage.balanced_reserve {u : GrantUsage} {args : ReservationArgs} {nowIso : String}
    (h : u.account.Balanced) (hfresh : ¬u.reservations.contains args.reservationId = true)
    (hcents : 0 ≤ args.cents) : (u.reserve args nowIso).account.Balanced := by
  have haccount : (u.reserve args nowIso).account =
      u.account.reserve args.reservationId args.cents :=
    accountOf_reserve (r := args.record nowIso)
  rw [haccount]
  exact h.reserve (get?_accountOf_of_not_contains hfresh) hcents

/-- Adding a fresh reservation to a provider entry keeps it balanced. -/
theorem ProviderUsage.balanced_reserve {u : ProviderUsage} {args : ReservationArgs}
    {nowIso : String} (h : u.account.Balanced)
    (hfresh : ¬u.reservations.contains args.reservationId = true) (hcents : 0 ≤ args.cents) :
    (u.reserve args nowIso).account.Balanced := by
  have haccount : (u.reserve args nowIso).account =
      u.account.reserve args.reservationId args.cents :=
    accountOf_reserve (r := args.record nowIso)
  rw [haccount]
  exact h.reserve (get?_accountOf_of_not_contains hfresh) hcents

/-- Releasing in a grant entry settles its account. -/
theorem GrantUsage.account_release (reservationId nowIso : String) (u : GrantUsage) :
    (u.release reservationId nowIso).account = u.account.settle reservationId := by
  unfold GrantUsage.release
  rcases hget : u.reservations.get? reservationId with _ | r
  · exact accountOf_settle_of_none hget
  · exact accountOf_settle hget

/-- Releasing in a provider entry settles its account. -/
theorem ProviderUsage.account_release (reservationId nowIso : String) (u : ProviderUsage) :
    (u.release reservationId nowIso).account = u.account.settle reservationId := by
  unfold ProviderUsage.release
  rcases hget : u.reservations.get? reservationId with _ | r
  · exact accountOf_settle_of_none hget
  · exact accountOf_settle hget

/-- Finalizing a grant entry changes its reservations as releasing it does. -/
theorem GrantUsage.account_finalize (reservationId nowIso : String) (cost : FinalCost)
    (u : GrantUsage) :
    (u.finalize reservationId nowIso cost).account = u.account.settle reservationId := by
  rw [← GrantUsage.account_release reservationId nowIso]
  unfold GrantUsage.finalize
  rcases hget : u.reservations.get? reservationId with _ | r
  · simp only [GrantUsage.release, hget]
  · by_cases hcompleted : cost.completed = true
    · simp only [hcompleted, if_true]
      rfl
    · simp only [hcompleted]
      rfl

/-- Finalizing a provider entry changes its reservations as releasing it does. -/
theorem ProviderUsage.account_finalize {reservationId nowIso : String} {cost : FinalCost}
    {u u' : ProviderUsage} (h : u.finalize reservationId nowIso cost = .ok u') :
    u'.account = u.account.settle reservationId := by
  rw [← ProviderUsage.account_release reservationId nowIso]
  unfold ProviderUsage.finalize at h
  rcases hget : u.reservations.get? reservationId with _ | r
  · rw [hget] at h
    obtain rfl := Except.ok.inj h
    simp only [ProviderUsage.release, hget]
  · rw [hget] at h
    dsimp only at h
    split at h
    · obtain ⟨cents, -, h⟩ := bind_eq_ok.mp h
      obtain rfl := Except.ok.inj h
      rfl
    · obtain rfl := Except.ok.inj h
      rfl

/-! ## States -/

theorem BudgetState.Balanced.setGrant {s : BudgetState} (h : s.Balanced) {grantId : String}
    {u : GrantUsage} (hu : u.account.Balanced) : (s.setGrant grantId u).Balanced := by
  refine ⟨fun v hv => ?_, h.providers⟩
  rcases OrderedDict.mem_values_set hv with rfl | hv
  · exact hu
  · exact h.grants v hv

theorem BudgetState.Balanced.setProvider {s : BudgetState} (h : s.Balanced) {key : String}
    {u : ProviderUsage} (hu : u.account.Balanced) :
    BudgetState.Balanced { s with providerBudgetUsage := s.providerBudgetUsage.set key u } := by
  refine ⟨h.grants, fun v hv => ?_⟩
  rcases OrderedDict.mem_values_set hv with rfl | hv
  · exact hu
  · exact h.providers v hv

/-- The entry of a grant is balanced: a new or restarted one has no reservations. -/
theorem balanced_ensureUsageEntry {env : BudgetEnv} {s : BudgetState} {grant : Dict}
    (h : s.Balanced) : (ensureUsageEntry env s grant).account.Balanced := by
  unfold ensureUsageEntry
  dsimp only
  split
  · exact balanced_accountOf_empty
  · next usage hget =>
    split
    · exact h.grants usage (OrderedDict.mem_values_of_get? hget)
    · exact balanced_accountOf_empty

theorem balanced_ensureProviderBudgetUsageEntry {env : BudgetEnv} {s : BudgetState}
    {providerId : String} {settings : Dict} {u : ProviderUsage} (h : s.Balanced)
    (hu : ensureProviderBudgetUsageEntry env s providerId settings = .ok u) :
    u.account.Balanced := by
  unfold ensureProviderBudgetUsageEntry at hu
  split at hu
  · next usage hget =>
    obtain rfl := Except.ok.inj hu
    exact h.providers _ (OrderedDict.mem_values_of_get? hget)
  · obtain ⟨limit, -, hu⟩ := bind_eq_ok.mp hu
    obtain rfl := Except.ok.inj hu
    exact balanced_accountOf_empty

/-- Reserving a provider budget keeps the state balanced. -/
theorem BudgetState.Balanced.reserveProviderBudget {env : BudgetEnv} {s s' : BudgetState}
    {args : ReservationArgs} {result : Option ProviderBudgetResult} (h : s.Balanced)
    (hcents : 0 ≤ args.cents) (hs : reserveProviderBudget env s args = .ok (result, s')) :
    s'.Balanced := by
  unfold Budget.reserveProviderBudget at hs
  split at hs
  · obtain ⟨-, rfl⟩ := Prod.mk.inj (Except.ok.inj hs)
    exact h
  · obtain ⟨usage, husage, hs⟩ := bind_eq_ok.mp hs
    have hbalanced := balanced_ensureProviderBudgetUsageEntry h husage
    dsimp only at hs
    split at hs
    · obtain ⟨-, rfl⟩ := Prod.mk.inj (Except.ok.inj hs)
      exact h.setProvider hbalanced
    · next hfresh =>
      split at hs
      · obtain ⟨-, rfl⟩ := Prod.mk.inj (Except.ok.inj hs)
        exact h.setProvider hbalanced
      · obtain ⟨-, rfl⟩ := Prod.mk.inj (Except.ok.inj hs)
        exact h.setProvider (ProviderUsage.balanced_reserve hbalanced hfresh hcents)

/-- One turn of the loop over the grants keeps the state balanced. -/
theorem BudgetState.Balanced.reserveGrant {env : BudgetEnv} {s s' : BudgetState}
    {args : ReservationArgs} {grant : Dict} {grantId : String} (h : s.Balanced)
    (hcents : 0 ≤ args.cents) (hs : reserveGrant env s args grant = .ok (.reserved grantId s')) :
    s'.Balanced := by
  have husage : (ensureUsageEntry env s grant).account.Balanced := balanced_ensureUsageEntry h
  unfold Budget.reserveGrant at hs
  dsimp only at hs
  split at hs
  · exact absurd (Except.ok.inj hs) (by simp)
  · next hfresh =>
    obtain ⟨maxCostCents, -, hs⟩ := bind_eq_ok.mp hs
    split at hs
    · exact absurd (Except.ok.inj hs) (by simp)
    · obtain ⟨-, rfl⟩ := GrantStep.reserved.inj (Except.ok.inj hs)
      exact h.setGrant (GrantUsage.balanced_reserve husage hfresh hcents)

/-- Releasing keeps the state balanced. -/
theorem BudgetState.Balanced.release {s : BudgetState} (h : s.Balanced)
    (reservationId nowIso : String) :
    BudgetState.Balanced
      { s with
        grantUsage := s.grantUsage.mapValues (GrantUsage.release reservationId nowIso)
        providerBudgetUsage :=
          s.providerBudgetUsage.mapValues (ProviderUsage.release reservationId nowIso) } := by
  constructor
  · intro u hu
    obtain ⟨v, hv, rfl⟩ := OrderedDict.mem_values_mapValues hu
    rw [GrantUsage.account_release]
    exact (h.grants v hv).settle reservationId
  · intro u hu
    obtain ⟨v, hv, rfl⟩ := OrderedDict.mem_values_mapValues hu
    rw [ProviderUsage.account_release]
    exact (h.providers v hv).settle reservationId

/-- Finalizing keeps the state balanced. -/
theorem BudgetState.Balanced.finalize {s : BudgetState} (h : s.Balanced)
    {reservationId nowIso : String} {cost : FinalCost} {providers : OrderedDict String ProviderUsage}
    (hproviders : s.providerBudgetUsage.updateValues
      (ProviderUsage.finalize reservationId nowIso cost) = .ok providers)
    (summaries : List UsageSummary) :
    BudgetState.Balanced
      { s with
        grantUsage := s.grantUsage.mapValues (GrantUsage.finalize reservationId nowIso cost)
        providerBudgetUsage := providers
        pendingUsageSummaries := summaries } := by
  constructor
  · intro u hu
    obtain ⟨v, hv, rfl⟩ := OrderedDict.mem_values_mapValues hu
    rw [GrantUsage.account_finalize]
    exact (h.grants v hv).settle reservationId
  · intro u hu
    obtain ⟨v, hv, hfinalize⟩ := OrderedDict.mem_values_updateValues hproviders hu
    rw [ProviderUsage.account_finalize hfinalize]
    exact (h.providers v hv).settle reservationId

/-- Balance is an invariant of the manager. -/
theorem balancedInvariant : LedgerInvariant BudgetState.Balanced where
  congr := fun h hgrants hproviders =>
    ⟨fun u hu => h.grants u (hgrants ▸ hu), fun u hu => h.providers u (hproviders ▸ hu)⟩
  reserveProviderBudget := fun h hcents hs => h.reserveProviderBudget hcents hs
  reserveGrant := fun h hcents hs => h.reserveGrant hcents hs
  release := fun h reservationId nowIso => h.release reservationId nowIso
  finalize := fun h hproviders summaries => h.finalize hproviders summaries

/-- **The ledgers stay consistent** over every run of operations, each in an environment of its own:
whatever they return or raise, every entry reserves the sum of its reservations. -/
theorem consistent_after_operations {s : BudgetState} (hvalid : s.Valid) (h : s.Consistent)
    (ops : List (BudgetEnv × BudgetOp)) :
    ∃ s', storeAfter (ops.map fun op => op.2.action op.1) (some s) = some s' ∧ s'.Consistent := by
  have hstart : Sound BudgetState.Balanced (some s) :=
    ⟨s, rfl, hvalid, BudgetState.balanced_of_consistent hvalid h⟩
  obtain ⟨s', hs', -, hbalanced⟩ := balancedInvariant.sound_storeAfter hstart ops
  exact ⟨s', hs', hbalanced.consistent⟩

/-- An active policy with one grant of a dollar. -/
def samplePolicy : Value :=
  .dict
    [("node_id", .str "node-1"), ("service", .str "ai.inference"), ("status", .str "active"),
      ("governance_version", .str "1"), ("budget_policy_version", .str "1"),
      ("period_start", .str "2026-01-01"), ("period_end", .str "2026-01-31"),
      ("issued_at", .str "2026-01-01"),
      ("grants", .list
        [.dict
          [("grant_id", .str "g1"), ("consumer_node_id", .str "node-1"),
            ("service", .str "ai.inference"), ("period_start", .str "2026-01-01"),
            ("period_end", .str "2026-01-31"), ("status", .str "active"),
            ("scope_kind", .str "node"), ("subject_id", .str "node-1"),
            ("governance_version", .str "1"), ("budget_policy_version", .str "1"),
            ("issued_at", .str "2026-01-01"),
            ("limits", .dict [("max_cost_cents", .int 100)])]])]

/-- A store with that policy and an entry of an earlier period that holds a reservation. -/
def sampleState : BudgetState where
  budgetPolicy := samplePolicy
  grantUsage := OrderedDict.empty.set "g1"
    { grantId := "g1"
      periodStart := .str "2025-12-01"
      periodEnd := .str "2025-12-31"
      reservedCostCents := 30
      reservations := OrderedDict.empty.set "budget-reservation:t0"
        { reservationId := "budget-reservation:t0"
          taskId := "t0"
          reservedCostCents := 30
          createdAt := "2025-12-05" }
      updatedAt := "2025-12-05" }
  providerBudgetUsage := .empty
  recentDenials := []
  pendingUsageSummaries := []
  updatedAt := "2025-12-05"

/-- A day in the period of the grant, with a monthly provider budget. -/
def sampleEnv : BudgetEnv where
  nowIso := "2026-01-05"
  now := 5
  fromIsoFormat := fun _ => none
  periodWindow := fun _ => ("2026-01-01", "2026-01-31")
  providerBudgetLimits := .dict [("openai", .dict [("max_cost_cents", .int 500)])]

/-- A request that asks for forty cents. -/
def sampleRequest : TaskExecutionRequest where
  taskId := "t1"
  taskFamily := "task.chat"
  requestedBy := "ai.inference"
  constraints := [("max_cost_cents", .int 40)]
  traceId := "trace-1"

/-- A reservation, its repetition, the release of an unknown task and a finalization. -/
def sampleOps : List BudgetOp :=
  [.reserve "t1" sampleRequest "openai" "gpt" .null, .reserve "t1" sampleRequest "openai" "gpt" .null,
    .release "t0" "cancelled", .finalize "t1" none "completed"]

theorem consistent_after_sampleOps :
    ∃ s', storeAfter ((sampleOps.map fun op => (sampleEnv, op)).map fun op => op.2.action op.1)
      (some sampleState) = some s' ∧ s'.Consistent :=
  consistent_after_operations (by decide +kernel) (by decide +kernel) _

end Budget
end HexeAiNode
