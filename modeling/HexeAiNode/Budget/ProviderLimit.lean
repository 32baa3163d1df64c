import HexeAiNode.Budget.LedgerConsistency
import HexeAiNode.Budget.Turns
import HexeAiNode.Budget.Validity

/-!
# The configured limit of a provider

The limit of a provider budget is copied into the entry of a period when the entry is made, and the check of a
reservation and the status view read it from there.  So the configured limit governs exactly while the entry of
the present period, if there is one, carries it (`configured_limit_governs`), and a limit that is lowered or
raised inside a period takes effect with the next one.
-/

namespace HexeAiNode
namespace Budget

open Py Execution
open StoreAction (storeAfter)

variable {env : BudgetEnv} {s s' : BudgetState} {providerId key : String} {settings : Dict} {limit : ℤ}

/-! ## The status view -/

/-- `_provider_budget_status_entry`: the entry for the present period, or what a new one would show. -/
def providerBudgetStatusEntry (env : BudgetEnv) (state : BudgetState) (providerId : String) (settings : Dict) :
    Except Exc ProviderUsage :=
  match state.providerBudgetUsage.get? (providerUsageKey env providerId settings) with
  | some usage => .ok usage
  | none => do
    let limit ← (Dict.get settings "max_cost_cents").toIntOr 0
    let period := budgetPeriod settings
    .ok
      { providerId := providerId
        period := period
        periodStart := (env.periodWindow period).1
        periodEnd := (env.periodWindow period).2
        budgetLimitCents := limit
        reservations := .empty
        updatedAt := if state.updatedAt = "" then env.nowIso else state.updatedAt }

/-- `_provider_budget_used_cost_cents`. -/
def ProviderUsage.usedCents (u : ProviderUsage) : Except Exc ℤ :=
  if u.usedUsdExact.isPos then do
    let cents ← (u.usedUsdExact.scale 100).ceil
    .ok (max cents 0)
  else .ok (max u.usedCostCents 0)

/-- `x - y`. -/
def floatSub (x : FloatVal) : FloatVal → FloatVal
  | .finite q => x.add (.finite (-q))
  | .posInf => x.add .negInf
  | .negInf => x.add .posInf
  | .nan => .nan

/-- An item of `provider_budgets` in `status_payload`. -/
structure ProviderBudgetStatus where
  providerId : String
  period : String
  periodStart : String
  periodEnd : String
  budgetLimitCents : ℤ
  usedCostCents : ℤ
  usedCostUsdExact : FloatVal
  reservedCostCents : ℤ
  remainingCostCents : ℤ
  budgetLimitUsdExact : FloatVal
  remainingCostUsdExact : FloatVal

/-- The item of an entry. -/
def ProviderUsage.status (u : ProviderUsage) : Except Exc ProviderBudgetStatus := do
  let usedCents ← u.usedCents
  let limitUsd ← (Value.int u.budgetLimitCents).toFloat
  let reservedUsd ← (Value.int u.reservedCostCents).toFloat
  .ok
    { providerId := u.providerId
      period := u.period
      periodStart := u.periodStart
      periodEnd := u.periodEnd
      budgetLimitCents := u.budgetLimitCents
      usedCostCents := usedCents
      usedCostUsdExact := u.usedUsdExact
      reservedCostCents := u.reservedCostCents
      remainingCostCents := max (u.budgetLimitCents - usedCents - u.reservedCostCents) 0
      budgetLimitUsdExact := (limitUsd.scale (1 / 100)).round10
      remainingCostUsdExact :=
        (normalizeFloat (floatSub (floatSub (limitUsd.scale (1 / 100)) u.usedUsdExact)
          (reservedUsd.scale (1 / 100)))).round10 }

/-- `provider_budgets` in `status_payload`. -/
def providerBudgetsStatus (env : BudgetEnv) (state : BudgetState) :
    Except Exc (List ProviderBudgetStatus) :=
  (providerBudgetSettingsMap env).mapM fun provider => do
    let usage ← providerBudgetStatusEntry env state provider.1 provider.2
    usage.status

/-- The limit of an item is that of its entry. -/
theorem ProviderUsage.budgetLimitCents_status {u : ProviderUsage} {item : ProviderBudgetStatus}
    (h : u.status = .ok item) : item.budgetLimitCents = u.budgetLimitCents := by
  obtain ⟨usedCents, -, h⟩ := bind_eq_ok.mp h
  obtain ⟨limitUsd, -, h⟩ := bind_eq_ok.mp h
  obtain ⟨reservedUsd, -, h⟩ := bind_eq_ok.mp h
  obtain rfl := Except.ok.inj h
  rfl

/-- The status view shows the limit for the provider. -/
def ReportsLimit (env : BudgetEnv) (s : BudgetState) (providerId : String) (settings : Dict) (limit : ℤ) : Prop :=
  ∃ usage, providerBudgetStatusEntry env s providerId settings = .ok usage ∧ usage.budgetLimitCents = limit

/-- **The payload has an item** with the reported limit for every provider with a budget. -/
theorem ReportsLimit.exists_item (h : ReportsLimit env s providerId settings limit)
    (hprovider : (providerId, settings) ∈ providerBudgetSettingsMap env) {report : List ProviderBudgetStatus}
    (hreport : providerBudgetsStatus env s = .ok report) :
    ∃ usage item, providerBudgetStatusEntry env s providerId settings = .ok usage ∧ usage.status = .ok item ∧
      item ∈ report ∧ item.budgetLimitCents = limit := by
  obtain ⟨usage, husage, hlimit⟩ := h
  obtain ⟨item, hitem, hstatus⟩ := exists_mem_of_mapM_eq_ok hreport hprovider
  obtain ⟨usage', husage', hstatus⟩ := bind_eq_ok.mp hstatus
  obtain rfl := Except.ok.inj (husage.symm.trans husage')
  exact ⟨usage, item, husage, hstatus, hitem, (ProviderUsage.budgetLimitCents_status hstatus).trans hlimit⟩

/-! ## The check of a reservation -/

/-- The new reservation fits under the limit beside what the entry of the present period has used and
reserves. -/
def WithinLimit (s : BudgetState) (key : String) (cents limit : ℤ) : Prop :=
  match s.providerBudgetUsage.get? key with
  | some u => ∃ used, u.usedUsdExact.scale 100 = .finite used ∧ used + u.reservedCostCents + cents ≤ limit
  | none => cents ≤ limit

/-- What an entry has used is a number that is not negative. -/
theorem usedUsdExact_cases {u : ProviderUsage} (h : u.Fields key) :
    (∃ q, 0 ≤ q ∧ u.usedUsdExact = .finite q) ∨ u.usedUsdExact = .posInf := by
  unfold ProviderUsage.usedUsdExact
  split
  · have hnonneg := h.usedCostUsdExact
    rcases hused : u.usedCostUsdExact with q | _ | _ | _ <;> rw [hused] at hnonneg
    · exact Or.inl ⟨round10 q, round10_nonneg (of_decide_eq_true hnonneg), rfl⟩
    · exact Or.inr rfl
    · cases hnonneg
    · cases hnonneg
  · have hcents : (0 : ℚ) ≤ u.usedCostCents := by exact_mod_cast h.usedCostCents
    exact Or.inl ⟨_, round10_nonneg (by positivity), rfl⟩

/-- An entry that is not exhausted has room for the reservation. -/
theorem le_of_not_exhaustedBy {u : ProviderUsage} {cents : ℤ}
    (h : (∃ q, 0 ≤ q ∧ u.usedUsdExact = .finite q) ∨ u.usedUsdExact = .posInf)
    (henough : u.exhaustedBy cents = false) :
    ∃ used, 0 ≤ used ∧ u.usedUsdExact.scale 100 = .finite used ∧
      used + u.reservedCostCents + cents ≤ u.budgetLimitCents := by
  unfold ProviderUsage.exhaustedBy at henough
  rcases h with ⟨q, hq, hused⟩ | hused
  · have hnonneg := isNonneg_floatOfRat (mul_nonneg hq (by norm_num : (0 : ℚ) ≤ 100))
    have hscale : (FloatVal.finite q).scale 100 = Value.floatOfRat (q * 100) := rfl
    rw [hused, hscale] at henough ⊢
    rcases hscaled : Value.floatOfRat (q * 100) with used | _ | _ | _ <;> rw [hscaled] at henough hnonneg
    · have hroom := of_decide_eq_false henough
      exact ⟨used, of_decide_eq_true hnonneg, rfl, by linarith⟩
    · cases henough
    · cases hnonneg
    · cases hnonneg
  · rw [hused] at henough
    cases henough

/-- A new entry has used nothing. -/
theorem usedUsdExact_of_fresh {u : ProviderUsage} (hexact : u.usedCostUsdExact = .finite 0)
    (hcents : u.usedCostCents = 0) : u.usedUsdExact = .finite 0 := by
  unfold ProviderUsage.usedUsdExact
  rw [hexact, hcents, if_neg (by simp [FloatVal.isPos]), Int.cast_zero, zero_div, round10_zero]

/-- **The configured limit governs** the provider: reservations that are allowed stay within it, and the status
view shows it. -/
structure ConfiguredLimitGoverns (env : BudgetEnv) (s : BudgetState) (providerId : String) (settings : Dict)
    (limit : ℤ) : Prop where
  allowed : ∀ taskId request modelId bundle r s',
    (reserveExecution env taskId request providerId modelId bundle).exec (some s) = (.ok r, s') →
    r.allowed = true → WithinLimit s (providerUsageKey env providerId settings) r.reservedCostCents limit
  reported : ReportsLimit env s providerId settings limit

/-- The entry of the present period, if there is one, carries the limit. -/
def EntryCarries (env : BudgetEnv) (s : BudgetState) (providerId : String) (settings : Dict) (limit : ℤ) : Prop :=
  ∀ u, s.providerBudgetUsage.get? (providerUsageKey env providerId settings) = some u → u.budgetLimitCents = limit

/-- The entry a reservation works on: the one that is there, or a new one with the configured limit. -/
theorem ensureProviderBudgetUsageEntry_cases {usage : ProviderUsage}
    (h : ensureProviderBudgetUsageEntry env s providerId settings = .ok usage) :
    s.providerBudgetUsage.get? (providerUsageKey env providerId settings) = some usage ∨
      s.providerBudgetUsage.get? (providerUsageKey env providerId settings) = none ∧
        (Dict.get settings "max_cost_cents").toIntOr 0 = .ok usage.budgetLimitCents ∧
        usage.usedCostUsdExact = .finite 0 ∧ usage.usedCostCents = 0 ∧ usage.reservedCostCents = 0 ∧
        usage.reservations = .empty := by
  unfold ensureProviderBudgetUsageEntry at h
  split at h
  · next usage' hget =>
    obtain rfl := Except.ok.inj h
    exact Or.inl hget
  · next hget =>
    obtain ⟨limit, hlimit, h⟩ := bind_eq_ok.mp h
    have h := Except.ok.inj h
    refine Or.inr ⟨hget, ?_⟩
    rw [hlimit, ← h]
    exact ⟨rfl, rfl, rfl, rfl, rfl⟩

/-- The configured limit governs in a valid state when the entry carries it. -/
theorem configuredLimitGoverns_iff (hvalid : s.Valid)
    (hsettings : providerBudgetSettings env providerId = some settings)
    (hlimit : (Dict.get settings "max_cost_cents").toIntOr 0 = .ok limit) :
    ConfiguredLimitGoverns env s providerId settings limit ↔ EntryCarries env s providerId settings limit := by
  constructor
  · intro h u hu
    obtain ⟨usage, husage, hreported⟩ := h.reported
    unfold providerBudgetStatusEntry at husage
    rw [hu] at husage
    obtain rfl := Except.ok.inj husage
    exact hreported
  · intro hcarries
    constructor
    · intro taskId request modelId bundle r file hexec hallowed
      obtain ⟨result, s', hexec', -, heffect⟩ :=
        reserveExecution_effect env taskId request providerId modelId bundle hvalid
      obtain ⟨rfl, -⟩ := Prod.mk.inj (hexec'.symm.trans hexec)
      rcases heffect.providers_cases with ⟨-, hnone⟩ | ⟨r', settings', usage, hr, -, hreserved⟩
      · rw [hnone r rfl hallowed] at hsettings
        cases hsettings
      obtain rfl := Except.ok.inj hr
      obtain rfl := Option.some.inj (hreserved.configured.symm.trans hsettings)
      unfold WithinLimit
      rcases ensureProviderBudgetUsageEntry_cases hreserved.entry with
        hget | ⟨hget, hfresh, hexact, hcents, hreservedCents, -⟩
      · change s.providerBudgetUsage.get? (providerUsageKey env providerId settings') = some usage at hget
        obtain ⟨used, -, hused, hroom⟩ :=
          le_of_not_exhaustedBy (usedUsdExact_cases (hvalid.providerFields hget)) hreserved.enough
        rw [hget]
        rw [hcarries usage hget] at hroom
        exact ⟨used, hused, hroom⟩
      · change s.providerBudgetUsage.get? (providerUsageKey env providerId settings') = none at hget
        obtain ⟨used, hused, -, hroom⟩ :=
          le_of_not_exhaustedBy (Or.inl ⟨0, le_refl 0, usedUsdExact_of_fresh hexact hcents⟩) hreserved.enough
        have hlimit := Except.ok.inj (hfresh.symm.trans hlimit)
        rw [hget]
        rw [hlimit, hreservedCents] at hroom
        have hroom : (r.reservedCostCents : ℚ) ≤ limit := by
          have hzero : ((0 : ℤ) : ℚ) = 0 := Int.cast_zero
          rw [hzero] at hroom
          exact (le_add_of_nonneg_left (by linarith)).trans hroom
        exact_mod_cast hroom
    · unfold ReportsLimit providerBudgetStatusEntry
      rcases hget : s.providerBudgetUsage.get? (providerUsageKey env providerId settings) with _ | u
      · dsimp only
        rw [hlimit]
        exact ⟨_, rfl, rfl⟩
      · exact ⟨u, rfl, hcarries u hget⟩

/-! ## Runs -/

/-- The limits configured in the environment, for the entries they are copied into. -/
def BudgetEnv.ConfiguresLimits (env : BudgetEnv) (limits : String → ℤ) : Prop :=
  ∀ providerId settings, providerBudgetSettings env providerId = some settings →
    (Dict.get settings "max_cost_cents").toIntOr 0 = .ok (limits (providerUsageKey env providerId settings))

/-- Every entry carries its limit. -/
def FollowsLimits (limits : String → ℤ) (s : BudgetState) : Prop :=
  ∀ key u, s.providerBudgetUsage.get? key = some u → u.budgetLimitCents = limits key

variable {limits : String → ℤ}

theorem ProviderUsage.budgetLimitCents_release (reservationId nowIso : String) (u : ProviderUsage) :
    (u.release reservationId nowIso).budgetLimitCents = u.budgetLimitCents := by
  unfold ProviderUsage.release
  split <;> rfl

theorem ProviderUsage.budgetLimitCents_finalize {reservationId nowIso : String} {cost : FinalCost}
    {u u' : ProviderUsage} (h : u.finalize reservationId nowIso cost = .ok u') :
    u'.budgetLimitCents = u.budgetLimitCents := by
  unfold ProviderUsage.finalize at h
  split at h
  · obtain rfl := Except.ok.inj h
    rfl
  · have hrelease := ProviderUsage.budgetLimitCents_release reservationId nowIso u
    dsimp only at h
    split at h
    · obtain ⟨cents, -, h⟩ := bind_eq_ok.mp h
      obtain rfl := Except.ok.inj h
      exact hrelease
    · obtain rfl := Except.ok.inj h
      exact hrelease

/-- **One access** leaves every entry with its limit. -/
theorem FollowsLimits.step {op : BudgetOp} (hs : FollowsLimits limits s) (henv : env.ConfiguresLimits limits)
    (h : OpEffect env op s s') : FollowsLimits limits s' := by
  have hsame : SameLedgers s s' → FollowsLimits limits s' := by
    intro hsame key u hu
    rw [hsame.providers] at hu
    exact hs key u hu
  cases h with
  | reserve result heffect =>
    rcases heffect.providers_cases with ⟨hproviders, -⟩ | ⟨r, settings, usage, -, -, hreserved⟩
    · intro key u hu
      rw [hproviders] at hu
      exact hs key u hu
    · intro key u hu
      rw [hreserved.written, OrderedDict.get?_set] at hu
      split at hu
      · next hkey =>
        obtain rfl := Option.some.inj hu
        show usage.budgetLimitCents = limits key
        rw [hkey]
        rcases ensureProviderBudgetUsageEntry_cases hreserved.entry with hget | ⟨-, hlimit, -⟩
        · exact hs _ usage hget
        · exact Except.ok.inj (hlimit.symm.trans (henv _ settings hreserved.configured))
      · exact hs key u hu
  | finalize result heffect =>
    cases heffect with
    | raised e => exact hs
    | finalized result cents providers hcents hproviders hsame =>
      intro key u hu
      rw [hsame.providers] at hu
      rcases get?_updateValues hproviders key with ⟨-, hnone⟩ | ⟨v, v', hv, hfinalize, hv'⟩
      · exact absurd (hu.symm.trans hnone) (by simp)
      · obtain rfl := Option.some.inj (hv'.symm.trans hu)
        exact (ProviderUsage.budgetLimitCents_finalize hfinalize).trans (hs key v hv)
  | release hreleased =>
    intro key u hu
    rw [hreleased.providers] at hu
    change (s.providerBudgetUsage.mapValues _).get? key = some u at hu
    rw [OrderedDict.get?_mapValues, Option.map_eq_some_iff] at hu
    obtain ⟨v, hv, rfl⟩ := hu
    exact (ProviderUsage.budgetLimitCents_release _ _ v).trans (hs key v hv)
  | cachePolicy h => exact hsame h
  | storeFetchedPolicy h => exact hsame h

/-- The settings of a provider with a budget. -/
theorem providerBudgetSettings_of_mem (h : (providerId, settings) ∈ providerBudgetSettingsMap env) :
    providerBudgetSettings env providerId = some settings := by
  obtain ⟨hdistinct, hspec⟩ := providerBudgetSettingsMap_spec env
  obtain ⟨hstrip, -, hlimit⟩ := hspec _ h
  unfold providerBudgetSettings
  rw [hstrip, Assoc.get?_of_mem hdistinct h, Option.filter_some, if_pos (by rw [hlimit]; rfl)]

/-- The settings of the provider in the sample environment. -/
def sampleSettings (maxCostCents : ℤ) : Dict := [("max_cost_cents", .int maxCostCents)]

theorem sampleEnv_configuresLimits : sampleEnv.ConfiguresLimits fun _ => 500 := by
  intro providerId settings h
  have hmap : providerBudgetSettingsMap sampleEnv = [("openai", sampleSettings 500)] := rfl
  have hmem := Assoc.mem_of_get? (Option.filter_eq_some_iff.mp h).1
  rw [hmap] at hmem
  obtain ⟨-, rfl⟩ := Prod.mk.inj (List.mem_singleton.mp hmem)
  rfl

/-- The sample environment after the limit was lowered to ten cents. -/
def loweredEnv : BudgetEnv := { sampleEnv with
  providerBudgetLimits := .dict [("openai", .dict (sampleSettings 10))] }

/-- The first reservation of the period, before the limit was lowered. -/
def beforeLowering : List (BudgetEnv × BudgetOp) :=
  [(sampleEnv, .reserve "t1" sampleRequest "openai" "gpt" .null)]

end Budget
end HexeAiNode
