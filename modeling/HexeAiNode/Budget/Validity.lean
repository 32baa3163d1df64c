import HexeAiNode.Budget.Operations
import HexeAiNode.Python.Rounding

/-!
# Saved states are valid

Every state an operation of the manager is about to save passes `validate_budget_state`, when the loaded
state does: reserving writes entries and reservations whose fields pass (`BudgetState.Valid.reserveGrant`,
`BudgetState.Valid.reserveProviderBudget`), and finalizing adds amounts that are not negative
(`BudgetState.Valid.finalized`).
-/

namespace HexeAiNode
namespace Budget

open Py Execution

variable {env : BudgetEnv} {s s' : BudgetState} {args : ReservationArgs} {key reservationId nowIso : String}

/-! ## Fields -/

/-- A text passes when it has a character that is not white space. -/
theorem isNonEmptyString_str_iff {text : String} :
    isNonEmptyString (.str text) = true ↔ ∃ c ∈ text.toList, isSpace c = false := by
  have hblank : strip text = "" ↔ ∀ c ∈ text.toList, isSpace c = true := by
    rw [← String.toList_inj, toList_strip]
    show List.rdropWhile isSpace (text.toList.dropWhile isSpace) = [] ↔ _
    rw [List.rdropWhile_eq_nil_iff]
    constructor
    · intro h
      by_contra hne
      have hdrop : text.toList.dropWhile isSpace ≠ [] := fun hnil => hne (List.dropWhile_eq_nil_iff.mp hnil)
      have hhead := List.head_dropWhile_not isSpace hdrop
      rw [h _ (List.head_mem hdrop)] at hhead
      cases hhead
    · intro h c hc
      rw [List.dropWhile_eq_nil_iff.mpr h] at hc
      exact absurd hc List.not_mem_nil
  show (strip text != "") = true ↔ _
  rw [bne_iff_ne, Ne, hblank]
  simp

/-- The fields of a grant entry that are checked. -/
structure GrantUsage.Fields (key : String) (u : GrantUsage) : Prop where
  key : isNonEmptyString (.str key) = true
  grantId : isNonEmptyString (.str u.grantId) = true
  periodStart : isNonEmptyString u.periodStart = true
  periodEnd : isNonEmptyString u.periodEnd = true
  updatedAt : isNonEmptyString (.str u.updatedAt) = true
  usedCostCents : 0 ≤ u.usedCostCents
  usedRequests : 0 ≤ u.usedRequests
  usedTokens : 0 ≤ u.usedTokens
  reservedCostCents : 0 ≤ u.reservedCostCents
  reservations : reservationsError "invalid_grant_usage" u.reservations = none

theorem GrantUsage.fields_iff {u : GrantUsage} : u.Fields key ↔ u.error key = none := by
  simp only [GrantUsage.error, Option.orElse_eq_orElse, Option.orElse_eq_or, Option.or_eq_none_iff,
    firstError_eq_none_iff, List.forall_mem_cons, List.not_mem_nil, decide_eq_true_eq]
  constructor
  · rintro ⟨h₁, h₂, h₃, h₄, h₅, h₆, h₇, h₈, h₉, h₁₀⟩
    exact ⟨⟨h₁, h₂, h₃, h₄, h₅, h₆, h₇, h₈, h₉, fun _ h => h.elim⟩, h₁₀⟩
  · rintro ⟨⟨h₁, h₂, h₃, h₄, h₅, h₆, h₇, h₈, h₉, -⟩, h₁₀⟩
    exact ⟨h₁, h₂, h₃, h₄, h₅, h₆, h₇, h₈, h₉, h₁₀⟩

/-- The fields of a provider entry that are checked. -/
structure ProviderUsage.Fields (key : String) (u : ProviderUsage) : Prop where
  key : isNonEmptyString (.str key) = true
  providerId : isNonEmptyString (.str u.providerId) = true
  period : isNonEmptyString (.str u.period) = true
  periodStart : isNonEmptyString (.str u.periodStart) = true
  periodEnd : isNonEmptyString (.str u.periodEnd) = true
  updatedAt : isNonEmptyString (.str u.updatedAt) = true
  usedCostCents : 0 ≤ u.usedCostCents
  reservedCostCents : 0 ≤ u.reservedCostCents
  usedCostUsdExact : u.usedCostUsdExact.isNonneg = true
  reservations : reservationsError "invalid_provider_budget_usage" u.reservations = none

theorem ProviderUsage.fields_iff {u : ProviderUsage} : u.Fields key ↔ u.error key = none := by
  simp only [ProviderUsage.error, Option.orElse_eq_orElse, Option.orElse_eq_or, Option.or_eq_none_iff,
    firstError_eq_none_iff, List.forall_mem_cons, List.not_mem_nil, decide_eq_true_eq]
  constructor
  · rintro ⟨h₁, h₂, h₃, h₄, h₅, h₆, h₇, h₈, h₉, h₁₀⟩
    exact ⟨⟨h₁, h₂, h₃, h₄, h₅, h₆, h₇, h₈, h₉, fun _ h => h.elim⟩, h₁₀⟩
  · rintro ⟨⟨h₁, h₂, h₃, h₄, h₅, h₆, h₇, h₈, h₉, -⟩, h₁₀⟩
    exact ⟨h₁, h₂, h₃, h₄, h₅, h₆, h₇, h₈, h₉, h₁₀⟩

/-- An entry of a written dictionary is the new one or an old one. -/
theorem mem_entries_set {α : Type} {d : OrderedDict String α} {k k' : String} {a b : α}
    (h : (k', b) ∈ (d.set k a).entries) : (k' = k ∧ b = a) ∨ (k', b) ∈ d.entries := by
  have hget := OrderedDict.get?_of_mem_entries h
  rw [OrderedDict.get?_set] at hget
  split at hget
  · next hk => exact Or.inl ⟨hk, (Option.some.inj hget).symm⟩
  · exact Or.inr (Assoc.mem_of_get? hget)

theorem reservationsError_empty (ledger : String) : reservationsError ledger .empty = none := rfl

/-- What is reserved has the fields that are checked. -/
structure ReservationArgs.Fits (args : ReservationArgs) : Prop where
  reservationId : isNonEmptyString (.str args.reservationId) = true
  taskId : isNonEmptyString (.str args.taskId) = true
  cents : 0 ≤ args.cents

theorem reservationsError_set {ledger : String} {reservations : Reservations} (env : BudgetEnv)
    (hargs : args.Fits) (h : reservationsError ledger reservations = none) :
    reservationsError ledger (reservations.set args.reservationId (args.record env.nowIso)) = none := by
  unfold reservationsError at h ⊢
  rw [List.findSome?_eq_none_iff] at h ⊢
  rintro ⟨k, r⟩ hmem
  rcases mem_entries_set hmem with ⟨rfl, rfl⟩ | hmem
  · unfold Reservation.error
    rw [firstError_eq_none_iff]
    simp only [List.forall_mem_cons, List.not_mem_nil, decide_eq_true_eq]
    exact ⟨hargs.reservationId, hargs.reservationId, hargs.taskId, env.nowIso_nonEmpty, hargs.cents,
      fun _ h => h.elim⟩
  · exact h _ hmem

/-! ## Reserving -/

theorem GrantUsage.Fields.reserve {u : GrantUsage} (h : u.Fields key) (hargs : args.Fits) (env : BudgetEnv) :
    (u.reserve args env.nowIso).Fields key where
  key := h.key
  grantId := h.grantId
  periodStart := h.periodStart
  periodEnd := h.periodEnd
  updatedAt := env.nowIso_nonEmpty
  usedCostCents := h.usedCostCents
  usedRequests := h.usedRequests
  usedTokens := h.usedTokens
  reservedCostCents := by
    have hreserved := h.reservedCostCents
    have hcents := hargs.cents
    show 0 ≤ u.reservedCostCents + args.cents
    omega
  reservations := reservationsError_set env hargs h.reservations

theorem ProviderUsage.Fields.reserve {u : ProviderUsage} (h : u.Fields key) (hargs : args.Fits)
    (env : BudgetEnv) : (u.reserve args env.nowIso).Fields key where
  key := h.key
  providerId := h.providerId
  period := h.period
  periodStart := h.periodStart
  periodEnd := h.periodEnd
  updatedAt := env.nowIso_nonEmpty
  usedCostCents := h.usedCostCents
  reservedCostCents := by
    have hreserved := h.reservedCostCents
    have hcents := hargs.cents
    show 0 ≤ u.reservedCostCents + args.cents
    omega
  usedCostUsdExact := h.usedCostUsdExact
  reservations := reservationsError_set env hargs h.reservations

theorem BudgetState.Valid.fields {u : GrantUsage} (h : s.Valid) (hget : s.grantUsage.get? key = some u) :
    u.Fields key := GrantUsage.fields_iff.mpr (h.grants (key, u) (Assoc.mem_of_get? hget))

theorem BudgetState.Valid.providerFields {u : ProviderUsage} (h : s.Valid)
    (hget : s.providerBudgetUsage.get? key = some u) : u.Fields key :=
  ProviderUsage.fields_iff.mpr (h.providers (key, u) (Assoc.mem_of_get? hget))

/-- A valid state in which a grant entry was written. -/
theorem BudgetState.Valid.setGrant {u : GrantUsage} (h : s.Valid) (hu : u.Fields key) :
    (s.setGrant key u).Valid where
  policy := h.policy
  grants := by
    rintro ⟨k, v⟩ hmem
    rcases mem_entries_set hmem with ⟨rfl, rfl⟩ | hmem
    · exact GrantUsage.fields_iff.mp hu
    · exact h.grants _ hmem
  providers := h.providers
  denials := h.denials
  summaries := h.summaries
  updatedAt := h.updatedAt

theorem BudgetState.Valid.setProvider {u : ProviderUsage} (h : s.Valid) (hu : u.Fields key) :
    BudgetState.Valid { s with providerBudgetUsage := s.providerBudgetUsage.set key u } where
  policy := h.policy
  grants := h.grants
  providers := by
    rintro ⟨k, v⟩ hmem
    rcases mem_entries_set hmem with ⟨rfl, rfl⟩ | hmem
    · exact ProviderUsage.fields_iff.mp hu
    · exact h.providers _ hmem
  denials := h.denials
  summaries := h.summaries
  updatedAt := h.updatedAt

/-- A stripped text that is not blank passes. -/
theorem isNonEmptyString_strip {text : String} (h : isNonEmptyString (.str text) = true) :
    isNonEmptyString (.str (strip text)) = true := by
  show (strip (strip text) != "") = true
  rw [strip_strip]
  exact h

theorem isNonEmptyString_normalizeString {v : Value} (h : isNonEmptyString v = true) :
    isNonEmptyString (.str v.normalizeString) = true := by
  cases v with
  | str text =>
    rw [Value.normalizeString_str]
    exact isNonEmptyString_strip h
  | _ => cases h

/-- What validation asks of a grant, as far as an entry copies it. -/
structure GrantFits (grant : Dict) : Prop where
  grantId : isNonEmptyString (Dict.get grant "grant_id") = true
  periodStart : isNonEmptyString (Dict.get grant "period_start") = true
  periodEnd : isNonEmptyString (Dict.get grant "period_end") = true

/-- A grant of a policy that is accepted. -/
theorem grantFits_of_mem {policy : Dict} {grants : List Value} {grant : Dict}
    (hpolicy : validateBudgetPolicy (.dict policy) = none) (hgrants : Dict.get policy "grants" = .list grants)
    (hmem : .dict grant ∈ grants) : GrantFits grant := by
  unfold validateBudgetPolicy at hpolicy
  dsimp only at hpolicy
  rw [hgrants, Option.orElse_eq_orElse, Option.orElse_eq_or, Option.or_eq_none_iff] at hpolicy
  obtain ⟨index, hindex, hget⟩ := List.getElem_of_mem hmem
  have hnone := List.findSome?_eq_none_iff.mp hpolicy.2 (.dict grant, index) ?_
  · unfold grantError at hnone
    dsimp only at hnone
    rw [firstError_eq_none_iff] at hnone
    simp only [requiredStrings, List.map_cons, List.map_nil, List.cons_append, List.nil_append,
      List.forall_mem_cons] at hnone
    exact ⟨hnone.1, hnone.2.2.2.1, hnone.2.2.2.2.1⟩
  · rw [List.mem_zipIdx_iff_getElem?]
    simp [hget, hindex]

theorem ensureUsageEntry_fields {grant : Dict} (h : s.Valid) (hgrant : GrantFits grant) :
    (ensureUsageEntry env s grant).Fields (Dict.get grant "grant_id").normalizeString := by
  have hid := isNonEmptyString_normalizeString hgrant.grantId
  have hfresh : ∀ grantId, isNonEmptyString (.str grantId) = true → GrantUsage.Fields
      (Dict.get grant "grant_id").normalizeString
      { grantId := grantId, periodStart := Dict.get grant "period_start",
        periodEnd := Dict.get grant "period_end", reservations := .empty, updatedAt := env.nowIso } :=
    fun grantId hgrantId => ⟨hid, hgrantId, hgrant.periodStart, hgrant.periodEnd, env.nowIso_nonEmpty,
      le_refl 0, le_refl 0, le_refl 0, le_refl 0, rfl⟩
  unfold ensureUsageEntry
  dsimp only
  split
  · exact hfresh _ hid
  · next usage hget =>
    have hfields := h.fields hget
    split
    · exact hfields
    · exact hfresh _ hfields.grantId

/-- Reserving in a grant entry keeps the state valid. -/
theorem BudgetState.Valid.reserveGrant {grant : Dict} {grantId : String} (h : s.Valid) (hargs : args.Fits)
    (hgrant : GrantFits grant) (hs : reserveGrant env s args grant = .ok (.reserved grantId s')) :
    s'.Valid := by
  unfold Budget.reserveGrant at hs
  dsimp only at hs
  split at hs
  · exact absurd (Except.ok.inj hs) (by simp)
  · obtain ⟨maxCostCents, -, hs⟩ := bind_eq_ok.mp hs
    split at hs
    · exact absurd (Except.ok.inj hs) (by simp)
    · obtain ⟨-, rfl⟩ := GrantStep.reserved.inj (Except.ok.inj hs)
      exact h.setGrant ((ensureUsageEntry_fields h hgrant).reserve hargs env)

/-- And so does the loop over the grants. -/
theorem BudgetState.Valid.reserveGrants {grants : List Dict} {applied applied' : List String} (h : s.Valid)
    (hargs : args.Fits) (hgrants : ∀ grant ∈ grants, GrantFits grant)
    (hs : reserveGrants env args grants applied s = .ok (.reserved applied' s')) : s'.Valid := by
  induction grants generalizing applied s with
  | nil =>
    obtain ⟨-, rfl⟩ := GrantsOutcome.reserved.inj (Except.ok.inj hs)
    exact h
  | cons grant grants ih =>
    obtain ⟨step, hstep, hs⟩ := bind_eq_ok.mp hs
    rcases step with ⟨reason, state⟩ | ⟨grantId, state⟩
    · exact absurd (Except.ok.inj hs) (by simp)
    · exact ih (h.reserveGrant hargs (hgrants grant List.mem_cons_self) hstep)
        (fun g hg => hgrants g (List.mem_cons_of_mem _ hg)) hs

/-- The bounds of a period are texts that are not blank. -/
def BudgetEnv.WindowFits (env : BudgetEnv) : Prop :=
  ∀ period, isNonEmptyString (.str (env.periodWindow period).1) = true ∧
    isNonEmptyString (.str (env.periodWindow period).2) = true

/-- The providers with a budget: each once, under its stripped id, with a limit. -/
theorem providerBudgetSettingsMap_spec (env : BudgetEnv) :
    Assoc.Distinct (providerBudgetSettingsMap env) ∧
      ∀ e ∈ providerBudgetSettingsMap env,
        strip e.1 = e.1 ∧ e.1 ≠ "" ∧ (Dict.get e.2 "max_cost_cents").isNull = false := by
  unfold providerBudgetSettingsMap
  refine List.foldlRecOn (motive := fun settingsMap : List (String × Dict) => Assoc.Distinct settingsMap ∧
    ∀ e ∈ settingsMap, strip e.1 = e.1 ∧ e.1 ≠ "" ∧ (Dict.get e.2 "max_cost_cents").isNull = false) _ _
    ⟨Assoc.distinct_nil, fun e he => absurd he List.not_mem_nil⟩ fun settingsMap ih entry _ => ?_
  dsimp only
  split
  · next settings _ =>
    split
    · exact ih
    · next hkept =>
      rw [not_or] at hkept
      have hdistinct := ih.1.set (strip entry.1) settings
      refine ⟨hdistinct, fun e he => ?_⟩
      have hget := Assoc.get?_of_mem hdistinct he
      rw [Assoc.get?_set] at hget
      split at hget
      · next hkey =>
        obtain rfl := Option.some.inj hget
        rw [hkey]
        exact ⟨strip_strip _, hkept.1, Bool.eq_false_iff.mpr hkept.2⟩
      · exact ih.2 e (Assoc.mem_of_get? hget)
  · exact ih

/-- A provider with a budget has an id that is not blank. -/
theorem isNonEmptyString_of_providerBudgetSettings {providerId : String} {settings : Dict}
    (h : providerBudgetSettings env providerId = some settings) :
    isNonEmptyString (.str providerId) = true := by
  have hget := (Option.filter_eq_some_iff.mp h).1
  show (strip providerId != "") = true
  rw [bne_iff_ne]
  exact ((providerBudgetSettingsMap_spec env).2 _ (Assoc.mem_of_get? hget)).2.1

theorem isNonEmptyString_budgetPeriod (settings : Dict) :
    isNonEmptyString (.str (budgetPeriod settings)) = true := by
  unfold budgetPeriod
  dsimp only
  split
  · decide
  · next hperiod =>
    show (strip _ != "") = true
    rw [Value.strip_normalizeLower, bne_iff_ne]
    exact hperiod

theorem isNonEmptyString_providerUsageKey (env : BudgetEnv) {providerId : String}
    (h : isNonEmptyString (.str providerId) = true) (settings : Dict) :
    isNonEmptyString (.str (providerUsageKey env providerId settings)) = true := by
  obtain ⟨c, hc, hspace⟩ := isNonEmptyString_str_iff.mp h
  refine isNonEmptyString_str_iff.mpr ⟨c, ?_, hspace⟩
  unfold providerUsageKey
  simp only [String.toList_append, List.mem_append]
  simp [hc]

theorem ensureProviderBudgetUsageEntry_fields {providerId : String} {settings : Dict} {u : ProviderUsage}
    (h : s.Valid) (hwindow : env.WindowFits) (hprovider : isNonEmptyString (.str providerId) = true)
    (hu : ensureProviderBudgetUsageEntry env s providerId settings = .ok u) :
    u.Fields (providerUsageKey env providerId settings) := by
  unfold ensureProviderBudgetUsageEntry at hu
  split at hu
  · next usage hget =>
    obtain rfl := Except.ok.inj hu
    exact h.providerFields hget
  · obtain ⟨limit, -, hu⟩ := bind_eq_ok.mp hu
    have hperiod := isNonEmptyString_budgetPeriod settings
    have hkey := isNonEmptyString_providerUsageKey env hprovider settings
    dsimp only at hu
    obtain rfl := Except.ok.inj hu
    generalize providerUsageKey env providerId settings = key at hkey
    generalize budgetPeriod settings = period at hperiod
    exact
      { key := hkey
        providerId := hprovider
        period := hperiod
        periodStart := (hwindow _).1
        periodEnd := (hwindow _).2
        updatedAt := env.nowIso_nonEmpty
        usedCostCents := le_refl 0
        reservedCostCents := le_refl 0
        usedCostUsdExact := decide_eq_true (le_refl (0 : ℚ))
        reservations := rfl }

/-- Reserving a provider budget keeps the state valid. -/
theorem BudgetState.Valid.reserveProviderBudget {result : Option ProviderBudgetResult} (h : s.Valid)
    (hwindow : env.WindowFits) (hargs : args.Fits)
    (hs : reserveProviderBudget env s args = .ok (result, s')) : s'.Valid := by
  unfold Budget.reserveProviderBudget at hs
  split at hs
  · obtain ⟨-, rfl⟩ := Prod.mk.inj (Except.ok.inj hs)
    exact h
  · next settings hsettings =>
    have hprovider := isNonEmptyString_of_providerBudgetSettings hsettings
    obtain ⟨usage, husage, hs⟩ := bind_eq_ok.mp hs
    have hfields := ensureProviderBudgetUsageEntry_fields h hwindow hprovider husage
    dsimp only at hs
    split at hs
    · obtain ⟨-, rfl⟩ := Prod.mk.inj (Except.ok.inj hs)
      exact h.setProvider hfields
    · split at hs
      · obtain ⟨-, rfl⟩ := Prod.mk.inj (Except.ok.inj hs)
        exact h.setProvider hfields
      · obtain ⟨-, rfl⟩ := Prod.mk.inj (Except.ok.inj hs)
        exact h.setProvider (hfields.reserve hargs env)

/-! ## Finalizing -/

theorem GrantUsage.Fields.release {u : GrantUsage} (h : u.Fields key) (reservationId : String)
    (hnow : isNonEmptyString (.str nowIso) = true) : (u.release reservationId nowIso).Fields key :=
  fields_iff.mpr (GrantUsage.error_release hnow (fields_iff.mp h))

theorem ProviderUsage.Fields.release {u : ProviderUsage} (h : u.Fields key) (reservationId : String)
    (hnow : isNonEmptyString (.str nowIso) = true) : (u.release reservationId nowIso).Fields key :=
  fields_iff.mpr (ProviderUsage.error_release hnow (fields_iff.mp h))

/-- Finalizing a grant entry adds amounts that are not negative. -/
theorem GrantUsage.Fields.finalize {u : GrantUsage} {cost : FinalCost} (h : u.Fields key)
    (htokens : 0 ≤ totalTokensOf cost.metrics) (hnow : isNonEmptyString (.str nowIso) = true) :
    (u.finalize reservationId nowIso cost).Fields key := by
  unfold GrantUsage.finalize
  split
  · exact h
  · next r hget =>
    have hreleased := h.release reservationId hnow
    dsimp only
    split
    · refine ⟨hreleased.key, hreleased.grantId, hreleased.periodStart, hreleased.periodEnd,
        hreleased.updatedAt, ?_, ?_, ?_, hreleased.reservedCostCents, hreleased.reservations⟩
      · have hcost : (0 : ℤ) ≤ max (cost.applied r) 0 := le_max_right _ _
        have hused := hreleased.usedCostCents
        exact Int.add_nonneg hused hcost
      · exact Int.add_nonneg hreleased.usedRequests (by decide)
      · exact Int.add_nonneg hreleased.usedTokens htokens
    · exact hreleased

theorem isNonneg_round10 {x : FloatVal} (h : x.isNonneg = true) : x.round10.isNonneg = true := by
  cases x with
  | finite q => exact decide_eq_true (round10_nonneg (of_decide_eq_true h))
  | _ => exact h

theorem isNonneg_floatOfRat {q : ℚ} (h : 0 ≤ q) : (Value.floatOfRat q).isNonneg = true := by
  have hoverflow : (0 : ℚ) < Value.floatOverflow := by
    unfold Value.floatOverflow
    exact sub_pos.mpr (pow_lt_pow_right₀ one_lt_two (by decide))
  unfold Value.floatOfRat
  split
  · rfl
  · rw [if_neg (by linarith)]
    exact decide_eq_true h

theorem isNonneg_add {x y : FloatVal} (hx : x.isNonneg = true) (hy : y.isNonneg = true) :
    (x.add y).isNonneg = true := by
  rcases x with q | _ | _ | _
  · rcases y with q' | _ | _ | _
    · exact isNonneg_floatOfRat (add_nonneg (of_decide_eq_true hx) (of_decide_eq_true hy))
    · rfl
    all_goals cases hy
  · rcases y with q' | _ | _ | _
    · rfl
    · rfl
    all_goals cases hy
  all_goals cases hx

theorem isNonneg_normalizeFloat {x : FloatVal} (h : x.isNonneg = true) : (normalizeFloat x).isNonneg = true := by
  cases x with
  | finite q =>
    have hq : 0 ≤ q := of_decide_eq_true h
    show (if q < 0 then FloatVal.finite 0 else .finite q).isNonneg = true
    rw [if_neg (not_lt.mpr hq)]
    exact h
  | posInf => exact h
  | negInf => rfl
  | nan => exact h

theorem isNonneg_finalCostUsdExact (metrics : Option TaskExecutionMetrics) :
    (finalCostUsdExact metrics).isNonneg = true := by
  unfold finalCostUsdExact
  split
  · rfl
  · split
    · next h => exact h
    · rfl

/-- Finalizing a provider entry adds an amount that is not negative. -/
theorem ProviderUsage.Fields.finalize {u u' : ProviderUsage} {cost : FinalCost} (h : u.Fields key)
    (hnow : isNonEmptyString (.str nowIso) = true)
    (hu : u.finalize reservationId nowIso cost = .ok u') : u'.Fields key := by
  unfold ProviderUsage.finalize at hu
  split at hu
  · obtain rfl := Except.ok.inj hu
    exact h
  · have hreleased := h.release reservationId hnow
    dsimp only at hu
    split at hu
    · obtain ⟨cents, -, hu⟩ := bind_eq_ok.mp hu
      obtain rfl := Except.ok.inj hu
      refine ⟨hreleased.key, hreleased.providerId, hreleased.period, hreleased.periodStart,
        hreleased.periodEnd, hreleased.updatedAt, le_max_right _ _, hreleased.reservedCostCents, ?_,
        hreleased.reservations⟩
      exact isNonneg_round10 (isNonneg_add (isNonneg_normalizeFloat h.usedCostUsdExact)
        (isNonneg_finalCostUsdExact cost.metrics))
    · obtain rfl := Except.ok.inj hu
      exact hreleased

/-- A summary copies fields that have passed. -/
theorem GrantUsage.Fields.summary {u : GrantUsage} (h : u.Fields key)
    (hnow : isNonEmptyString (.str nowIso) = true) : (u.summary nowIso).error = none := by
  unfold UsageSummary.error
  rw [firstError_eq_none_iff]
  simp only [List.forall_mem_cons, List.not_mem_nil]
  exact ⟨isNonEmptyString_strip h.grantId, h.periodStart, h.periodEnd,
    (by decide : isNonEmptyString (.str "ai.inference") = true), hnow, fun _ h => h.elim⟩

/-- A finalized state is valid. -/
theorem BudgetState.Valid.finalized {cost : FinalCost} {providers : OrderedDict String ProviderUsage}
    (h : s.Valid) (htokens : 0 ≤ totalTokensOf cost.metrics)
    (hproviders : s.providerBudgetUsage.updateValues
      (ProviderUsage.finalize reservationId env.nowIso cost) = .ok providers) :
    (s.finalized env reservationId cost providers).Valid where
  policy := h.policy
  grants := by
    rintro ⟨k, u⟩ hmem
    obtain ⟨⟨k', v⟩, hv, hentry⟩ := List.mem_map.mp hmem
    obtain ⟨rfl, rfl⟩ := Prod.mk.inj hentry
    exact GrantUsage.fields_iff.mp ((GrantUsage.fields_iff.mpr (h.grants _ hv)).finalize htokens env.nowIso_nonEmpty)
  providers := by
    rintro ⟨k, u⟩ hmem
    have hget := OrderedDict.get?_of_mem_entries hmem
    rcases get?_updateValues hproviders k with ⟨-, hnone⟩ | ⟨v, u', hv, hfinalize, hu'⟩
    · rw [show providers.get? k = some u from hget] at hnone
      cases hnone
    · rw [show providers.get? k = some u from hget] at hu'
      obtain rfl := Option.some.inj hu'
      exact ProviderUsage.fields_iff.mp ((h.providerFields hv).finalize env.nowIso_nonEmpty hfinalize)
  denials := h.denials
  summaries := by
    intro d hd
    rcases List.mem_append.mp hd with hd | hd
    · exact h.summaries d hd
    · unfold summariesOf at hd
      split at hd
      · obtain ⟨u, hu, rfl⟩ := List.mem_map.mp hd
        obtain ⟨⟨k, v⟩, hmem, rfl⟩ := List.mem_map.mp (List.mem_filter.mp hu).1
        have hfields := GrantUsage.fields_iff.mpr (h.grants _ hmem)
        exact (hfields.finalize htokens env.nowIso_nonEmpty).summary env.nowIso_nonEmpty
      · exact absurd hd List.not_mem_nil
  updatedAt := env.nowIso_nonEmpty

end Budget
end HexeAiNode
