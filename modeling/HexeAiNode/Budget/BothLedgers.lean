import HexeAiNode.Budget.LedgerConsistency
import HexeAiNode.Budget.Turns
import HexeAiNode.Budget.Validity

/-!
# One completion in both ledgers

A completed execution is priced twice.  A grant entry is charged whole cents: the known cost rounded up, or what was
reserved when the cost is unknown.  A provider entry is charged dollars: the known cost, kept to ten decimals, or
nothing when it is unknown, and then its reservation is only given back.  `both_ledgers_charged` says what each of
them gets; the two agree, up to the rounding to a cent, when the cost is known and has at most ten decimals.
-/

namespace HexeAiNode
namespace Budget

open Py Execution

variable {env : BudgetEnv} {s s' : BudgetState} {request : TaskExecutionRequest}
  {taskId providerId modelId key reservationId nowIso : String} {bundle : Value} {cost : FinalCost}

/-! ## Finalizing an entry -/

/-- A grant entry that holds the reservation of a completed execution. -/
theorem GrantUsage.finalize_eq {u : GrantUsage} {r : Reservation}
    (hget : u.reservations.get? reservationId = some r) (hcompleted : cost.completed = true) :
    u.finalize reservationId nowIso cost =
      { u with
        reservations := u.reservations.erase reservationId
        reservedCostCents := max (u.reservedCostCents - r.reservedCostCents) 0
        updatedAt := nowIso
        usedCostCents := u.usedCostCents + max (cost.applied r) 0
        usedRequests := u.usedRequests + 1
        usedTokens := u.usedTokens + totalTokensOf cost.metrics } := by
  unfold GrantUsage.finalize GrantUsage.release
  rw [hget]
  dsimp only
  rw [hcompleted]
  rfl

/-- A provider entry that holds the reservation of a completed execution. -/
theorem ProviderUsage.finalize_eq_ok {u u' : ProviderUsage} {r : Reservation}
    (hget : u.reservations.get? reservationId = some r) (hcompleted : cost.completed = true)
    (h : u.finalize reservationId nowIso cost = .ok u') :
    ∃ cents, ((normalizeFloat ((normalizeFloat u.usedCostUsdExact).add
        (finalCostUsdExact cost.metrics)).round10).scale 100).ceil = .ok cents ∧
      u' =
        { u with
          reservations := u.reservations.erase reservationId
          reservedCostCents := max (u.reservedCostCents - r.reservedCostCents) 0
          updatedAt := nowIso
          usedCostUsdExact :=
            ((normalizeFloat u.usedCostUsdExact).add (finalCostUsdExact cost.metrics)).round10
          usedCostCents := max cents 0 } := by
  unfold ProviderUsage.finalize ProviderUsage.release at h
  rw [hget] at h
  dsimp only at h
  rw [hcompleted, if_pos rfl] at h
  obtain ⟨cents, hcents, h⟩ := bind_eq_ok.mp h
  exact ⟨cents, hcents, (Except.ok.inj h).symm⟩

/-- A rounding up that succeeds rounds a number up. -/
theorem ceil_scale_eq_ok {x : FloatVal} {cents : ℤ} (h : (x.scale 100).ceil = .ok cents) :
    ∃ q, x = .finite q ∧ cents = ⌈q * 100⌉ := by
  rcases x with q | _ | _ | _
  · refine ⟨q, rfl, ?_⟩
    change (Value.floatOfRat (q * 100)).ceil = .ok cents at h
    unfold Value.floatOfRat at h
    split at h
    · cases h
    · split at h
      · cases h
      · exact (Except.ok.inj h).symm
  · cases h
  · cases h
  · cases h

theorem normalizeFloat_of_isNonneg {x : FloatVal} (h : x.isNonneg = true) : normalizeFloat x = x := by
  cases x with
  | finite q =>
    show (if q < 0 then FloatVal.finite 0 else .finite q) = .finite q
    rw [if_neg (not_lt.mpr (of_decide_eq_true h))]
  | posInf => rfl
  | negInf => cases h
  | nan => cases h

/-- A sum that is a number is the sum of two numbers. -/
theorem add_eq_finite {x y : FloatVal} {q : ℚ} (h : x.add y = .finite q) :
    ∃ a b, x = .finite a ∧ y = .finite b ∧ q = a + b := by
  rcases x with a | _ | _ | _ <;> rcases y with b | _ | _ | _
  case finite.finite =>
    refine ⟨a, b, rfl, rfl, ?_⟩
    change Value.floatOfRat (a + b) = .finite q at h
    unfold Value.floatOfRat at h
    split at h
    · cases h
    · split at h
      · cases h
      · exact (FloatVal.finite.inj h).symm
  all_goals cases h

theorem round10_eq_finite {x : FloatVal} {q : ℚ} (h : x.round10 = .finite q) :
    ∃ a, x = .finite a ∧ q = round10 a := by
  cases x with
  | finite a => exact ⟨a, rfl, (FloatVal.finite.inj h).symm⟩
  | _ => cases h

/-- **What a completion makes of a provider entry**: the amounts are numbers, and the sum is rounded. -/
theorem ProviderUsage.finalize_completed {u u' : ProviderUsage} {r : Reservation} (hu : u.Fields key)
    (hget : u.reservations.get? reservationId = some r) (hcompleted : cost.completed = true)
    (h : u.finalize reservationId nowIso cost = .ok u') :
    ∃ used q, u.usedCostUsdExact = .finite used ∧ 0 ≤ used ∧ finalCostUsdExact cost.metrics = .finite q ∧ 0 ≤ q ∧
      u' =
        { u with
          reservations := u.reservations.erase reservationId
          reservedCostCents := max (u.reservedCostCents - r.reservedCostCents) 0
          updatedAt := nowIso
          usedCostUsdExact := .finite (round10 (used + q))
          usedCostCents := ⌈round10 (used + q) * 100⌉ } := by
  obtain ⟨cents, hcents, rfl⟩ := ProviderUsage.finalize_eq_ok hget hcompleted h
  have hnonneg := isNonneg_round10 (isNonneg_add (isNonneg_normalizeFloat hu.usedCostUsdExact)
    (isNonneg_finalCostUsdExact cost.metrics))
  rw [normalizeFloat_of_isNonneg hnonneg] at hcents
  obtain ⟨total, htotal, rfl⟩ := ceil_scale_eq_ok hcents
  obtain ⟨sum, hsum, rfl⟩ := round10_eq_finite htotal
  obtain ⟨used, q, hused, hq, rfl⟩ := add_eq_finite hsum
  rw [normalizeFloat_of_isNonneg hu.usedCostUsdExact] at hused
  have hused0 := hu.usedCostUsdExact
  have hq0 := isNonneg_finalCostUsdExact cost.metrics
  rw [hused] at hused0
  rw [hq] at hq0
  have hused0 : 0 ≤ used := of_decide_eq_true hused0
  have hq0 : 0 ≤ q := of_decide_eq_true hq0
  refine ⟨used, q, hused, hused0, hq, hq0, ?_⟩
  have hceil : 0 ≤ ⌈round10 (used + q) * 100⌉ :=
    Int.ceil_nonneg (mul_nonneg (round10_nonneg (add_nonneg hused0 hq0)) (by norm_num))
  rw [htotal, max_eq_left hceil]

/-! ## Reserving in both ledgers -/

/-- A reservation under an active policy is held by the entry of every applied grant. -/
theorem held_by_grants {policy : Dict} {r : BudgetReservationResult}
    (heffect : ReserveEffect env taskId request providerId modelId bundle s (.ok r) s')
    (hpolicy : activePolicy bundle s = some policy) (hallowed : r.allowed = true) :
    ∀ grantId ∈ r.appliedGrantIds, ∃ u reservation, s'.grantUsage.get? grantId = some u ∧
      u.reservations.get? (reservationIdOf taskId) = some reservation ∧
      reservation.reservedCostCents = r.reservedCostCents := by
  cases heffect with
  | untouched hsame hnone => exact absurd (hnone r rfl hallowed).2.2 (by simp [hpolicy])
  | provider cents reserved hcents hnone => exact absurd hnone (by simp [hpolicy])
  | grants cents policy grants afterGrants reserved provider hcents _ hgrants hloop hreserved _ hsame _ _ hamount =>
    subst hamount
    obtain ⟨happlied, hturns⟩ := reserveGrants_eq_reserved_iff.mp hloop
    obtain ⟨providers, rfl⟩ := exists_providers_of_reserveProviderBudget hreserved
    intro grantId hgrantId
    rw [happlied, List.nil_append] at hgrantId
    obtain ⟨u, hu, hreservation⟩ := hturns.held hgrantId
    refine ⟨u, _, ?_, hreservation, rfl⟩
    rw [hsame.grants]
    exact hu

/-- A reservation for a provider with a budget is held by a provider entry. -/
theorem held_by_provider {settings : Dict} {r : BudgetReservationResult}
    (heffect : ReserveEffect env taskId request providerId modelId bundle s (.ok r) s')
    (hsettings : providerBudgetSettings env providerId = some settings) (hallowed : r.allowed = true) :
    ∃ v, s'.providerBudgetUsage.get? (providerUsageKey env providerId settings) = some v ∧
      v.reservations.contains (reservationIdOf taskId) = true := by
  rcases heffect.providers_cases with ⟨-, hnone⟩ | ⟨r', settings', usage, hr, -, hreserved⟩
  · rw [hnone r rfl hallowed] at hsettings
    cases hsettings
  · obtain rfl := Option.some.inj (hreserved.configured.symm.trans hsettings)
    refine ⟨usage.reserve (argsOf taskId providerId modelId r'.reservedCostCents) env.nowIso, ?_, ?_⟩
    · rw [hreserved.written]
      exact OrderedDict.get?_set_self _ _ _
    · show (OrderedDict.get? (usage.reservations.set (reservationIdOf taskId) _) _).isSome = true
      rw [OrderedDict.get?_set_self]
      rfl

/-! ## Completing -/

/-- A completion that returned has finalized every entry. -/
theorem exists_entries_of_completed {metrics : Option TaskExecutionMetrics} {result : FinalizeResult}
    {file : Option BudgetState} (hvalid : s.Valid)
    (hexec : (finalizeExecution env taskId metrics "completed").exec (some s) = (.ok result, file)) :
    ∃ s' cents, file = some s' ∧ finalCostCents metrics = .ok cents ∧
      (∀ grantId u, s.grantUsage.get? grantId = some u → s'.grantUsage.get? grantId =
        some (u.finalize (reservationIdOf taskId) env.nowIso (costOf "completed" metrics cents))) ∧
      ∀ key v, s.providerBudgetUsage.get? key = some v → ∃ v', s'.providerBudgetUsage.get? key = some v' ∧
        v.finalize (reservationIdOf taskId) env.nowIso (costOf "completed" metrics cents) = .ok v' := by
  obtain ⟨result', s', hexec', -, heffect, -⟩ := finalizeExecution_effect env taskId metrics "completed" hvalid
  obtain ⟨hresult, rfl⟩ := Prod.mk.inj (hexec'.symm.trans hexec)
  subst hresult
  cases heffect with
  | finalized result cents providers hcents hproviders hsame =>
    refine ⟨s', cents, rfl, hcents, fun grantId u hu => ?_, fun key v hv => ?_⟩
    · rw [hsame.grants]
      show (s.grantUsage.mapValues _).get? grantId = _
      rw [OrderedDict.get?_mapValues, hu]
      rfl
    · rcases get?_updateValues hproviders key with ⟨hnone, -⟩ | ⟨w, v', hw, hfinalize, hv'⟩
      · exact absurd (hv.symm.trans hnone) (by simp)
      · obtain rfl := Option.some.inj (hv.symm.trans hw)
        refine ⟨v', ?_, hfinalize⟩
        rw [hsame.providers]
        exact hv'

/-- The cents added to a grant entry are the dollars added to a provider entry, rounded up to a cent. -/
def ChargedAlike (s s' : BudgetState) (grantId key : String) : Prop :=
  ∀ u u' v v' used used', s.grantUsage.get? grantId = some u → s'.grantUsage.get? grantId = some u' →
    s.providerBudgetUsage.get? key = some v → s'.providerBudgetUsage.get? key = some v' →
    v.usedCostUsdExact = .finite used → v'.usedCostUsdExact = .finite used' →
    u'.usedCostCents - u.usedCostCents = ⌈(used' - used) * 100⌉

/-- What a completion with the given metrics charges to a grant entry and to a provider entry that hold its
reservation. -/
structure Charged (metrics : Option TaskExecutionMetrics) (reservationId : String) (reservation : Reservation)
    (u u' : GrantUsage) (v v' : ProviderUsage) : Prop where
  released : v'.reservations.contains reservationId = false
  known : ∀ q, metrics.bind TaskExecutionMetrics.estimatedCost = some (.finite q) → 0 ≤ q →
    u'.usedCostCents = u.usedCostCents + ⌈q * 100⌉ ∧ ∃ used, v.usedCostUsdExact = .finite used ∧
      v'.usedCostUsdExact = .finite (round10 (used + q))
  unknown : metrics.bind TaskExecutionMetrics.estimatedCost = none →
    u'.usedCostCents = u.usedCostCents + reservation.reservedCostCents ∧ ∃ used, v.usedCostUsdExact = .finite used ∧
      v'.usedCostUsdExact = .finite (round10 used)

/-- The cost of a completion in cents, for a known cost. -/
theorem finalCostCents_of_known {metrics : Option TaskExecutionMetrics} {cents : Option ℤ} {q : ℚ}
    (hcost : metrics.bind TaskExecutionMetrics.estimatedCost = some (.finite q)) (hq : 0 ≤ q)
    (h : finalCostCents metrics = .ok cents) : cents = some ⌈q * 100⌉ := by
  unfold finalCostCents at h
  rw [hcost] at h
  obtain ⟨c, hc, h⟩ := bind_eq_ok.mp h
  obtain ⟨q', hq', rfl⟩ := ceil_scale_eq_ok hc
  obtain rfl := FloatVal.finite.inj hq'
  obtain rfl := Except.ok.inj h
  rw [max_eq_left (Int.ceil_nonneg (mul_nonneg hq (by norm_num)))]

/-- The exact cost of a completion, for a known cost. -/
theorem finalCostUsdExact_of_known {metrics : Option TaskExecutionMetrics} {q : ℚ}
    (hcost : metrics.bind TaskExecutionMetrics.estimatedCost = some (.finite q)) (hq : 0 ≤ q) :
    finalCostUsdExact metrics = .finite q := by
  unfold finalCostUsdExact
  rw [hcost]
  exact if_pos (decide_eq_true hq)

theorem of_unknown {metrics : Option TaskExecutionMetrics}
    (hcost : metrics.bind TaskExecutionMetrics.estimatedCost = none) :
    finalCostCents metrics = .ok none ∧ finalCostUsdExact metrics = .finite 0 := by
  unfold finalCostCents finalCostUsdExact
  rw [hcost]
  exact ⟨rfl, rfl⟩

/-- **One completion**, in a grant entry and in a provider entry that hold its reservation. -/
theorem charged_of_completed {metrics : Option TaskExecutionMetrics} {cents : Option ℤ} {grantId : String}
    {u : GrantUsage} {v v' : ProviderUsage} {reservation : Reservation} (hu : u.Fields grantId) (hv : v.Fields key)
    (hcents : finalCostCents metrics = .ok cents)
    (hreservation : u.reservations.get? reservationId = some reservation)
    (hheld : v.reservations.contains reservationId = true)
    (hv' : v.finalize reservationId nowIso (costOf "completed" metrics cents) = .ok v') :
    Charged metrics reservationId reservation u
      (u.finalize reservationId nowIso (costOf "completed" metrics cents)) v v' := by
  obtain ⟨reservation', hreservation'⟩ := Option.isSome_iff_exists.mp hheld
  obtain ⟨used, q, hused, -, hq, -, rfl⟩ := ProviderUsage.finalize_completed hv hreservation' rfl hv'
  rw [GrantUsage.finalize_eq hreservation rfl]
  refine ⟨?_, fun known hknown hpos => ⟨?_, used, hused, ?_⟩, fun hunknown => ⟨?_, used, hused, ?_⟩⟩
  · show ((v.reservations.erase reservationId).get? reservationId).isSome = false
    rw [OrderedDict.get?_erase_self]
    rfl
  · show u.usedCostCents + max ((costOf "completed" metrics cents).applied reservation) 0 = _
    rw [finalCostCents_of_known hknown hpos hcents]
    show u.usedCostCents + max ⌈known * 100⌉ 0 = _
    rw [max_eq_left (Int.ceil_nonneg (mul_nonneg hpos (by norm_num)))]
  · obtain rfl := FloatVal.finite.inj ((finalCostUsdExact_of_known hknown hpos).symm.trans hq)
    rfl
  · show u.usedCostCents + max ((costOf "completed" metrics cents).applied reservation) 0 = _
    obtain rfl := Except.ok.inj ((of_unknown hunknown).1.symm.trans hcents)
    show u.usedCostCents + max reservation.reservedCostCents 0 = _
    rw [max_eq_left (nonneg_of_reservationsError hu.reservations reservation
      (OrderedDict.mem_values_of_get? hreservation))]
  · obtain rfl := FloatVal.finite.inj ((of_unknown hunknown).2.symm.trans hq)
    rw [add_zero]

/-- A known cost with ten decimals is charged alike. -/
theorem Charged.alike {metrics : Option TaskExecutionMetrics} {reservation : Reservation} {u u' : GrantUsage}
    {v v' : ProviderUsage} {q used used' : ℚ} (h : Charged metrics reservationId reservation u u' v v')
    (hcost : metrics.bind TaskExecutionMetrics.estimatedCost = some (.finite q)) (hpos : 0 ≤ q)
    (hq : TenDecimals q) (hdecimals : TenDecimals used) (hused : v.usedCostUsdExact = .finite used)
    (hused' : v'.usedCostUsdExact = .finite used') :
    u'.usedCostCents - u.usedCostCents = ⌈(used' - used) * 100⌉ := by
  obtain ⟨hcents, before, hbefore, hafter⟩ := h.known q hcost hpos
  obtain rfl := FloatVal.finite.inj (hbefore.symm.trans hused)
  obtain rfl := FloatVal.finite.inj (hafter.symm.trans hused')
  rw [hcents, (hdecimals.add hq).round10_eq]
  ring_nf

/-- What a reservation of forty cents ends with. -/
def sampleReservation : Except Exc BudgetReservationResult × Option BudgetState :=
  (reserveExecution sampleEnv "t1" sampleRequest "openai" "gpt" .null).exec (some sampleState)

/-- What its completion with an unknown cost ends with. -/
def sampleCompletion : Except Exc FinalizeResult × Option BudgetState :=
  (finalizeExecution sampleEnv "t1" none "completed").exec sampleReservation.2

/-- The result of the reservation. -/
def sampleReservationResult : BudgetReservationResult :=
  { allowed := true, reservationId := some "budget-reservation:t1", reservedCostCents := 40
    appliedGrantIds := ["g1"], policyStatus := some "active" }

theorem sampleReservation_result : sampleReservation.1 = .ok sampleReservationResult := by decide +kernel

theorem sampleCompletion_result :
    sampleCompletion.1 = .ok { finalized := [("g1", 40)], providerFinalized := [("openai", 0)] } := by
  decide +kernel

/-- What a file says was used of the grant and of the provider. -/
def sampleUsed (file : Option BudgetState) : Option ℤ × Option FloatVal :=
  ((file.bind fun t => t.grantUsage.get? "g1").map GrantUsage.usedCostCents,
    (file.bind fun t => t.providerBudgetUsage.get? "openai:monthly:2026-01-01").map
      ProviderUsage.usedCostUsdExact)

theorem sampleUsed_reservation : sampleUsed sampleReservation.2 = (some 0, some (.finite 0)) := by
  decide +kernel

/-- The completion charges forty cents to the grant and nothing to the provider. -/
theorem sampleUsed_completion : sampleUsed sampleCompletion.2 = (some 40, some (.finite 0)) := by
  decide +kernel

theorem valid_sampleReservation : sampleReservation.2.map (fun t => decide t.Valid) = some true := by
  decide +kernel

/-- The policy of the sample state. -/
theorem exists_activePolicy_sampleState : ∃ policy, activePolicy .null sampleState = some policy :=
  Option.isSome_iff_exists.mp (by decide +kernel)

/-- The entries of a file that say what was used. -/
theorem exists_entries_of_sampleUsed {cents : ℤ} {used : FloatVal}
    (h : sampleUsed (some s) = (some cents, some used)) :
    ∃ u v, s.grantUsage.get? "g1" = some u ∧
      s.providerBudgetUsage.get? "openai:monthly:2026-01-01" = some v ∧ u.usedCostCents = cents ∧
      v.usedCostUsdExact = used := by
  obtain ⟨hu, hv⟩ := Prod.mk.inj h
  obtain ⟨u, hu, hcents⟩ := Option.map_eq_some_iff.mp hu
  obtain ⟨v, hv, hused⟩ := Option.map_eq_some_iff.mp hv
  exact ⟨u, v, hu, hv, hcents, hused⟩

end Budget
end HexeAiNode
