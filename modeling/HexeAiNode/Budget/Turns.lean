import HexeAiNode.Budget.Operations

/-!
# What a reservation writes

When every grant was reserved, the loop over the grants has had one turn for each of them, in order: in its turn
the entry of the grant does not hold the reservation yet and has enough left, and is written back with the
reservation (`Turn`).  `reserveGrants_eq_reserved_iff` says that this is all the loop does, and the facts after it
follow a list of turns from the first state to the last.

A reservation that was allowed has also reserved the provider budget, if the provider has one
(`ProviderReserved`).  `ReserveEffect.grants_cases` and `ReserveEffect.providers_cases` say what this makes of the
two ledgers.
-/

namespace HexeAiNode
namespace Budget

open Py Execution

variable {env : BudgetEnv} {s s' t : BudgetState} {args : ReservationArgs} {grant : Dict}
  {grants grants' : List Dict} {key : String}

/-- The key of the entry of a grant. -/
def grantIdOf (grant : Dict) : String := (Dict.get grant "grant_id").normalizeString

/-- `limits.max_cost_cents` of a grant. -/
def maxCostCentsOf (grant : Dict) : Except Exc ℤ := (getNested grant "limits" "max_cost_cents").toIntOr 0

/-- One turn of the loop that reserves a grant. -/
structure Turn (env : BudgetEnv) (args : ReservationArgs) (grant : Dict) (s s' : BudgetState) : Prop where
  fresh : (ensureUsageEntry env s grant).reservations.contains args.reservationId = false
  enough : ∃ maxCostCents, maxCostCentsOf grant = .ok maxCostCents ∧
    (0 < maxCostCents → args.cents ≤ maxCostCents - (ensureUsageEntry env s grant).usedCostCents -
      (ensureUsageEntry env s grant).reservedCostCents)
  written : s' = s.setGrant (grantIdOf grant) ((ensureUsageEntry env s grant).reserve args env.nowIso)

theorem reserveGrant_eq_reserved_iff {grantId : String} :
    reserveGrant env s args grant = .ok (.reserved grantId s') ↔
      grantId = grantIdOf grant ∧ Turn env args grant s s' := by
  constructor
  · intro h
    unfold reserveGrant at h
    dsimp only at h
    split at h
    · exact absurd (Except.ok.inj h) (by simp)
    · next hfresh =>
      obtain ⟨maxCostCents, hmax, h⟩ := bind_eq_ok.mp h
      split at h
      · exact absurd (Except.ok.inj h) (by simp)
      · next henough =>
        obtain ⟨rfl, rfl⟩ := GrantStep.reserved.inj (Except.ok.inj h)
        refine ⟨rfl, Bool.eq_false_iff.mpr hfresh, ⟨maxCostCents, hmax, fun hpos => ?_⟩, rfl⟩
        by_contra hless
        exact henough ⟨hpos, not_le.mp hless⟩
  · rintro ⟨rfl, hfresh, ⟨maxCostCents, hmax, henough⟩, rfl⟩
    unfold maxCostCentsOf at hmax
    unfold reserveGrant
    dsimp only
    rw [hfresh, if_neg Bool.false_ne_true, hmax]
    show (if _ then _ else _) = _
    rw [if_neg fun hless => absurd (henough hless.1) (not_le.mpr hless.2)]
    rfl

/-- The turns of a list of grants, one after the other. -/
def Turns (env : BudgetEnv) (args : ReservationArgs) : List Dict → BudgetState → BudgetState → Prop
  | [], s, s' => s' = s
  | grant :: grants, s, s' => ∃ t, Turn env args grant s t ∧ Turns env args grants t s'

/-- **The loop reserved every grant** when each has had its turn. -/
theorem reserveGrants_eq_reserved_iff {applied applied' : List String} :
    reserveGrants env args grants applied s = .ok (.reserved applied' s') ↔
      applied' = applied ++ grants.map grantIdOf ∧ Turns env args grants s s' := by
  induction grants generalizing applied s with
  | nil =>
    show Except.ok (GrantsOutcome.reserved applied s) = _ ↔ _
    rw [Except.ok.injEq, GrantsOutcome.reserved.injEq, List.map_nil, List.append_nil]
    exact and_congr eq_comm eq_comm
  | cons grant grants ih =>
    constructor
    · intro h
      obtain ⟨step, hstep, h⟩ := bind_eq_ok.mp h
      rcases step with ⟨reason, state⟩ | ⟨grantId, state⟩
      · exact absurd (Except.ok.inj h) (by simp)
      · obtain ⟨rfl, hturn⟩ := reserveGrant_eq_reserved_iff.mp hstep
        obtain ⟨rfl, hturns⟩ := ih.mp h
        exact ⟨by rw [List.append_assoc]; rfl, state, hturn, hturns⟩
    · rintro ⟨rfl, state, hturn, hturns⟩
      refine bind_eq_ok.mpr ⟨.reserved (grantIdOf grant) state, reserveGrant_eq_reserved_iff.mpr ⟨rfl, hturn⟩, ?_⟩
      exact ih.mpr ⟨by rw [List.append_assoc]; rfl, hturns⟩

namespace Turns

theorem append : Turns env args (grants ++ grants') s s' ↔
    ∃ t, Turns env args grants s t ∧ Turns env args grants' t s' := by
  induction grants generalizing s with
  | nil =>
    constructor
    · exact fun h => ⟨s, rfl, h⟩
    · rintro ⟨t, rfl, h⟩
      exact h
  | cons grant grants ih =>
    constructor
    · rintro ⟨t, hturn, h⟩
      obtain ⟨t', hturns, h⟩ := ih.mp h
      exact ⟨t', ⟨t, hturn, hturns⟩, h⟩
    · rintro ⟨t', ⟨t, hturn, hturns⟩, h⟩
      exact ⟨t, hturn, ih.mpr ⟨t', hturns, h⟩⟩

/-- What every turn keeps, all of them keep. -/
theorem keep {I : BudgetState → Prop} (h : Turns env args grants s s')
    (hturn : ∀ grant ∈ grants, ∀ t t', I t → Turn env args grant t t' → I t') (hs : I s) : I s' := by
  induction grants generalizing s with
  | nil =>
    obtain rfl := h
    exact hs
  | cons grant grants ih =>
    obtain ⟨t, hfirst, hrest⟩ := h
    exact ih hrest (fun g hg => hturn g (List.mem_cons_of_mem _ hg))
      (hturn grant List.mem_cons_self s t hs hfirst)

/-- The provider entries and the summaries are not touched. -/
theorem others (h : Turns env args grants s s') :
    s'.providerBudgetUsage = s.providerBudgetUsage ∧
      s'.pendingUsageSummaries = s.pendingUsageSummaries := by
  refine h.keep (I := fun t => t.providerBudgetUsage = s.providerBudgetUsage ∧
    t.pendingUsageSummaries = s.pendingUsageSummaries) ?_ ⟨rfl, rfl⟩
  rintro grant - t t' ht hturn
  rw [hturn.written]
  exact ht

/-- Entries of other grants are not touched. -/
theorem get?_of_notMem (h : Turns env args grants s s') (hkey : key ∉ grants.map grantIdOf) :
    s'.grantUsage.get? key = s.grantUsage.get? key := by
  refine h.keep (I := fun t => t.grantUsage.get? key = s.grantUsage.get? key) ?_ rfl
  intro grant hgrant t t' ht hturn
  have hne : key ≠ grantIdOf grant := by
    rintro rfl
    exact hkey (List.mem_map_of_mem hgrant)
  rw [hturn.written]
  show (t.grantUsage.set (grantIdOf grant) _).get? key = _
  rw [OrderedDict.get?_set_of_ne _ _ hne, ht]

/-- **The entry of every grant holds the reservation** after the turns. -/
theorem held (h : Turns env args grants s s') (hkey : key ∈ grants.map grantIdOf) :
    ∃ u, s'.grantUsage.get? key = some u ∧
      u.reservations.get? args.reservationId = some (args.record env.nowIso) := by
  induction grants generalizing s with
  | nil => exact absurd hkey List.not_mem_nil
  | cons grant grants ih =>
    obtain ⟨t, hturn, hrest⟩ := h
    by_cases hlater : key ∈ grants.map grantIdOf
    · exact ih hrest hlater
    · obtain rfl : key = grantIdOf grant := (List.mem_cons.mp hkey).resolve_right hlater
      refine ⟨(ensureUsageEntry env s grant).reserve args env.nowIso, ?_, ?_⟩
      · rw [hrest.get?_of_notMem hlater, hturn.written]
        exact OrderedDict.get?_set_self _ _ _
      · exact OrderedDict.get?_set_self _ _ _

end Turns

/-! ## The provider budget -/

/-- The provider budget was reserved: its entry for the present period does not hold the reservation yet, has
enough left, and is written back with the reservation. -/
structure ProviderReserved (env : BudgetEnv) (args : ReservationArgs) (settings : Dict) (usage : ProviderUsage)
    (s s' : BudgetState) : Prop where
  configured : providerBudgetSettings env args.providerId = some settings
  entry : ensureProviderBudgetUsageEntry env s args.providerId settings = .ok usage
  fresh : usage.reservations.contains args.reservationId = false
  enough : usage.exhaustedBy args.cents = false
  written : s'.providerBudgetUsage = s.providerBudgetUsage.set
    (providerUsageKey env args.providerId settings) (usage.reserve args env.nowIso)

theorem exists_providerReserved (h : reserveProviderBudget env s args = .ok (some ⟨true, none⟩, s')) :
    ∃ settings usage, ProviderReserved env args settings usage s s' := by
  unfold reserveProviderBudget at h
  split at h
  · exact absurd (Prod.mk.inj (Except.ok.inj h)).1 (by simp)
  · next settings hsettings =>
    obtain ⟨usage, husage, h⟩ := bind_eq_ok.mp h
    dsimp only at h
    split at h
    · exact absurd (Prod.mk.inj (Except.ok.inj h)).1 (by simp)
    · next hfresh =>
      split at h
      · exact absurd (Prod.mk.inj (Except.ok.inj h)).1 (by simp)
      · next henough =>
        obtain ⟨-, rfl⟩ := Prod.mk.inj (Except.ok.inj h)
        exact ⟨settings, usage, hsettings, husage, Bool.eq_false_iff.mpr hfresh, Bool.eq_false_iff.mpr henough, rfl⟩

/-! ## The ledgers after a reservation -/

section Effect

variable {request : TaskExecutionRequest} {taskId providerId modelId : String} {bundle : Value}
  {result : Except Exc BudgetReservationResult}

/-- The grant entries are those from before, or every applicable grant has had its turn. -/
theorem ReserveEffect.grants_cases
    (h : ReserveEffect env taskId request providerId modelId bundle s result s') :
    s'.grantUsage = s.grantUsage ∨
      ∃ cents policy grants t, 0 ≤ cents ∧ activePolicy bundle s = some policy ∧
        applicableGrants env policy request providerId = .ok grants ∧
        Turns env (argsOf taskId providerId modelId cents) grants (workingState bundle s) t ∧
        s'.grantUsage = t.grantUsage := by
  cases h with
  | untouched hsame _ => exact Or.inl hsame.grants
  | provider cents reserved hcents hpolicy hreserved hsame =>
    obtain ⟨providers, rfl⟩ := exists_providers_of_reserveProviderBudget hreserved
    exact Or.inl (hsame.grants.trans (sameLedgers_workingState bundle s).grants)
  | grants cents policy grants afterGrants reserved provider hcents hpolicy hgrants hloop hreserved _ hsame =>
    obtain ⟨providers, rfl⟩ := exists_providers_of_reserveProviderBudget hreserved
    exact Or.inr ⟨cents, policy, grants, afterGrants, hcents, hpolicy, hgrants,
      (reserveGrants_eq_reserved_iff.mp hloop).2, hsame.grants⟩

/-- The provider entries are those from before, or the provider budget was reserved. -/
theorem ReserveEffect.providers_cases
    (h : ReserveEffect env taskId request providerId modelId bundle s result s') :
    (s'.providerBudgetUsage = s.providerBudgetUsage ∧
      ∀ r, result = .ok r → r.allowed = true → providerBudgetSettings env providerId = none) ∨
      ∃ r settings usage, result = .ok r ∧ 0 ≤ r.reservedCostCents ∧
        ProviderReserved env (argsOf taskId providerId modelId r.reservedCostCents) settings usage s s' := by
  cases h with
  | untouched hsame hresult => exact Or.inl ⟨hsame.providers, fun r hr hallowed => (hresult r hr hallowed).2.1⟩
  | @provider r _ cents reserved hcents hpolicy hreserved hsame hallowed happlied hid hamount =>
    obtain ⟨settings, usage, hprovider⟩ := exists_providerReserved hreserved
    subst hamount
    have hwork := (sameLedgers_workingState bundle s).providers
    refine Or.inr ⟨r, settings, usage, rfl, hcents, hprovider.configured, ?_, hprovider.fresh, hprovider.enough, ?_⟩
    · rw [← hprovider.entry]
      unfold ensureProviderBudgetUsageEntry
      rw [hwork]
    · rw [hsame.providers, hprovider.written, hwork]
  | @grants r _ cents policy grants afterGrants reserved provider hcents hpolicy hgrants hloop hreserved hprovider
      hsame hallowed hid hamount =>
    have hafter : afterGrants.providerBudgetUsage = s.providerBudgetUsage :=
      (reserveGrants_eq_reserved_iff.mp hloop).2.others.1.trans (sameLedgers_workingState bundle s).providers
    rcases hprovider with rfl | rfl
    · rcases reserveProviderBudget_result hreserved with ⟨-, hnone, rfl⟩ | hsome | ⟨reason, hsome⟩
      · exact Or.inl ⟨hsame.providers.trans hafter, fun _ _ _ => hnone⟩
      · cases hsome
      · cases hsome
    · obtain ⟨settings, usage, hprovider⟩ := exists_providerReserved hreserved
      subst hamount
      refine Or.inr ⟨r, settings, usage, rfl, hcents, hprovider.configured, ?_, hprovider.fresh, hprovider.enough, ?_⟩
      · rw [← hprovider.entry]
        unfold ensureProviderBudgetUsageEntry
        rw [hafter]
      · rw [hsame.providers, hprovider.written, hafter]

end Effect

end Budget
end HexeAiNode
