import HexeAiNode.Governance.ProviderSelectionPolicy

/-!
# The order of providers

`buildProviderSelectionPolicy` collects the providers that qualify from a list of candidates that it puts together
differently in each routing mode.  Here is what comes of it, as a specification that mentions no list of candidates:

* `Qualifies` says which providers are in the order, and `mem_providerOrder_iff_qualifies` that it is exactly those;
* `Precedes` says which of two providers comes first: the one with the smaller `orderRank`, and of two with the same
  rank the one that is enabled first.

Collecting candidates keeps the first occurrence of each (`pairwise_selectProviders`), so the order follows the
positions in the list of candidates, and `precedes_of_candidateOrder` compares those with `Precedes`, one routing mode
after the other.

With limits that are integers the function returns, and it rejects exactly when no provider qualifies
(`provider_order_specification`).
-/

namespace HexeAiNode
namespace Governance

open Py

variable {policy : ProviderSelectionPolicyInput} {decision : ProviderSelectionPolicyDecision} {p q : String}
  {eligible kept : List String} {pass : String → Bool}

/-! ## Positions -/

/-- In a part of a list the first occurrences stand in the same order. -/
theorem idxOf_lt_of_filter {keep : String → Bool} {ps : List String} (hp : p ∈ ps.filter keep)
    (hq : q ∈ ps.filter keep) (h : (ps.filter keep).idxOf p < (ps.filter keep).idxOf q) :
    ps.idxOf p < ps.idxOf q := by
  induction ps with
  | nil => cases hp
  | cons c ps ih =>
    by_cases hpc : c = p
    · have hne : c ≠ q := by
        rintro rfl
        rw [hpc] at h
        exact absurd h (lt_irrefl _)
      rw [List.idxOf_cons_eq _ hpc, List.idxOf_cons_ne _ hne]
      exact Nat.succ_pos _
    · by_cases hqc : c = q
      · subst hqc
        have hkeep : keep c = true := (List.mem_filter.mp hq).2
        rw [List.filter_cons_of_pos hkeep, List.idxOf_cons_self] at h
        exact absurd h (Nat.not_lt_zero _)
      · rw [List.idxOf_cons_ne _ hpc, List.idxOf_cons_ne _ hqc]
        refine Nat.succ_lt_succ ?_
        by_cases hkeep : keep c = true
        · rw [List.filter_cons_of_pos hkeep] at hp hq h
          rw [List.idxOf_cons_ne _ hpc, List.idxOf_cons_ne _ hqc] at h
          exact ih ((List.mem_cons.mp hp).resolve_left (Ne.symm hpc))
            ((List.mem_cons.mp hq).resolve_left (Ne.symm hqc)) (Nat.lt_of_succ_lt_succ h)
        · rw [List.filter_cons_of_neg hkeep] at hp hq h
          exact ih hp hq h

/-- Of two entries, the first is the head of the list, or stands before the other in its tail. -/
theorem idxOf_cons_lt {c : String} {ps : List String} (h : (c :: ps).idxOf p < (c :: ps).idxOf q) :
    q ≠ c ∧ (p = c ∨ p ≠ c ∧ ps.idxOf p < ps.idxOf q) := by
  have hqc : q ≠ c := by
    rintro rfl
    rw [List.idxOf_cons_self] at h
    exact absurd h (Nat.not_lt_zero _)
  refine ⟨hqc, or_iff_not_imp_left.mpr fun hpc => ⟨hpc, ?_⟩⟩
  rw [List.idxOf_cons_ne _ (Ne.symm hpc), List.idxOf_cons_ne _ (Ne.symm hqc)] at h
  exact Nat.lt_of_succ_lt_succ h

/-- Entries of the first part of a list stand there as in the whole. -/
theorem idxOf_append_lt {ps qs : List String} (hp : p ∈ ps) (hq : q ∈ ps)
    (h : (ps ++ qs).idxOf p < (ps ++ qs).idxOf q) : ps.idxOf p < ps.idxOf q := by
  rwa [List.idxOf_append_of_mem hp, List.idxOf_append_of_mem hq] at h

/-- **Collecting candidates** keeps the first occurrence of each: the providers picked stand in the order of their
first occurrences.  `seen` are the candidates gone through already. -/
theorem pairwise_selectProviders {seen acc cs : List String}
    (hacc : acc.Pairwise fun p q => (seen ++ cs).idxOf p < (seen ++ cs).idxOf q) (hsub : ∀ p ∈ acc, p ∈ seen)
    (hpicked : ∀ p ∈ seen, p ≠ "" → p ∈ eligible → pass p = true → p ∈ acc) :
    (selectProviders eligible pass acc cs).Pairwise fun p q => (seen ++ cs).idxOf p < (seen ++ cs).idxOf q := by
  induction cs generalizing seen acc with
  | nil => exact hacc
  | cons c cs ih =>
    have hlist : seen ++ c :: cs = (seen ++ [c]) ++ cs := by rw [List.append_assoc, List.singleton_append]
    rw [hlist] at hacc ⊢
    by_cases hskip : c = "" ∨ c ∈ acc ∨ c ∉ eligible ∨ pass c = false
    · rw [selectProviders, if_pos hskip]
      refine ih hacc (fun p hp => List.mem_append_left _ (hsub p hp)) fun p hp hne helig hpass => ?_
      rcases List.mem_append.mp hp with hp | hp
      · exact hpicked p hp hne helig hpass
      · obtain rfl := List.mem_singleton.mp hp
        rcases hskip with hskip | hskip | hskip | hskip
        · exact absurd hskip hne
        · exact hskip
        · exact absurd helig hskip
        · rw [hpass] at hskip
          cases hskip
    · rw [selectProviders, if_neg hskip]
      push Not at hskip
      obtain ⟨hne, hnew, helig, hpass⟩ := hskip
      have hpass : pass c = true := by simpa using hpass
      have hfresh : c ∉ seen := fun hmem => hnew (hpicked c hmem hne helig hpass)
      refine ih ?_ ?_ ?_
      · refine List.pairwise_append.mpr ⟨hacc, List.pairwise_singleton _ _, fun p hp q hq => ?_⟩
        obtain rfl := List.mem_singleton.mp hq
        have hseen := hsub p hp
        rw [← hlist, List.idxOf_append_of_mem hseen, List.idxOf_append_of_notMem hfresh]
        exact Nat.lt_add_right _ (List.idxOf_lt_length_of_mem hseen)
      · intro p hp
        rcases List.mem_append.mp hp with hp | hp
        · exact List.mem_append_left _ (hsub p hp)
        · exact List.mem_append_right _ hp
      · intro p hp hp' helig' hpass'
        rcases List.mem_append.mp hp with hp | hp
        · exact List.mem_append_left _ (hpicked p hp hp' helig' hpass')
        · exact List.mem_append_right _ hp

/-! ## Which provider comes first -/

/-- The place of a provider: the requested one comes first; then `local` under `local_preferred`, every other one
before `local` under `cloud_fallback`, and the default provider in the other modes. -/
def orderRank (mode : Option RoutingMode) (requested default p : String) : ℕ :=
  if p = requested then 0
  else match mode with
    | some .localPreferred => if p = "local" then 1 else 2
    | some .cloudFallback => if p = "local" then 2 else 1
    | _ => if p = default then 1 else 2

theorem isLocalProvider_iff (h : strip p = p ∧ lower p = p) : isLocalProvider p = true ↔ p = "local" := by
  rw [isLocalProvider, beq_iff_eq, stripLower, h.1, h.2]

theorem lower_of_mem_lowerList {v : Value} (h : p ∈ lowerList v) : lower p = p := by
  obtain ⟨t, -, rfl⟩ := List.mem_map.mp h
  exact lower_lower t

section Rank

variable {mode : Option RoutingMode} {requested default : String}

theorem orderRank_requested : orderRank mode requested default requested = 0 := if_pos rfl

theorem orderRank_pos (h : p ≠ requested) : 0 < orderRank mode requested default p := by
  unfold orderRank
  rw [if_neg h]
  rcases mode with _ | _ | _ | _ | _ <;> dsimp only <;> split <;> omega

/-- The order by rank, and by position in a list. -/
def InPlace (mode : Option RoutingMode) (requested default : String) (ps : List String) (p q : String) : Prop :=
  orderRank mode requested default p < orderRank mode requested default q ∨
    orderRank mode requested default p = orderRank mode requested default q ∧ ps.idxOf p < ps.idxOf q

/-- With one provider to come first, and the others as they are listed. -/
theorem inPlace_of_first {first : String} (hrank : ∀ c, c ≠ requested → orderRank mode requested default c =
    if c = first then 1 else 2) (hpr : p ≠ requested) (hqr : q ≠ requested)
    (h : q ≠ first ∧ (p = first ∨ p ≠ first ∧ kept.idxOf p < kept.idxOf q)) :
    InPlace mode requested default kept p q := by
  obtain ⟨hq, hp | ⟨hp, hlt⟩⟩ := h
  · refine Or.inl ?_
    rw [hrank p hpr, hrank q hqr, if_pos hp, if_neg hq]
    exact Nat.one_lt_two
  · refine Or.inr ⟨?_, hlt⟩
    rw [hrank p hpr, hrank q hqr, if_neg hp, if_neg hq]

/-- With `local` to come last. -/
theorem inPlace_of_last (hp : p ∈ kept) (hq : q ∈ kept)
    (hlocal : ∀ c ∈ kept, isLocalProvider c = true ↔ c = "local") (hpr : p ≠ requested) (hqr : q ≠ requested)
    (h : ((kept.filter fun c => !isLocalProvider c) ++ kept.filter isLocalProvider).idxOf p <
      ((kept.filter fun c => !isLocalProvider c) ++ kept.filter isLocalProvider).idxOf q) :
    InPlace (some .cloudFallback) requested default kept p q := by
  have hrank : ∀ c, c ≠ requested →
      orderRank (some .cloudFallback) requested default c = if c = "local" then 2 else 1 := by
    intro c hc
    unfold orderRank
    rw [if_neg hc]
  have hcloud : ∀ c ∈ kept, c ≠ "local" → c ∈ kept.filter fun c => !isLocalProvider c := by
    intro c hc hne
    refine List.mem_filter.mpr ⟨hc, ?_⟩
    rw [Bool.not_eq_true', Bool.eq_false_iff]
    exact fun h => hne ((hlocal c hc).mp h)
  by_cases hqlocal : q = "local"
  · by_cases hplocal : p = "local"
    · rw [hplocal, hqlocal] at h
      exact absurd h (lt_irrefl _)
    · refine Or.inl ?_
      rw [hrank p hpr, hrank q hqr, if_neg hplocal, if_pos hqlocal]
      exact Nat.one_lt_two
  · have hqcloud := hcloud q hq hqlocal
    by_cases hplocal : p = "local"
    · have hpcloud : p ∉ kept.filter fun c => !isLocalProvider c := by
        intro hmem
        have hnot := (List.mem_filter.mp hmem).2
        rw [(hlocal p hp).mpr hplocal] at hnot
        cases hnot
      rw [List.idxOf_append_of_notMem hpcloud, List.idxOf_append_of_mem hqcloud] at h
      have hlength := List.idxOf_lt_length_of_mem hqcloud
      omega
    · refine Or.inr ⟨?_, idxOf_lt_of_filter (hcloud p hp hplocal) hqcloud
        (idxOf_append_lt (hcloud p hp hplocal) hqcloud h)⟩
      rw [hrank p hpr, hrank q hqr, if_neg hplocal, if_neg hqlocal]

/-- **Candidates stand in their places**: of two providers, the one that is a candidate first has the smaller rank,
or the same rank and is kept first. -/
theorem inPlace_of_candidateOrder (hp : p ∈ kept) (hq : q ∈ kept)
    (hlocal : ∀ c ∈ kept, isLocalProvider c = true ↔ c = "local")
    (h : (candidateOrder mode requested default kept).idxOf p < (candidateOrder mode requested default kept).idxOf q) :
    InPlace mode requested default kept p q := by
  obtain ⟨rest, hrest⟩ : ∃ rest, candidateOrder mode requested default kept = requested :: rest := by
    rcases mode with _ | _ | _ | _ | _ <;> exact ⟨_, rfl⟩
  rw [hrest] at h
  obtain ⟨hqr, rfl | ⟨hpr, h⟩⟩ := idxOf_cons_lt h
  · refine Or.inl ?_
    rw [orderRank_requested]
    exact orderRank_pos hqr
  rcases mode with _ | _ | _ | _ | _
  case some.localPreferred =>
    obtain rfl : "local" :: (kept ++ [default]) = rest := (List.cons.inj hrest).2
    have hrank : ∀ c, c ≠ requested →
        orderRank (some .localPreferred) requested default c = if c = "local" then 1 else 2 := by
      intro c hc
      unfold orderRank
      rw [if_neg hc]
    refine inPlace_of_first hrank hpr hqr ?_
    obtain ⟨hq', hp' | ⟨hp', h⟩⟩ := idxOf_cons_lt h
    · exact ⟨hq', Or.inl hp'⟩
    · exact ⟨hq', Or.inr ⟨hp', idxOf_append_lt hp hq h⟩⟩
  case some.cloudFallback =>
    obtain rfl : _ ++ [default] = rest := (List.cons.inj hrest).2
    refine inPlace_of_last hp hq hlocal hpr hqr (idxOf_append_lt ?_ ?_ h)
    all_goals
      rw [List.mem_append, List.mem_filter, List.mem_filter, ← and_or_left, Bool.not_eq_true',
        ← Bool.not_eq_true, or_comm]
      exact ⟨by assumption, em _⟩
  all_goals
    obtain rfl : default :: kept = rest := (List.cons.inj hrest).2
    refine inPlace_of_first (fun c hc => ?_) hpr hqr (idxOf_cons_lt h)
    unfold orderRank
    rw [if_neg hc]

end Rank

/-! ## The specification -/

section Specification

variable (policy : ProviderSelectionPolicyInput)

/-- The provider comes first: by its rank, or because it is enabled first. -/
def Precedes (p q : String) : Prop :=
  InPlace (routingModeOf policy.governanceConstraints) policy.requestedProvider.normalizeLower
    policy.defaultProvider.normalizeLower (enabledProviders policy) p q

/-- The provider may serve the request.  A limit below zero counts as zero, and an availability of white space as
available. -/
structure Qualifies (p : String) : Prop where
  enabled : p ≠ "" ∧ ∃ item ∈ policy.enabledProviders, item.normalizeLower = p
  approved : ∀ items, policy.governanceConstraints.get "approved_providers" = .list items →
    (∃ item ∈ items, item.normalizeLower ≠ "") → ∃ item ∈ items, item.normalizeLower = p
  onNode : routingModeOf policy.governanceConstraints = some .localOnly → p = "local"
  offNode : routingModeOf policy.governanceConstraints = some .cloudOnly → p ≠ "local"
  available : availabilityOf (normalizeProviderHealth policy.providerHealth) p ∈ ["available", "degraded", ""]
  affordable : ∀ cost limit, policy.requestMaxCostCents = some cost →
    Assoc.get? (budgetLimits policy) p = some limit → cost ≤ limit

/-- The providers that qualify, each once and in their places. -/
structure IsOrderOf (order : List String) : Prop where
  nonempty : order ≠ []
  nodup : order.Nodup
  mem_iff : ∀ p, p ∈ order ↔ Qualifies policy p
  ordered : order.Pairwise (Precedes policy)

/-- A limit that is an integer, or missing. -/
def IsIntOrNone (v : Value) : Prop := v = .null ∨ ∃ i, v = .int i

/-- Every limit that the policy reads is an integer, or missing. -/
structure IntegerLimits : Prop where
  budget : ∀ entry ∈ policy.providerBudgetLimits.asDict, IsIntOrNone (entry.2.asDict.get "max_cost_cents")
  timeout : IsIntOrNone ((routingPolicyOf policy.governanceConstraints).get "max_timeout_s")
  maxRetries : IsIntOrNone ((routingPolicyOf policy.governanceConstraints).get "max_retry_count")
  retries : ∀ p, IsIntOrNone (policy.providerRetryCount.get p)

end Specification

/-! ## Membership -/

/-- The approved list restricts nothing unless it is a list with an entry that is not blank. -/
theorem approved_iff {governance : Dict} (hp : p ≠ "") :
    Approved governance p ↔ ∀ items, governance.get "approved_providers" = .list items →
      (∃ item ∈ items, item.normalizeLower ≠ "") → ∃ item ∈ items, item.normalizeLower = p := by
  unfold Approved
  rcases happroved : governance.get "approved_providers" with _ | _ | _ | _ | _ | items | _
  case list =>
    constructor
    · rintro (hnil | hmem) items' hitems ⟨item, hitem, hne⟩
      · obtain rfl := Value.list.inj hitems
        have hentry := mem_lowerList_list.mpr ⟨hne, item, hitem, rfl⟩
        rw [hnil] at hentry
        cases hentry
      · obtain rfl := Value.list.inj hitems
        exact (mem_lowerList_list.mp hmem).2
    · intro h
      by_cases hentries : ∃ item ∈ items, item.normalizeLower ≠ ""
      · exact Or.inr (mem_lowerList_list.mpr ⟨hp, h items rfl hentries⟩)
      · refine Or.inl (List.eq_nil_iff_forall_not_mem.mpr fun q hq => hentries ?_)
        obtain ⟨hne, item, hitem, rfl⟩ := mem_lowerList_list.mp hq
        exact ⟨item, hitem, hne⟩
  all_goals exact ⟨fun _ items hitems => (nomatch hitems), fun _ => Or.inl rfl⟩

theorem selectable_iff {limits : List (String × ℤ)} {health : List (String × Dict)} {maxCost : Option ℤ} :
    selectable health limits maxCost p = true ↔ availabilityOf health p ∈ ["available", "degraded", ""] ∧
      ∀ cost limit, maxCost = some cost → Assoc.get? limits p = some limit → cost ≤ limit := by
  unfold selectable healthy withinBudget
  rw [Bool.and_eq_true]
  refine and_congr (by simp [or_assoc]) ?_
  rcases maxCost with _ | cost
  · simp
  · rcases Assoc.get? limits p with _ | limit <;> simp

/-- **Qualifying** is being approved and usable. -/
theorem qualifies_iff : Qualifies policy p ↔ Approved policy.governanceConstraints p ∧
    Usable policy (routingModeOf policy.governanceConstraints) p := by
  have henabled : p ∈ enabledProviders policy ↔ p ≠ "" ∧ ∃ item ∈ policy.enabledProviders, item.normalizeLower = p :=
    mem_lowerList_list
  constructor
  · intro h
    have hmem := henabled.mpr h.enabled
    have hlocal := isLocalProvider_iff ⟨(mem_lowerList hmem).1, lower_of_mem_lowerList hmem⟩
    refine ⟨(approved_iff h.enabled.1).mpr h.approved, h.enabled.1, hmem, ?_,
      selectable_iff.mpr ⟨h.available, h.affordable⟩⟩
    rcases hmode : routingModeOf policy.governanceConstraints with _ | _ | _ | _ | _
    case some.localOnly =>
      obtain rfl := h.onNode hmode
      rw [routingPermits, Bool.and_eq_true, List.contains_iff_mem]
      exact ⟨hmem, hlocal.mpr rfl⟩
    case some.cloudOnly =>
      rw [routingPermits, Bool.not_eq_true', Bool.eq_false_iff]
      exact fun hnode => h.offNode hmode (hlocal.mp hnode)
    all_goals rfl
  · rintro ⟨happroved, husable⟩
    have hlocal := isLocalProvider_iff
      ⟨(mem_lowerList husable.enabled).1, lower_of_mem_lowerList husable.enabled⟩
    have hpermitted := husable.permitted
    refine ⟨henabled.mp husable.enabled, (approved_iff husable.name).mp happroved, fun hmode => ?_, fun hmode => ?_,
      (selectable_iff.mp husable.selectable).1, (selectable_iff.mp husable.selectable).2⟩
    · rw [hmode, routingPermits, Bool.and_eq_true] at hpermitted
      exact hlocal.mp hpermitted.2
    · rw [hmode, routingPermits, Bool.not_eq_true', Bool.eq_false_iff] at hpermitted
      exact fun hp => hpermitted (hlocal.mpr hp)

/-! ## The order of a decision -/

/-- The providers that the routing mode leaves are a part of the enabled ones, in their order. -/
theorem exists_keep (h : keptProviders policy = .ok kept) :
    ∃ keep : String → Bool, kept = (enabledProviders policy).filter keep := by
  have heligible : ∃ keep : String → Bool,
      governanceEligible (enabledProviders policy) policy.governanceConstraints =
        (enabledProviders policy).filter keep := by
    unfold governanceEligible
    dsimp only
    split <;> exact ⟨_, rfl⟩
  obtain ⟨keep, heligible⟩ := heligible
  unfold keptProviders at h
  rw [heligible] at h
  generalize routingModeOf policy.governanceConstraints = mode at h
  rcases mode with _ | _ | _ | _ | _ <;> dsimp only [routingEligible] at h
  case some.localOnly =>
    split at h
    · cases h
    · exact ⟨_, (Except.ok.inj h).symm.trans List.filter_filter⟩
  case some.cloudOnly =>
    split at h
    · cases h
    · exact ⟨_, (Except.ok.inj h).symm.trans List.filter_filter⟩
  all_goals exact ⟨keep, (Except.ok.inj h).symm⟩

/-- **The selected providers stand in their places.** -/
theorem pairwise_selectedProviders (h : keptProviders policy = .ok kept) (limits : List (String × ℤ)) :
    (selectedProviders policy limits kept).Nodup ∧
      (selectedProviders policy limits kept).Pairwise (Precedes policy) := by
  obtain ⟨keep, rfl⟩ := exists_keep h
  have hpositions := @pairwise_selectProviders ((enabledProviders policy).filter keep)
    (selectable (normalizeProviderHealth policy.providerHealth) limits policy.requestMaxCostCents) [] []
    (candidateOrder (routingModeOf policy.governanceConstraints) policy.requestedProvider.normalizeLower
      policy.defaultProvider.normalizeLower ((enabledProviders policy).filter keep))
    List.Pairwise.nil (fun p hp => absurd hp List.not_mem_nil) (fun p hp => absurd hp List.not_mem_nil)
  rw [List.nil_append] at hpositions
  refine ⟨hpositions.imp fun hlt => ?_, hpositions.imp_of_mem fun {p q} hp hq hlt => ?_⟩
  · rintro rfl
    exact lt_irrefl _ hlt
  · have hmem : ∀ c ∈ selectedProviders policy limits ((enabledProviders policy).filter keep),
        c ∈ (enabledProviders policy).filter keep := by
      intro c hc
      rcases mem_selectProviders.mp hc with hnil | ⟨-, -, hkept, -⟩
      · cases hnil
      · exact hkept
    have hlocal : ∀ c ∈ (enabledProviders policy).filter keep, isLocalProvider c = true ↔ c = "local" := by
      intro c hc
      have henabled := List.mem_of_mem_filter hc
      exact isLocalProvider_iff ⟨(mem_lowerList henabled).1, lower_of_mem_lowerList henabled⟩
    rcases inPlace_of_candidateOrder (hmem p hp) (hmem q hq) hlocal hlt with hrank | ⟨hrank, hlt⟩
    · exact Or.inl hrank
    · exact Or.inr ⟨hrank, idxOf_lt_of_filter (hmem p hp) (hmem q hq) hlt⟩

/-- A decision without a rejection serves the providers that qualify, in their places; a rejection serves none. -/
theorem order_of_decision (h : buildProviderSelectionPolicy policy = .ok decision) :
    (decision.rejectionReason = none → IsOrderOf policy decision.providerOrder) ∧
      (decision.rejectionReason ≠ none → decision.providerOrder = []) := by
  have hmem : ∀ p, p ∈ decision.providerOrder ↔ Qualifies policy p := by
    intro p
    rw [mem_providerOrder_iff h, qualifies_iff]
  rcases policy_cases h with ⟨reason, rfl, -⟩ | ⟨reason, kept, rfl, -⟩ | ⟨kept, hkept, hnonempty, hserves⟩
  · exact ⟨fun hnone => (by cases hnone), fun _ => rfl⟩
  · exact ⟨fun hnone => (by cases hnone), fun _ => rfl⟩
  · refine ⟨fun _ => ?_, fun hrejected => absurd hserves.accepted hrejected⟩
    obtain ⟨hnodup, hordered⟩ := pairwise_selectedProviders hkept (budgetLimits policy)
    rw [← hserves.providers] at hnonempty hnodup hordered
    exact ⟨hnonempty, hnodup, hmem, hordered⟩

/-! ## Integer limits -/

/-- Limits that are integers can be read. -/
theorem exists_normalizeProviderBudgetLimits {entries : Dict}
    (h : ∀ entry ∈ entries, IsIntOrNone (entry.2.asDict.get "max_cost_cents")) (acc : List (String × ℤ)) :
    ∃ limits, normalizeProviderBudgetLimitsFrom acc entries = .ok limits := by
  induction entries generalizing acc with
  | nil => exact ⟨acc, rfl⟩
  | cons entry entries ih =>
    obtain ⟨providerId, payload⟩ := entry
    have hrest := fun entry hentry => h entry (List.mem_cons_of_mem _ hentry)
    unfold normalizeProviderBudgetLimitsFrom
    split
    · exact ih hrest acc
    · split
      · exact ih hrest acc
      · next hgiven =>
        rcases h _ List.mem_cons_self with hnull | ⟨limit, hlimit⟩
        · rw [hnull] at hgiven
          exact absurd rfl hgiven
        · obtain ⟨limits, hlimits⟩ := ih hrest (Assoc.set acc (stripLower providerId) (max limit 0))
          exact ⟨limits, bind_eq_ok.mpr ⟨limit, by rw [hlimit]; rfl, hlimits⟩⟩

theorem exists_policyTimeout {v : Value} (h : IsIntOrNone v) (requested : ℤ) :
    ∃ timeout, policyTimeout requested v = .ok timeout := by
  unfold policyTimeout
  rcases h with rfl | ⟨limit, rfl⟩
  · exact ⟨_, rfl⟩
  · exact ⟨_, rfl⟩

theorem exists_retryCount {configured : Dict} {limit : Value} (hconfigured : IsIntOrNone (configured.get p))
    (hlimit : IsIntOrNone limit) : ∃ retries, retryCount configured limit p = .ok retries := by
  unfold retryCount
  rcases hconfigured with hnone | ⟨i, hi⟩
  · rw [hnone]
    rcases hlimit with rfl | ⟨l, rfl⟩ <;> exact ⟨_, rfl⟩
  · rw [hi]
    dsimp only
    split <;> rcases hlimit with rfl | ⟨l, rfl⟩ <;> exact ⟨_, rfl⟩

theorem exists_retryCounts {configured : Dict} {limit : Value} (hconfigured : ∀ p, IsIntOrNone (configured.get p))
    (hlimit : IsIntOrNone limit) (order : List String) : ∃ counts, retryCounts configured limit order = .ok counts := by
  induction order with
  | nil => exact ⟨[], rfl⟩
  | cons p order ih =>
    obtain ⟨retries, hretries⟩ := exists_retryCount (hconfigured p) hlimit
    obtain ⟨counts, hcounts⟩ := ih
    exact ⟨(p, retries) :: counts, bind_eq_ok.mpr ⟨retries, hretries, bind_eq_ok.mpr ⟨counts, hcounts, rfl⟩⟩⟩

/-- With integer limits the policy returns. -/
theorem exists_decision (h : IntegerLimits policy) : ∃ decision, buildProviderSelectionPolicy policy = .ok decision := by
  have hserve : ∀ order, ∃ decision, servePolicy policy order = .ok decision := by
    intro order
    obtain ⟨timeout, htimeout⟩ := exists_policyTimeout h.timeout policy.requestTimeoutS
    obtain ⟨counts, hcounts⟩ := exists_retryCounts h.retries h.maxRetries order
    exact ⟨_, bind_eq_ok.mpr ⟨timeout, htimeout, bind_eq_ok.mpr ⟨counts, hcounts, rfl⟩⟩⟩
  obtain ⟨limits, hlimits⟩ := exists_normalizeProviderBudgetLimits h.budget []
  unfold buildProviderSelectionPolicy
  dsimp only
  split
  · exact ⟨_, rfl⟩
  split
  · exact ⟨_, rfl⟩
  rw [show normalizeProviderBudgetLimits policy.providerBudgetLimits = .ok limits from hlimits]
  dsimp only [bind, Except.bind]
  split
  · exact ⟨_, rfl⟩
  · split
    · exact ⟨_, rfl⟩
    · exact hserve _

/-- **The provider order**: with integer limits the policy returns, a decision without a rejection serves exactly the
providers that qualify, in their places, and it rejects exactly when none does. -/
theorem provider_order_specification (policy : ProviderSelectionPolicyInput) (h : IntegerLimits policy) :
    ∃ decision, buildProviderSelectionPolicy policy = .ok decision ∧
      (decision.rejectionReason = none → IsOrderOf policy decision.providerOrder) ∧
      (decision.rejectionReason ≠ none ↔ ∀ p, ¬Qualifies policy p) := by
  obtain ⟨decision, hdecision⟩ := exists_decision h
  obtain ⟨hserved, hrejected⟩ := order_of_decision hdecision
  refine ⟨decision, hdecision, hserved, fun hreason p hp => ?_, fun hnone haccepted => ?_⟩
  · rw [qualifies_iff, ← mem_providerOrder_iff hdecision, hrejected hreason] at hp
    cases hp
  · obtain ⟨p, hp⟩ := List.exists_mem_of_ne_nil _ (hserved haccepted).nonempty
    exact hnone p (((hserved haccepted).mem_iff p).mp hp)

/-- Two available providers, of which `openai` has the given limit, and a request that may cost the given amount. -/
def limitedPolicy (limit cost : ℤ) : ProviderSelectionPolicyInput where
  enabledProviders := [.str "OpenAI", .str "local"]
  providerHealth :=
    [("openai", .dict [("availability", .str "available")]), ("local", .dict [("availability", .str "degraded")])]
  providerBudgetLimits := .dict [("openai", .dict [("max_cost_cents", .int limit)])]
  requestMaxCostCents := some cost

theorem integerLimits_limitedPolicy (limit cost : ℤ) : IntegerLimits (limitedPolicy limit cost) where
  budget := by
    intro entry hentry
    obtain rfl := List.mem_singleton.mp hentry
    exact Or.inr ⟨limit, rfl⟩
  timeout := Or.inl rfl
  maxRetries := Or.inl rfl
  retries := fun _ => Or.inl rfl

theorem provider_order_specification_limited :
    ∃ decision, buildProviderSelectionPolicy (limitedPolicy 20 50) = .ok decision ∧
      (decision.rejectionReason = none → IsOrderOf (limitedPolicy 20 50) decision.providerOrder) ∧
      (decision.rejectionReason ≠ none ↔ ∀ p, ¬Qualifies (limitedPolicy 20 50) p) :=
  provider_order_specification _ (integerLimits_limitedPolicy 20 50)

/-- A limit of minus five cents does not keep a provider from a request that may cost nothing. -/
theorem negative_limit_not_respected :
    ¬∀ (policy : ProviderSelectionPolicyInput) (decision : ProviderSelectionPolicyDecision), IntegerLimits policy →
      buildProviderSelectionPolicy policy = .ok decision → decision.rejectionReason = none →
      ∀ p ∈ decision.providerOrder, ∀ cost, policy.requestMaxCostCents = some cost →
        ∀ entry ∈ policy.providerBudgetLimits.asDict, stripLower entry.1 = p →
          ∀ limit, entry.2.asDict.get "max_cost_cents" = .int limit → cost ≤ limit := by
  intro h
  have hdecision : (buildProviderSelectionPolicy (limitedPolicy (-5) 0)).toOption.map (fun decision =>
      (decision.rejectionReason, decision.providerOrder)) = some (none, ["openai", "local"]) := by
    decide +kernel
  obtain ⟨decision, hreturned, hfacts⟩ := Option.map_eq_some_iff.mp hdecision
  obtain ⟨haccepted, horder⟩ := Prod.mk.inj hfacts
  have hbuilt : buildProviderSelectionPolicy (limitedPolicy (-5) 0) = .ok decision := by
    rcases hresult : buildProviderSelectionPolicy (limitedPolicy (-5) 0) with e | result
    · rw [hresult] at hreturned
      cases hreturned
    · rw [hresult] at hreturned
      rw [Option.some.inj hreturned]
  have hmem : "openai" ∈ decision.providerOrder := by
    rw [horder]
    exact List.mem_cons_self
  have hle := h _ decision (integerLimits_limitedPolicy (-5) 0) hbuilt haccepted "openai" hmem 0 rfl
    ("openai", .dict [("max_cost_cents", .int (-5))]) List.mem_cons_self (by decide +kernel) (-5) rfl
  exact absurd hle (by decide)

end Governance
end HexeAiNode
