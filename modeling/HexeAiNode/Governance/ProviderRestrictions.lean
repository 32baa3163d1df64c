import HexeAiNode.Governance.PromptConstraints
import HexeAiNode.Governance.ProviderSelectionPolicy

/-!
# Two provider lists

A request may list the providers it approves and a prompt the providers it prefers.  The merge keeps
the approved entries that are also preferred (`mem_of_keepPreferred`), comparing them exactly as
written; the selection policy then reads the kept entries in lower case, and an empty list as no
restriction.

`order_in_both_iff` is the composition: the order stays inside both lists exactly when the lists
share a non-blank entry as written, or when every provider that could serve without any restriction
is in both lists anyway.  Two disjoint lists leave the merged list empty, and the request is widened
to every usable provider (`disjoint_lists_widen`).
-/

namespace HexeAiNode
namespace Governance

open Py Execution

/-- A provider is in a list, ignoring case and surrounding white space. -/
def ListsProvider (items : List Value) (p : String) : Prop := ∃ x ∈ items, x.normalizeLower = p

instance (items : List Value) (p : String) : Decidable (ListsProvider items p) :=
  inferInstanceAs (Decidable (∃ x ∈ items, _))

/-- Every provider of an order is in both lists. -/
def InBothLists (approved preferred : List Value) (order : List String) : Prop :=
  ∀ p ∈ order, ListsProvider approved p ∧ ListsProvider preferred p

instance (approved preferred : List Value) (order : List String) :
    Decidable (InBothLists approved preferred order) :=
  inferInstanceAs (Decidable (∀ p ∈ order, _))

/-! ## What the merge keeps -/

theorem toSet_map_str (names : List String) :
    Value.toSet (names.map .str) = .ok (names.map .text) := by
  induction names with
  | nil => rfl
  | cons s names ih => simp [Value.toSet, ih, bind, Except.bind, pure, Except.pure]

theorem same_text_iff {k : Value.Key} {s : String} :
    Value.Key.same k (.text s) = true ↔ k = .text s := by
  cases k <;> simp [Value.Key.same]

theorem hashKey_eq_text_iff {x : Value} {s : String} :
    x.hashKey = .ok (.text s) ↔ x = .str s := by
  rcases x with _ | _ | _ | ⟨_ | _ | _ | _, _⟩ | _ | _ | _ <;> simp [Value.hashKey]

/-- An item is in a set of texts when it is one of them. -/
theorem setContains_map_text {names : List String} {x : Value} {b : Bool}
    (h : Value.setContains (names.map .text) x = .ok b) :
    b = true ↔ ∃ s ∈ names, x = .str s := by
  unfold Value.setContains at h
  obtain ⟨k, hk, h⟩ := bind_eq_ok.mp h
  obtain rfl := pure_eq_ok.mp h
  rw [List.any_map, List.any_eq_true]
  refine exists_congr fun s => and_congr_right fun _ => ?_
  rw [Function.comp_apply, same_text_iff, ← hashKey_eq_text_iff, hk, Except.ok.injEq]

/-- **The kept items** are the approved ones that are preferred texts. -/
theorem mem_of_keepPreferred {names : List String} {items kept : List Value}
    (h : keepPreferred (names.map .str) items = .ok kept) {x : Value} :
    x ∈ kept ↔ x ∈ items ∧ ∃ s ∈ names, x = .str s := by
  induction items generalizing kept with
  | nil =>
    obtain rfl := Except.ok.inj h
    simp
  | cons item items ih =>
    unfold keepPreferred at h
    rw [toSet_map_str] at h
    obtain ⟨keys, hkeys, h⟩ := bind_eq_ok.mp h
    obtain rfl := Except.ok.inj hkeys
    obtain ⟨keep, hkeep, h⟩ := bind_eq_ok.mp h
    obtain ⟨rest, hrest, h⟩ := bind_eq_ok.mp h
    have hiff := setContains_map_text hkeep
    have hmem := ih hrest
    obtain rfl := pure_eq_ok.mp h
    by_cases hk : keep = true
    · rw [if_pos hk, List.mem_cons, List.mem_cons, hmem]
      constructor
      · rintro (rfl | ⟨hx, hs⟩)
        · exact ⟨Or.inl rfl, hiff.mp hk⟩
        · exact ⟨Or.inr hx, hs⟩
      · rintro ⟨rfl | hx, hs⟩
        · exact Or.inl rfl
        · exact Or.inr ⟨hx, hs⟩
    · rw [if_neg hk, List.mem_cons, hmem]
      constructor
      · rintro ⟨hx, hs⟩
        exact ⟨Or.inr hx, hs⟩
      · rintro ⟨rfl | hx, hs⟩
        · exact absurd (hiff.mpr hs) hk
        · exact ⟨hx, hs⟩

/-! ## The composition -/

variable {governance merged : Dict} {authorization : ExecutionAuthorizationResult}
  {policy : ProviderSelectionPolicyInput} {decision : ProviderSelectionPolicyDecision}
  {approved : List Value} {preferred : List String}

/-- The approved providers of the merged constraints. -/
theorem approved_of_merge (hlist : governance.get "approved_providers" = .list approved)
    (happroved : approved ≠ [])
    (hpreferred : authorization.providerPreferences.asDict.get "preferred_providers" =
      .list (preferred.map .str)) (hne : preferred ≠ [])
    (hmerge : mergePromptGovernanceConstraints governance authorization = .ok merged) :
    ∃ kept, keepPreferred (preferred.map .str) approved = .ok kept ∧
      merged.get "approved_providers" = .list kept := by
  obtain ⟨names, first, hnames, hfirst, hget, -⟩ := merge_spec hmerge
  rw [hpreferred, Value.toItems_list] at hnames
  obtain rfl := Except.ok.inj hnames
  unfold mergePreferredProviders at hfirst
  rw [if_neg (by simpa using hne)] at hfirst
  obtain ⟨items, hitems, hfirst⟩ := bind_eq_ok.mp hfirst
  rw [hlist, Value.toItems_list] at hitems
  obtain rfl := Except.ok.inj hitems
  obtain ⟨kept, hkept, hfirst⟩ := bind_eq_ok.mp hfirst
  rw [keepOrAdopt, if_neg (by simpa using happroved)] at hkept
  obtain rfl := pure_eq_ok.mp hfirst
  exact ⟨kept, hkept, by rw [hget, Dict.get_set_self]⟩

/-- **When two provider lists intersect.** -/
theorem order_in_both_iff
    (hlist : governance.get "approved_providers" = .list approved) (happroved : approved ≠ [])
    (hpreferred : authorization.providerPreferences.asDict.get "preferred_providers" =
      .list (preferred.map .str)) (hne : preferred ≠ [])
    (hmerge : mergePromptGovernanceConstraints governance authorization = .ok merged)
    (hpolicy : buildProviderSelectionPolicy { policy with governanceConstraints := merged } =
      .ok decision) :
    InBothLists approved (preferred.map .str) decision.providerOrder ↔
      (∃ s ∈ preferred, .str s ∈ approved ∧ strip s ≠ "") ∨
        ∀ p, Usable policy (mergedRoutingMode governance authorization) p →
          ListsProvider approved p ∧ ListsProvider (preferred.map .str) p := by
  obtain ⟨kept, hkept, hget⟩ := approved_of_merge hlist happroved hpreferred hne hmerge
  obtain ⟨-, -, -, -, -, hmode, -⟩ := merge_spec hmerge
  have horder : ∀ p, p ∈ decision.providerOrder ↔
      Approved merged p ∧ Usable policy (mergedRoutingMode governance authorization) p := by
    intro p
    rw [mem_providerOrder_iff hpolicy, ← hmode]
    exact ⟨fun ⟨ha, hu⟩ => ⟨ha, hu.1, hu.2, hu.3, hu.4⟩,
      fun ⟨ha, hu⟩ => ⟨ha, hu.1, hu.2, hu.3, hu.4⟩⟩
  constructor
  · intro hboth
    by_cases hshared : ∃ s ∈ preferred, .str s ∈ approved ∧ strip s ≠ ""
    · exact Or.inl hshared
    · refine Or.inr fun p hu => hboth p ((horder p).mpr ⟨Or.inl ?_, hu⟩)
      rw [hget, List.eq_nil_iff_forall_not_mem]
      intro q hq
      obtain ⟨hblank, x, hx, rfl⟩ := mem_lowerList_list.mp hq
      obtain ⟨hx, s, hs, rfl⟩ := (mem_of_keepPreferred hkept).mp hx
      exact hshared ⟨s, hs, hx, fun hs => hblank (by simp [Value.normalizeLower, hs])⟩
  · rintro (⟨s, hs, hsa, hblank⟩ | hall) p hp
    · obtain ⟨happ, -⟩ := (horder p).mp hp
      have hmem : p ∈ lowerList (.list kept) := by
        rcases happ with hnil | hmem
        · have hkeep : (Value.str s) ∈ kept := (mem_of_keepPreferred hkept).mpr ⟨hsa, s, hs, rfl⟩
          have hin := mem_lowerList_list.mpr ⟨by simpa [Value.normalizeLower] using hblank, _, hkeep, rfl⟩
          rw [hget] at hnil
          rw [hnil] at hin
          exact absurd hin List.not_mem_nil
        · rwa [hget] at hmem
      obtain ⟨-, x, hx, hxp⟩ := mem_lowerList_list.mp hmem
      obtain ⟨hxa, t, ht, rfl⟩ := (mem_of_keepPreferred hkept).mp hx
      exact ⟨⟨_, hxa, hxp⟩, ⟨_, List.mem_map_of_mem ht, hxp⟩⟩
    · exact hall p ((horder p).mp hp).2

/-- The request approves `openai` and `local`, the prompt prefers `openai`: the order stays inside
both lists. -/
theorem shared_entry_stays_inside :
    InBothLists [.str "openai", .str "local"] (["openai"].map .str) ["openai"] := by
  have hpolicy : buildProviderSelectionPolicy
      { enabledProviders := [.str "local", .str "openai"],
        providerHealth := [("openai", .dict [("availability", .str "available")])],
        governanceConstraints := [("approved_providers", .list [.str "openai"])] } =
      .ok { providerOrder := ["openai"], modelAllowlistByProvider := [("openai", [])],
            timeoutS := 60, retryCountByProvider := [("openai", 0)],
            fallbackAllowed := false } := by decide +kernel
  exact (@order_in_both_iff [("approved_providers", .list [.str "openai", .str "local"])]
    [("approved_providers", .list [.str "openai"])]
    { allowed := true, reason := "authorized",
      providerPreferences := .dict [("preferred_providers", .list [.str "openai"])] }
    { enabledProviders := [.str "local", .str "openai"],
      providerHealth := [("openai", .dict [("availability", .str "available")])] } _ _ ["openai"]
    rfl (by simp) rfl (by simp) rfl hpolicy).mpr
    (Or.inl ⟨"openai", by simp, by simp, by decide +kernel⟩)

/-- Disjoint lists: the request approves `openai`, the prompt prefers `local`, and the order holds
all three enabled providers. -/
theorem disjoint_lists_widen :
    ∃ merged decision,
      mergePromptGovernanceConstraints [("approved_providers", .list [.str "openai"])]
        { allowed := true, reason := "authorized",
          providerPreferences := .dict [("preferred_providers", .list [.str "local"])] } =
        .ok merged ∧
      buildProviderSelectionPolicy
        { enabledProviders := [.str "openai", .str "local", .str "other"],
          providerHealth := [("openai", .dict [("availability", .str "available")]),
            ("local", .dict [("availability", .str "available")]),
            ("other", .dict [("availability", .str "available")])],
          governanceConstraints := merged } = .ok decision ∧
      ¬ InBothLists [.str "openai"] [.str "local"] decision.providerOrder := by
  refine ⟨[("approved_providers", .list [])],
    { providerOrder := ["openai", "local", "other"],
      modelAllowlistByProvider := [("openai", []), ("local", []), ("other", [])],
      timeoutS := 60,
      retryCountByProvider := [("openai", 0), ("local", 0), ("other", 0)],
      fallbackAllowed := true }, rfl, ?_, ?_⟩
  · decide +kernel
  · decide +kernel

end Governance
end HexeAiNode
