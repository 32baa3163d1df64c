import HexeAiNode.Python.Json

/-!
# Copies of a value

A value that stays in memory is copied as it is; one that is written with sorted keys and read again has its keys in
order.  `Copying` is what both have in common: scalars are kept, lists are copied element by element, and looking a key
up in a copied dictionary gives the copy of what the dictionary holds.  Up to the order of the keys nothing changes.
-/

namespace Py

namespace Value

theorem sortKeysEntries_inKeyOrder {kvs : Dict} (h : ∀ e ∈ kvs, e.2.sortKeys = e.2) :
    inKeyOrder (sortKeysEntries (inKeyOrder kvs)) = inKeyOrder kvs := by
  have hfixed : sortKeysEntries (inKeyOrder kvs) = inKeyOrder kvs := by
    rw [sortKeysEntries_eq_map]
    refine (List.map_congr_left fun e he => ?_).trans (List.map_id _)
    exact Prod.ext rfl (h e ((inKeyOrder_perm kvs).mem_iff.mp he))
  rw [hfixed]
  exact List.Pairwise.insertionSort_eq (List.pairwise_insertionSort _ kvs)

mutual

/-- **The order of the keys** is settled. -/
theorem sortKeys_sortKeys : ∀ v : Value, v.sortKeys.sortKeys = v.sortKeys
  | null | bool _ | int _ | float _ _ | str _ => by simp only [sortKeys]
  | list xs => by
    simp only [sortKeys, sortKeysList_eq_map, List.map_map]
    exact congrArg list (List.map_congr_left fun x hx => sortKeys_sortKeys_of_mem_list xs x hx)
  | dict kvs => by
    rw [sortKeys, sortKeys, sortKeysEntries_inKeyOrder]
    intro e he
    rw [sortKeysEntries_eq_map] at he
    obtain ⟨⟨k, v⟩, hmem, rfl⟩ := List.mem_map.mp he
    exact sortKeys_sortKeys_of_mem kvs k v hmem

theorem sortKeys_sortKeys_of_mem_list : ∀ (xs : List Value) (x : Value), x ∈ xs → x.sortKeys.sortKeys = x.sortKeys
  | [], _, h => absurd h List.not_mem_nil
  | y :: ys, x, h => by
    rcases List.mem_cons.mp h with heq | hmem
    · rw [heq]
      exact sortKeys_sortKeys y
    · exact sortKeys_sortKeys_of_mem_list ys x hmem

theorem sortKeys_sortKeys_of_mem : ∀ (kvs : Dict) (k : String) (v : Value), (k, v) ∈ kvs →
    v.sortKeys.sortKeys = v.sortKeys
  | [], _, _, h => absurd h List.not_mem_nil
  | (k', v') :: kvs, k, v, h => by
    rcases List.mem_cons.mp h with heq | hmem
    · obtain ⟨-, rfl⟩ := Prod.mk.inj heq
      exact sortKeys_sortKeys v
    · exact sortKeys_sortKeys_of_mem kvs k v hmem

end

end Value

/-- A way to copy values that keeps scalars and look-ups, such as writing them with sorted keys and reading them. -/
structure Copying (copy : Value → Value) : Prop where
  scalar : ∀ v, v.isDict = false → v.isList = false → copy v = v
  list : ∀ xs, copy (.list xs) = .list (xs.map copy)
  isDict : ∀ kvs, (copy (.dict kvs)).isDict = true
  entries : ∀ kvs, Assoc.Distinct kvs → Assoc.Distinct (copy (.dict kvs)).asDict ∧
    ∀ key, Assoc.get? (copy (.dict kvs)).asDict key = (Assoc.get? kvs key).map copy
  sortKeys : ∀ v, (copy v).sortKeys = v.sortKeys

theorem copying_id : Copying id where
  scalar _ _ _ := rfl
  list xs := congrArg Value.list (List.map_id xs).symm
  isDict _ := rfl
  entries _ h := ⟨h, fun _ => Option.map_id_apply.symm⟩
  sortKeys _ := rfl

theorem copying_sortKeys : Copying Value.sortKeys where
  scalar v hdict hlist := by
    cases v with
    | list xs => cases hlist
    | dict kvs => cases hdict
    | _ => simp only [Value.sortKeys]
  list xs := by rw [Value.sortKeys, Value.sortKeysList_eq_map]
  isDict kvs := by rw [Value.sortKeys, Value.isDict_dict]
  entries kvs h := by
    rw [Value.sortKeys, Value.asDict_dict]
    have hperm := Value.sortKeys_dict_perm kvs
    exact ⟨(hperm.map Prod.fst).nodup_iff.mpr (Value.distinct_map_sortKeys h), Value.get?_sortKeys h⟩
  sortKeys := Value.sortKeys_sortKeys

namespace Copying

variable {copy : Value → Value} {kvs : Dict}

theorem null (h : Copying copy) : copy .null = .null := h.scalar _ rfl rfl

theorem bool (h : Copying copy) (b : Bool) : copy (.bool b) = .bool b := h.scalar _ rfl rfl

theorem int (h : Copying copy) (n : ℤ) : copy (.int n) = .int n := h.scalar _ rfl rfl

theorem str (h : Copying copy) (s : String) : copy (.str s) = .str s := h.scalar _ rfl rfl

/-- The copy of a dictionary is one. -/
theorem dict_eq (h : Copying copy) (kvs : Dict) : copy (.dict kvs) = .dict (copy (.dict kvs)).asDict := by
  have hdict := h.isDict kvs
  cases hcopy : copy (.dict kvs) with
  | dict kvs' => rfl
  | _ => rw [hcopy] at hdict; cases hdict

theorem distinct (h : Copying copy) (hdistinct : Assoc.Distinct kvs) : Assoc.Distinct (copy (.dict kvs)).asDict :=
  (h.entries kvs hdistinct).1

theorem get? (h : Copying copy) (hdistinct : Assoc.Distinct kvs) (key : String) :
    Assoc.get? (copy (.dict kvs)).asDict key = (Assoc.get? kvs key).map copy := (h.entries kvs hdistinct).2 key

/-- The copied entries. -/
theorem exists_dict (h : Copying copy) (hdistinct : Assoc.Distinct kvs) :
    ∃ kvs', copy (.dict kvs) = .dict kvs' ∧ Assoc.Distinct kvs' ∧
      ∀ key, Assoc.get? kvs' key = (Assoc.get? kvs key).map copy :=
  ⟨_, h.dict_eq kvs, h.distinct hdistinct, h.get? hdistinct⟩

/-- **A field** of a copy. -/
theorem get (h : Copying copy) (hdistinct : Assoc.Distinct kvs) (key : String) :
    (copy (.dict kvs)).asDict.get key = copy (kvs.get key) := by
  unfold Dict.get
  rw [h.get? hdistinct]
  rcases Assoc.get? kvs key with _ | v
  · exact h.null.symm
  · rfl

/-- A field of a copied record. -/
theorem get_of_mem (h : Copying copy) (hdistinct : Assoc.Distinct kvs) {key : String} {v : Value}
    (hmem : (key, v) ∈ kvs) : (copy (.dict kvs)).asDict.get key = copy v := by
  rw [h.get hdistinct, Dict.get, Assoc.get?_of_mem hdistinct hmem, Option.getD_some]

/-- The keys of a copy. -/
theorem mem_keys (h : Copying copy) (hdistinct : Assoc.Distinct kvs) {key : String} :
    key ∈ Assoc.keys (copy (.dict kvs)).asDict ↔ key ∈ Assoc.keys kvs := by
  rw [← not_iff_not, ← Assoc.get?_eq_none_iff, ← Assoc.get?_eq_none_iff, h.get? hdistinct, Option.map_eq_none_iff]

/-- A record whose values are copied. -/
theorem sortKeys_map (h : Copying copy) (kvs : Dict) :
    (Value.dict (kvs.map fun e => (e.1, copy e.2))).sortKeys = (Value.dict kvs).sortKeys := by
  rw [Value.sortKeys, Value.sortKeys, Value.sortKeysEntries_eq_map, Value.sortKeysEntries_eq_map, List.map_map]
  refine congrArg (fun d => Value.dict (Value.inKeyOrder d)) (List.map_congr_left fun e _ => ?_)
  exact Prod.ext rfl (h.sortKeys e.2)

end Copying

end Py
