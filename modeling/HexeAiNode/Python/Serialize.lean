import HexeAiNode.Python.Json

/-!
# Values that pydantic writes

`model_dump(mode="json")` keeps a value of a field without a type as it is, except for the numbers that are
not finite: with the default `ser_json_inf_nan` they become `None`.  What is then written to a file with
sorted keys and read back is `Value.reloaded`.

`same_reloaded_iff` says for which values the result equals what was written: for those whose numbers are all
finite.
-/

namespace Py

namespace Value

mutual

/-- The value as `model_dump(mode="json")` gives it. -/
def jsonMode : Value → Value
  | float (.finite q) text => float (.finite q) text
  | float _ _ => null
  | list xs => list (jsonModeList xs)
  | dict kvs => dict (jsonModeEntries kvs)
  | v => v

/-- Every element dumped. -/
def jsonModeList : List Value → List Value
  | [] => []
  | x :: xs => jsonMode x :: jsonModeList xs

/-- Every entry dumped. -/
def jsonModeEntries : List (String × Value) → List (String × Value)
  | [] => []
  | (k, v) :: kvs => (k, jsonMode v) :: jsonModeEntries kvs

end

mutual

/-- Every number of the value is finite. -/
def IsFinite : Value → Prop
  | float x _ => ∃ q, x = .finite q
  | list xs => FiniteList xs
  | dict kvs => FiniteEntries kvs
  | _ => True

/-- Every element is finite. -/
def FiniteList : List Value → Prop
  | [] => True
  | x :: xs => IsFinite x ∧ FiniteList xs

/-- The value of every entry is finite. -/
def FiniteEntries : List (String × Value) → Prop
  | [] => True
  | (_, v) :: kvs => IsFinite v ∧ FiniteEntries kvs

end

/-- The value that is read back after it was dumped and written with sorted keys. -/
def reloaded (v : Value) : Value := v.jsonMode.sortKeys

mutual

/-- A finite value is dumped as it is. -/
theorem jsonMode_of_isFinite : ∀ {v : Value}, v.IsFinite → v.jsonMode = v
  | null, _ => rfl
  | bool _, _ => rfl
  | int _, _ => rfl
  | float x text, h => by
    obtain ⟨q, rfl⟩ : ∃ q, x = .finite q := by simpa only [IsFinite] using h
    rfl
  | str _, _ => rfl
  | list xs, h => by rw [jsonMode, jsonModeList_of_finite (by simpa only [IsFinite] using h)]
  | dict kvs, h => by rw [jsonMode, jsonModeEntries_of_finite (by simpa only [IsFinite] using h)]

theorem jsonModeList_of_finite : ∀ {xs : List Value}, FiniteList xs → jsonModeList xs = xs
  | [], _ => rfl
  | x :: xs, h => by
    rw [FiniteList] at h
    rw [jsonModeList, jsonMode_of_isFinite h.1, jsonModeList_of_finite h.2]

theorem jsonModeEntries_of_finite : ∀ {kvs : List (String × Value)}, FiniteEntries kvs →
    jsonModeEntries kvs = kvs
  | [], _ => rfl
  | (k, v) :: kvs, h => by
    rw [FiniteEntries] at h
    rw [jsonModeEntries, jsonMode_of_isFinite h.1, jsonModeEntries_of_finite h.2]

end

mutual

/-- A finite value has no `nan`. -/
theorem nanFree_of_isFinite : ∀ {v : Value}, v.IsFinite → v.NanFree
  | null, _ | bool _, _ | int _, _ | str _, _ => trivial
  | float x _, h => by
    obtain ⟨q, rfl⟩ : ∃ q, x = .finite q := by simpa only [IsFinite] using h
    simp [NanFree]
  | list xs, h => by
    rw [NanFree]
    exact nanFreeList_of_finite (by simpa only [IsFinite] using h)
  | dict kvs, h => by
    rw [NanFree]
    exact nanFreeEntries_of_finite (by simpa only [IsFinite] using h)

theorem nanFreeList_of_finite : ∀ {xs : List Value}, FiniteList xs → NanFreeList xs
  | [], _ => trivial
  | x :: xs, h => by
    rw [FiniteList] at h
    exact ⟨nanFree_of_isFinite h.1, nanFreeList_of_finite h.2⟩

theorem nanFreeEntries_of_finite : ∀ {kvs : List (String × Value)}, FiniteEntries kvs → NanFreeEntries kvs
  | [], _ => trivial
  | (k, v) :: kvs, h => by
    rw [FiniteEntries] at h
    exact ⟨nanFree_of_isFinite h.1, nanFreeEntries_of_finite h.2⟩

end

/-! ## Equality with what was written -/

theorem jsonModeEntries_eq_map (kvs : List (String × Value)) :
    jsonModeEntries kvs = kvs.map fun e => (e.1, jsonMode e.2) := by
  induction kvs with
  | nil => rfl
  | cons e kvs ih => rw [jsonModeEntries, ih, List.map_cons]

theorem reloaded_dict_perm (kvs : List (String × Value)) :
    (inKeyOrder (sortKeysEntries (jsonModeEntries kvs))).Perm (kvs.map fun e => (e.1, reloaded e.2)) := by
  have hperm := sortKeys_dict_perm (jsonModeEntries kvs)
  rw [jsonModeEntries_eq_map, List.map_map] at hperm
  rw [jsonModeEntries_eq_map]
  exact hperm

mutual

/-- A value that equals what was written is finite. -/
theorem isFinite_of_same : ∀ {v : Value}, v.Keyed → same v.reloaded v = true → v.IsFinite
  | null, _, _ | bool _, _, _ | int _, _, _ | str _, _, _ => trivial
  | float x text, _, h => by
    rw [IsFinite]
    cases x with
    | finite q => exact ⟨q, rfl⟩
    | _ => simp [reloaded, jsonMode, sortKeys, same, number?] at h
  | list xs, hkeyed, h => by
    rw [reloaded, jsonMode, sortKeys, same] at h
    rw [IsFinite]
    exact finiteList_of_same (by simpa only [Keyed] using hkeyed) h
  | dict kvs, hkeyed, h => by
    rw [Keyed] at hkeyed
    rw [reloaded, jsonMode, sortKeys, same, Bool.and_eq_true, sameEntries_iff] at h
    rw [IsFinite]
    refine finiteEntries_of_same hkeyed.2 fun k v hmem => ?_
    have hin : (k, reloaded v) ∈ inKeyOrder (sortKeysEntries (jsonModeEntries kvs)) :=
      (reloaded_dict_perm kvs).mem_iff.mpr (List.mem_map_of_mem hmem)
    obtain ⟨w, hget, hsame⟩ := h.2 _ hin
    rw [Assoc.get?_of_mem hkeyed.1 hmem] at hget
    obtain rfl := Option.some.inj hget
    exact hsame

theorem finiteList_of_same : ∀ {xs : List Value}, KeyedList xs →
    sameList (sortKeysList (jsonModeList xs)) xs = true → FiniteList xs
  | [], _, _ => trivial
  | x :: xs, hkeyed, h => by
    rw [KeyedList] at hkeyed
    rw [jsonModeList, sortKeysList, sameList, Bool.and_eq_true] at h
    exact ⟨isFinite_of_same hkeyed.1 h.1, finiteList_of_same hkeyed.2 h.2⟩

theorem finiteEntries_of_same : ∀ {kvs : List (String × Value)}, KeyedEntries kvs →
    (∀ k v, (k, v) ∈ kvs → same (reloaded v) v = true) → FiniteEntries kvs
  | [], _, _ => trivial
  | (k, v) :: kvs, hkeyed, h => by
    rw [KeyedEntries] at hkeyed
    exact ⟨isFinite_of_same hkeyed.1 (h k v List.mem_cons_self),
      finiteEntries_of_same hkeyed.2 fun k' v' hmem => h k' v' (List.mem_cons_of_mem _ hmem)⟩

end

/-- **What is read back equals what was written exactly when its numbers are finite.** -/
theorem same_reloaded_iff {v : Value} (hkeyed : v.Keyed) : same v.reloaded v = true ↔ v.IsFinite := by
  refine ⟨isFinite_of_same hkeyed, fun hfinite => ?_⟩
  rw [reloaded, jsonMode_of_isFinite hfinite]
  exact same_sortKeys v hkeyed (nanFree_of_isFinite hfinite)

end Value

/-- A dictionary that is read back. -/
def Dict.reloaded (d : Dict) : Dict := (Value.dict d).reloaded.asDict

theorem Value.reloaded_dict (d : Dict) : (Value.dict d).reloaded = .dict d.reloaded := by
  unfold Dict.reloaded Value.reloaded
  rw [jsonMode, sortKeys]
  rfl

end Py
