import HexeAiNode.Python.Coercion

/-!
# Values after a round trip through JSON

`json.loads(json.dumps(v, sort_keys=True))` gives back the value with the keys of every dictionary in order:
`Value.sortKeys`.  Looking a key up in the result is looking it up in the value (`get_sortKeys`), and the
result equals the value as far as `==` can tell (`same_sortKeys`).

A dictionary has each key once, which `Value.Keyed` says of a list of entries; and `nan` differs from itself,
so the second fact asks for a value without one.
-/

namespace Py

namespace Assoc

variable {α : Type} {d d' : List (String × α)} {key : String}

/-- The order of the entries does not matter to a look-up. -/
theorem get?_of_perm (hperm : d.Perm d') (hd : Distinct d) : get? d key = get? d' key := by
  have hd' : Distinct d' := (hperm.map Prod.fst).nodup_iff.mp hd
  rcases hget : get? d key with _ | a
  · symm
    rw [get?_eq_none_iff] at hget ⊢
    exact fun hmem => hget ((hperm.map Prod.fst).mem_iff.mpr hmem)
  · exact (get?_of_mem hd' (hperm.mem_iff.mp (mem_of_get? hget))).symm

end Assoc

namespace Value

/-- The entries in the order of their keys. -/
def inKeyOrder (kvs : List (String × Value)) : List (String × Value) :=
  kvs.insertionSort fun a b => a.1.toList ≤ b.1.toList

theorem inKeyOrder_perm (kvs : List (String × Value)) : (inKeyOrder kvs).Perm kvs :=
  List.perm_insertionSort _ kvs

mutual

/-- The value that is read back after it was written with sorted keys. -/
def sortKeys : Value → Value
  | list xs => list (sortKeysList xs)
  | dict kvs => dict (inKeyOrder (sortKeysEntries kvs))
  | v => v

/-- Every element read back. -/
def sortKeysList : List Value → List Value
  | [] => []
  | x :: xs => sortKeys x :: sortKeysList xs

/-- Every entry read back. -/
def sortKeysEntries : List (String × Value) → List (String × Value)
  | [] => []
  | (k, v) :: kvs => (k, sortKeys v) :: sortKeysEntries kvs

end

mutual

/-- Every dictionary of the value has each of its keys once. -/
def Keyed : Value → Prop
  | list xs => KeyedList xs
  | dict kvs => Assoc.Distinct kvs ∧ KeyedEntries kvs
  | _ => True

/-- Every element is keyed. -/
def KeyedList : List Value → Prop
  | [] => True
  | x :: xs => Keyed x ∧ KeyedList xs

/-- The value of every entry is keyed. -/
def KeyedEntries : List (String × Value) → Prop
  | [] => True
  | (_, v) :: kvs => Keyed v ∧ KeyedEntries kvs

end

mutual

/-- No number of the value is `nan`. -/
def NanFree : Value → Prop
  | float x _ => x ≠ .nan
  | list xs => NanFreeList xs
  | dict kvs => NanFreeEntries kvs
  | _ => True

/-- No element has a `nan`. -/
def NanFreeList : List Value → Prop
  | [] => True
  | x :: xs => NanFree x ∧ NanFreeList xs

/-- The value of no entry has a `nan`. -/
def NanFreeEntries : List (String × Value) → Prop
  | [] => True
  | (_, v) :: kvs => NanFree v ∧ NanFreeEntries kvs

end

/-! ## Lists and entries -/

theorem sortKeysList_eq_map (xs : List Value) : sortKeysList xs = xs.map sortKeys := by
  induction xs with
  | nil => rfl
  | cons x xs ih => rw [sortKeysList, ih, List.map_cons]

theorem sortKeysEntries_eq_map (kvs : List (String × Value)) :
    sortKeysEntries kvs = kvs.map fun e => (e.1, sortKeys e.2) := by
  induction kvs with
  | nil => rfl
  | cons e kvs ih => rw [sortKeysEntries, ih, List.map_cons]

theorem keyedList_iff {xs : List Value} : KeyedList xs ↔ ∀ x ∈ xs, x.Keyed := by
  induction xs with
  | nil => simp [KeyedList]
  | cons x xs ih => simp [KeyedList, ih]

theorem keyedEntries_iff {kvs : List (String × Value)} : KeyedEntries kvs ↔ ∀ e ∈ kvs, e.2.Keyed := by
  induction kvs with
  | nil => simp [KeyedEntries]
  | cons e kvs ih => simp [KeyedEntries, ih]

theorem nanFreeList_iff {xs : List Value} : NanFreeList xs ↔ ∀ x ∈ xs, x.NanFree := by
  induction xs with
  | nil => simp [NanFreeList]
  | cons x xs ih => simp [NanFreeList, ih]

theorem nanFreeEntries_iff {kvs : List (String × Value)} :
    NanFreeEntries kvs ↔ ∀ e ∈ kvs, e.2.NanFree := by
  induction kvs with
  | nil => simp [NanFreeEntries]
  | cons e kvs ih => simp [NanFreeEntries, ih]

/-- The entries of a dictionary that is read back. -/
theorem sortKeys_dict_perm (kvs : List (String × Value)) :
    (inKeyOrder (sortKeysEntries kvs)).Perm (kvs.map fun e => (e.1, sortKeys e.2)) := by
  rw [← sortKeysEntries_eq_map]
  exact inKeyOrder_perm _

theorem distinct_map_sortKeys {kvs : List (String × Value)} (h : Assoc.Distinct kvs) :
    Assoc.Distinct (kvs.map fun e => (e.1, sortKeys e.2)) := by
  unfold Assoc.Distinct Assoc.keys at h ⊢
  rw [List.map_map]
  exact h

theorem get?_map_sortKeys (kvs : List (String × Value)) (key : String) :
    Assoc.get? (kvs.map fun e => (e.1, sortKeys e.2)) key = (Assoc.get? kvs key).map sortKeys := by
  induction kvs with
  | nil => rfl
  | cons e kvs ih =>
    rw [List.map_cons, Assoc.get?_cons, Assoc.get?_cons, ih]
    split <;> rfl

/-- **Looking a key up** in a dictionary that is read back. -/
theorem get?_sortKeys {kvs : List (String × Value)} (h : Assoc.Distinct kvs) (key : String) :
    Assoc.get? (inKeyOrder (sortKeysEntries kvs)) key = (Assoc.get? kvs key).map sortKeys := by
  rw [← get?_map_sortKeys, Assoc.get?_of_perm (sortKeys_dict_perm kvs).symm (distinct_map_sortKeys h)]

theorem get_sortKeys {kvs : List (String × Value)} (h : Assoc.Distinct kvs) (key : String) :
    Dict.get (inKeyOrder (sortKeysEntries kvs)) key = (Dict.get kvs key).sortKeys := by
  unfold Dict.get
  rw [get?_sortKeys h]
  rcases Assoc.get? kvs key with _ | v <;> rfl

/-- An entry of a keyed dictionary is keyed. -/
theorem keyed_get {kvs : List (String × Value)} (h : KeyedEntries kvs) (key : String) :
    (Dict.get kvs key).Keyed := by
  unfold Dict.get
  rcases hget : Assoc.get? kvs key with _ | v
  · trivial
  · exact keyedEntries_iff.mp h (key, v) (Assoc.mem_of_get? hget)

/-! ## Equality -/

theorem sameEntries_iff {kvs d : List (String × Value)} :
    sameEntries kvs d = true ↔ ∀ e ∈ kvs, ∃ w, Assoc.get? d e.1 = some w ∧ same e.2 w = true := by
  induction kvs with
  | nil => simp [sameEntries]
  | cons e kvs ih =>
    obtain ⟨k, v⟩ := e
    rw [sameEntries, Bool.and_eq_true, ih, List.forall_mem_cons]
    rcases Assoc.get? d k with _ | w <;> simp

mutual

/-- **The round trip** gives a value that equals the one written. -/
theorem same_sortKeys : ∀ v : Value, v.Keyed → v.NanFree → same v.sortKeys v = true
  | null, _, _ => rfl
  | bool b, _, _ => by simp [sortKeys, same, number?]
  | int i, _, _ => by simp [sortKeys, same, number?]
  | float x text, _, h => by
    have hx : x ≠ .nan := by simpa only [NanFree] using h
    simp [sortKeys, same, number?, hx]
  | str s, _, _ => by simp [sortKeys, same]
  | list xs, hkeyed, hfree => by
    rw [sortKeys, same]
    exact sameList_sortKeys xs (by simpa only [Keyed] using hkeyed) (by simpa only [NanFree] using hfree)
  | dict kvs, hkeyed, hfree => by
    rw [Keyed] at hkeyed
    rw [NanFree] at hfree
    rw [sortKeys, same, Bool.and_eq_true, sameEntries_iff]
    refine ⟨?_, fun e he => ?_⟩
    · rw [(sortKeys_dict_perm kvs).length_eq, List.length_map, beq_self_eq_true]
    · obtain ⟨⟨k, v⟩, hmem, rfl⟩ := List.mem_map.mp ((sortKeys_dict_perm kvs).mem_iff.mp he)
      exact ⟨v, Assoc.get?_of_mem hkeyed.1 hmem, same_sortKeys_of_mem kvs hkeyed.2 hfree k v hmem⟩

theorem sameList_sortKeys : ∀ xs : List Value, KeyedList xs → NanFreeList xs →
    sameList (sortKeysList xs) xs = true
  | [], _, _ => rfl
  | x :: xs, hkeyed, hfree => by
    rw [KeyedList] at hkeyed
    rw [NanFreeList] at hfree
    rw [sortKeysList, sameList, same_sortKeys x hkeyed.1 hfree.1, sameList_sortKeys xs hkeyed.2 hfree.2]
    rfl

theorem same_sortKeys_of_mem : ∀ kvs : List (String × Value), KeyedEntries kvs → NanFreeEntries kvs →
    ∀ k v, (k, v) ∈ kvs → same v.sortKeys v = true
  | [], _, _, _, _, h => absurd h List.not_mem_nil
  | (k', v') :: kvs, hkeyed, hfree, k, v, h => by
    rw [KeyedEntries] at hkeyed
    rw [NanFreeEntries] at hfree
    rcases List.mem_cons.mp h with heq | hmem
    · obtain ⟨-, rfl⟩ := Prod.mk.inj heq
      exact same_sortKeys v hkeyed.1 hfree.1
    · exact same_sortKeys_of_mem kvs hkeyed.2 hfree.2 k v hmem

end

end Value

end Py
