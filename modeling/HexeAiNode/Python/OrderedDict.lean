import Mathlib.Algebra.Order.BigOperators.Group.List
import Mathlib.Data.Int.Order.Basic
import HexeAiNode.Python.Assoc

/-!
# Dictionaries with distinct keys

`OrderedDict` bundles the entry list of a dictionary with the fact that no key occurs twice, so that
every operation returns a dictionary and no proof has to carry the fact along.

`total` sums a quantity over the values.  Its laws are what a running total kept beside a dictionary
relies on: writing replaces the old contribution of the key (`total_set`) and deleting removes it
(`total_erase`).
-/

namespace Py

/-- A Python dictionary: entries in insertion order, no key twice. -/
@[ext]
structure OrderedDict (κ α : Type*) where
  entries : List (κ × α)
  distinct : Assoc.Distinct entries

namespace OrderedDict

variable {κ α β : Type*} {M : Type*}

instance : Inhabited (OrderedDict κ α) := ⟨⟨[], List.nodup_nil⟩⟩

instance [DecidableEq κ] [DecidableEq α] : DecidableEq (OrderedDict κ α) := fun a b =>
  decidable_of_iff (a.entries = b.entries) (by cases a; cases b; simp)

/-- `{}`. -/
def empty : OrderedDict κ α := ⟨[], List.nodup_nil⟩

/-- `list(d.keys())`. -/
def keys (d : OrderedDict κ α) : List κ := Assoc.keys d.entries

/-- `list(d.values())`. -/
def values (d : OrderedDict κ α) : List α := d.entries.map Prod.snd

/-- Every value replaced by its image, under the same keys. -/
def mapValues (f : α → β) (d : OrderedDict κ α) : OrderedDict κ β where
  entries := d.entries.map fun e => (e.1, f e.2)
  distinct := by
    have h := d.distinct
    unfold Assoc.Distinct Assoc.keys at *
    rw [List.map_map]
    exact h

/-- The sum of a quantity over the values. -/
def total [AddCommMonoid M] (d : OrderedDict κ α) (f : α → M) : M := (d.values.map f).sum

@[simp] theorem total_empty [AddCommMonoid M] (f : α → M) :
    (empty : OrderedDict κ α).total f = 0 := rfl

theorem total_mapValues [AddCommMonoid M] (g : α → β) (d : OrderedDict κ α) (f : β → M) :
    (d.mapValues g).total f = d.total fun a => f (g a) := by
  simp [total, values, mapValues, Function.comp_def]

theorem mem_values_mapValues {g : α → β} {d : OrderedDict κ α} {b : β}
    (h : b ∈ (d.mapValues g).values) : ∃ a ∈ d.values, g a = b := by
  have hv : (d.mapValues g).values = d.values.map g := by
    simp [values, mapValues, Function.comp_def]
  rw [hv] at h
  exact List.mem_map.mp h

/-- The error of a failed computation. -/
def errorOf {ε : Type*} : Except ε α → Option ε
  | .ok _ => none
  | .error e => some e

/-- Every value replaced by what a failing update makes of it; the first failure wins. -/
def updateValues {ε : Type*} (f : α → Except ε α) (d : OrderedDict κ α) :
    Except ε (OrderedDict κ α) :=
  match d.values.findSome? fun a => errorOf (f a) with
  | some e => .error e
  | none => .ok (d.mapValues fun a => (f a).toOption.getD a)

/-- A value of an updated dictionary is the update of an old one. -/
theorem mem_values_updateValues {ε : Type*} {f : α → Except ε α} {d d' : OrderedDict κ α}
    (h : d.updateValues f = .ok d') {b : α} (hb : b ∈ d'.values) :
    ∃ a ∈ d.values, f a = .ok b := by
  unfold updateValues at h
  split at h
  · exact absurd h (by simp)
  · next hnone =>
    obtain rfl := Except.ok.inj h
    obtain ⟨a, ha, rfl⟩ := mem_values_mapValues hb
    have hok := List.findSome?_eq_none_iff.mp hnone a ha
    refine ⟨a, ha, ?_⟩
    rcases hfa : f a with e | b
    · rw [hfa] at hok
      exact absurd hok (by simp [errorOf])
    · rfl

variable [DecidableEq κ]

/-- `d.get(key)`. -/
def get? (d : OrderedDict κ α) (key : κ) : Option α := Assoc.get? d.entries key

/-- `key in d`. -/
def contains (d : OrderedDict κ α) (key : κ) : Bool := (d.get? key).isSome

/-- `d[key] = a`. -/
def set (d : OrderedDict κ α) (key : κ) (a : α) : OrderedDict κ α :=
  ⟨Assoc.set d.entries key a, d.distinct.set key a⟩

/-- `d.pop(key, None)`. -/
def erase (d : OrderedDict κ α) (key : κ) : OrderedDict κ α :=
  ⟨Assoc.erase d.entries key, d.distinct.erase key⟩

@[simp] theorem get?_empty (key : κ) : (empty : OrderedDict κ α).get? key = none := rfl

@[simp] theorem get?_set_self (d : OrderedDict κ α) (key : κ) (a : α) :
    (d.set key a).get? key = some a := Assoc.get?_set_self d.entries key a

theorem get?_set (d : OrderedDict κ α) (key key' : κ) (a : α) :
    (d.set key a).get? key' = if key' = key then some a else d.get? key' :=
  Assoc.get?_set d.entries key key' a

theorem get?_set_of_ne (d : OrderedDict κ α) {key key' : κ} (a : α) (h : key' ≠ key) :
    (d.set key a).get? key' = d.get? key' := Assoc.get?_set_of_ne d.entries a h

@[simp] theorem set_set (d : OrderedDict κ α) (key : κ) (a b : α) :
    (d.set key a).set key b = d.set key b :=
  OrderedDict.ext (Assoc.set_set d.entries key a b)

@[simp] theorem get?_erase_self (d : OrderedDict κ α) (key : κ) :
    (d.erase key).get? key = none := Assoc.get?_erase_self d.entries key

theorem get?_erase (d : OrderedDict κ α) (key key' : κ) :
    (d.erase key).get? key' = if key' = key then none else d.get? key' :=
  Assoc.get?_erase d.entries key key'

theorem get?_erase_of_ne (d : OrderedDict κ α) {key key' : κ} (h : key' ≠ key) :
    (d.erase key).get? key' = d.get? key' := Assoc.get?_erase_of_ne d.entries h

theorem get?_mapValues (f : α → β) (d : OrderedDict κ α) (key : κ) :
    (d.mapValues f).get? key = (d.get? key).map f := by
  unfold get? mapValues
  dsimp only
  induction d.entries with
  | nil => rfl
  | cons e entries ih =>
    obtain ⟨k, a⟩ := e
    by_cases h : k = key
    · simp [Assoc.get?_cons, h]
    · simpa [Assoc.get?_cons, h] using ih

/-- `d.pop(key, None)` for each key of a list. -/
def eraseAll (d : OrderedDict κ α) (keys : List κ) : OrderedDict κ α := keys.foldl erase d

theorem get?_eraseAll (d : OrderedDict κ α) (keys : List κ) (key : κ) :
    (d.eraseAll keys).get? key = if key ∈ keys then none else d.get? key := by
  unfold eraseAll
  induction keys generalizing d with
  | nil => simp
  | cons k keys ih =>
    rw [List.foldl_cons, ih, get?_erase]
    by_cases hk : key = k
    · simp [hk]
    · simp [hk]

/-- What is left keeps its order. -/
theorem entries_eraseAll (d : OrderedDict κ α) (keys : List κ) :
    (d.eraseAll keys).entries = d.entries.filter fun e => e.1 ∉ keys := by
  unfold eraseAll
  induction keys generalizing d with
  | nil => simp
  | cons k keys ih =>
    rw [List.foldl_cons, ih]
    show (d.entries.filter fun e => e.1 ≠ k).filter _ = _
    rw [List.filter_filter]
    refine List.filter_congr fun e _ => ?_
    simp [Bool.and_comm]

theorem entries_set_of_none {d : OrderedDict κ α} {key : κ} (a : α) (h : d.get? key = none) :
    (d.set key a).entries = d.entries ++ [(key, a)] := Assoc.set_of_get?_eq_none a h

theorem mapValues_set (f : α → β) (d : OrderedDict κ α) (key : κ) (a : α) :
    (d.set key a).mapValues f = (d.mapValues f).set key (f a) := by
  ext1
  exact Assoc.map_set f d.entries key a

theorem mapValues_erase (f : α → β) (d : OrderedDict κ α) (key : κ) :
    (d.erase key).mapValues f = (d.mapValues f).erase key := by
  ext1
  exact Assoc.map_erase f d.entries key

theorem mem_values_of_get? {d : OrderedDict κ α} {key : κ} {a : α} (h : d.get? key = some a) :
    a ∈ d.values := List.mem_map.mpr ⟨(key, a), Assoc.mem_of_get? h, rfl⟩

theorem get?_of_mem_entries {d : OrderedDict κ α} {key : κ} {a : α} (h : (key, a) ∈ d.entries) :
    d.get? key = some a := Assoc.get?_of_mem d.distinct h

/-- A value of a written dictionary is the new one or an old one. -/
theorem mem_values_set {d : OrderedDict κ α} {key : κ} {a b : α}
    (h : b ∈ (d.set key a).values) : b = a ∨ b ∈ d.values := by
  obtain ⟨⟨k, b'⟩, hmem, rfl⟩ := List.mem_map.mp h
  have hget := get?_of_mem_entries hmem
  rw [get?_set] at hget
  split at hget
  · exact Or.inl (Option.some.inj hget).symm
  · exact Or.inr (mem_values_of_get? hget)

theorem mem_values_erase {d : OrderedDict κ α} {key : κ} {b : α}
    (h : b ∈ (d.erase key).values) : b ∈ d.values := by
  obtain ⟨e, hmem, rfl⟩ := List.mem_map.mp h
  exact List.mem_map.mpr ⟨e, List.mem_of_mem_filter hmem, rfl⟩

/-! ## Totals -/

/-- What a key contributes to a total. -/
def contribution [Zero M] (d : OrderedDict κ α) (f : α → M) (key : κ) : M :=
  (d.get? key).elim 0 f

theorem contribution_of_get? [Zero M] {d : OrderedDict κ α} {f : α → M} {key : κ} {a : α}
    (h : d.get? key = some a) : d.contribution f key = f a := by
  rw [contribution, h, Option.elim_some]

theorem contribution_of_none [Zero M] {d : OrderedDict κ α} {f : α → M} {key : κ}
    (h : d.get? key = none) : d.contribution f key = 0 := by
  rw [contribution, h, Option.elim_none]

/-- Deleting a key takes its contribution out of a total. -/
theorem total_erase_add [AddCommMonoid M] (d : OrderedDict κ α) (f : α → M) (key : κ) :
    (d.erase key).total f + d.contribution f key = d.total f := by
  obtain ⟨entries, hd⟩ := d
  unfold total values erase contribution get?
  dsimp only
  induction entries with
  | nil => simp [Assoc.erase]
  | cons e entries ih =>
    obtain ⟨k, a⟩ := e
    have hnodup := List.nodup_cons.mp hd
    have ih := ih hnodup.2
    by_cases h : k = key
    · subst h
      have habsent : Assoc.get? entries k = none := Assoc.get?_eq_none_iff.mpr hnodup.1
      rw [habsent, Option.elim_none, add_zero] at ih
      have hcons : Assoc.erase ((k, a) :: entries) k = Assoc.erase entries k := by
        simp [Assoc.erase]
      rw [hcons, Assoc.get?_cons, if_pos rfl, Option.elim_some, ih, add_comm]
      simp
    · have hcons : Assoc.erase ((k, a) :: entries) key = (k, a) :: Assoc.erase entries key := by
        simp [Assoc.erase, h]
      rw [hcons, Assoc.get?_cons, if_neg h, List.map_cons, List.map_cons, List.sum_cons, add_assoc,
        ih]
      simp

/-- Writing a key replaces its contribution. -/
theorem total_set_add [AddCommMonoid M] (d : OrderedDict κ α) (f : α → M) (key : κ) (a : α) :
    (d.set key a).total f + d.contribution f key = d.total f + f a := by
  obtain ⟨entries, hd⟩ := d
  unfold total values set contribution get?
  dsimp only
  clear hd
  induction entries with
  | nil => simp [Assoc.set]
  | cons e entries ih =>
    obtain ⟨k, b⟩ := e
    by_cases h : k = key
    · subst h
      simp only [Assoc.set, if_true, Assoc.get?_cons, Option.elim_some, List.map_cons,
        List.sum_cons]
      rw [add_comm, ← add_assoc, add_comm (f b) (f a), add_assoc, add_comm]
    · simp only [Assoc.set, if_neg h, Assoc.get?_cons, List.map_cons, List.sum_cons]
      rw [add_assoc, ih, add_assoc]

/-- A new key adds its contribution. -/
theorem total_set_of_none [AddCommMonoid M] {d : OrderedDict κ α} (f : α → M) {key : κ} (a : α)
    (h : d.get? key = none) : (d.set key a).total f = d.total f + f a := by
  have hadd := total_set_add d f key a
  rwa [contribution_of_none h, add_zero] at hadd

omit [DecidableEq κ] in
/-- A total of non-negative contributions is non-negative. -/
theorem total_nonneg {d : OrderedDict κ α} {f : α → ℤ} (h : ∀ a ∈ d.values, 0 ≤ f a) :
    0 ≤ d.total f := by
  refine List.sum_nonneg fun x hx => ?_
  obtain ⟨a, ha, rfl⟩ := List.mem_map.mp hx
  exact h a ha

end OrderedDict
end Py
