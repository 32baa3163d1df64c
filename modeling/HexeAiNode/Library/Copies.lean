import Mathlib.Data.Option.Basic
import HexeAiNode.Library.Run

/-!
# Denormalised copies

A value is kept under a key, as one copy in each of its homes, and writing a value visits its homes only.
When a later value of the same key has other homes, the copies in the homes that it lacks stay behind.

`Layout.Agree vs s` says that the store `s` is what the values `vs` leave when every value replaces the one
before it: a home of the latest value of a key holds it, any other place holds nothing under the key.
`agree_write_iff` is the step: a write keeps it exactly if it covers the places that hold a copy; and
`agree_iff` is the same for the whole list.
-/

/-- How values are kept. -/
structure Layout (π κ ν : Type*) where
  key : ν → κ
  home : ν → π → Bool

namespace Layout

variable {π κ ν : Type*} [DecidableEq κ] (L : Layout π κ ν)

/-- A value is written to its homes. -/
def write (s : π → κ → Option ν) (v : ν) : π → κ → Option ν := fun p k =>
  if k = L.key v ∧ L.home v p = true then some v else s p k

/-- The last value of a key. -/
def latest (vs : List ν) (k : κ) : Option ν := vs.reverse.find? fun v => L.key v = k

/-- The copies are those of the last values. -/
def Agree (vs : List ν) (s : π → κ → Option ν) : Prop :=
  ∀ p k, s p k = (L.latest vs k).filter fun v => L.home v p

/-- Every place that holds a copy of the value's key is a home of the value. -/
def Covers (s : π → κ → Option ν) (v : ν) : Prop :=
  ∀ p, (s p (L.key v)).isSome = true → L.home v p = true

@[simp] theorem latest_nil (k : κ) : L.latest [] k = none := rfl

theorem latest_concat (vs : List ν) (v : ν) (k : κ) :
    L.latest (vs ++ [v]) k = if L.key v = k then some v else L.latest vs k := by
  unfold latest
  rw [List.reverse_append, List.reverse_singleton, List.singleton_append, List.find?_cons]
  by_cases h : L.key v = k <;> simp [h]

/-- The last value of a key is one of the values, and it has the key. -/
theorem latest_spec {vs : List ν} {k : κ} {v : ν} (h : L.latest vs k = some v) : v ∈ vs ∧ L.key v = k :=
  ⟨List.mem_reverse.mp (List.mem_of_find?_eq_some h), by simpa using List.find?_some h⟩

theorem agree_nil : L.Agree [] fun _ _ => none := fun _ _ => rfl

variable {L} in
/-- What is found is the last value of its key. -/
theorem Agree.latest_of_eq_some {vs : List ν} {s : π → κ → Option ν} {p : π} {k : κ} {v : ν}
    (h : L.Agree vs s) (hv : s p k = some v) : L.latest vs k = some v := by
  rw [h p k] at hv
  exact (Option.filter_eq_some_iff.mp hv).1

/-- **A write keeps the copies in agreement exactly if it covers those that are there.** -/
theorem agree_write_iff {vs : List ν} {s : π → κ → Option ν} (h : L.Agree vs s) (v : ν) :
    L.Agree (vs ++ [v]) (L.write s v) ↔ L.Covers s v := by
  constructor
  · intro hagree p hsome
    by_contra hhome
    have hp := hagree p (L.key v)
    rw [latest_concat, if_pos rfl, Option.filter_some, if_neg hhome, write,
      if_neg fun hkey => hhome hkey.2] at hp
    rw [hp] at hsome
    exact nomatch hsome
  · intro hcovers p k
    rw [latest_concat, write]
    by_cases hk : L.key v = k
    · subst hk
      rw [if_pos rfl, Option.filter_some]
      by_cases hhome : L.home v p = true
      · rw [if_pos ⟨rfl, hhome⟩, if_pos hhome]
      · rw [if_neg fun hkey => hhome hkey.2, if_neg hhome]
        by_contra hne
        exact hhome (hcovers p (Option.isSome_iff_ne_none.mpr hne))
    · rw [if_neg hk, if_neg fun hkey => hk hkey.1.symm]
      exact h p k

/-- **The copies agree all along a list of writes exactly if every write covers those that are there.** -/
theorem agree_iff (vs : List ν) :
    (∀ us, us <+: vs → L.Agree us (Run.after L.write (fun _ _ => none) us)) ↔
      Run.Along L.write L.Covers (fun _ _ => none) vs := by
  refine Run.forall_prefix_iff_along L.agree_nil (fun us v hus => ?_) vs
  rw [Run.after_append]
  exact L.agree_write_iff hus v

end Layout
