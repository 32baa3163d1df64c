import Mathlib.Algebra.BigOperators.Group.List.Basic
import Mathlib.Algebra.BigOperators.Group.List.Lemmas
import HexeAiNode.Python.Assoc

/-!
# Rolling entries up by key

A table has a row for each key, and an entry is absorbed into the row of its key: `f none a` is the row that a first
entry `a` makes, `f (some b) a` the row `b` after it has absorbed `a`.

* `get?_rollup`: the row of a key absorbs the entries of that key, in order.
* `total_rollup`: what is added up over the rows of some keys is what is added up over their entries.
* `total_eq_get?`: added up over one key, it is read off the row.
-/

namespace Rollup

open Py

variable {κ α β M : Type*} [DecidableEq κ]

/-- The table after it has absorbed an entry. -/
def upsert (f : Option β → α → β) (t : List (κ × β)) (e : κ × α) : List (κ × β) :=
  Assoc.set t e.1 (f (Assoc.get? t e.1) e.2)

/-- The table after it has absorbed the entries. -/
def rollup (f : Option β → α → β) (t : List (κ × β)) (es : List (κ × α)) : List (κ × β) := es.foldl (upsert f) t

variable {f : Option β → α → β} {t : List (κ × β)} {es : List (κ × α)}

@[simp] theorem rollup_nil (f : Option β → α → β) (t : List (κ × β)) : rollup f t ([] : List (κ × α)) = t := rfl

@[simp] theorem rollup_cons (f : Option β → α → β) (t : List (κ × β)) (e : κ × α) (es : List (κ × α)) :
    rollup f t (e :: es) = rollup f (upsert f t e) es := rfl

theorem rollup_append (f : Option β → α → β) (t : List (κ × β)) (es es' : List (κ × α)) :
    rollup f t (es ++ es') = rollup f (rollup f t es) es' := List.foldl_append

/-! ## Rows -/

/-- The row of a key after some entries. -/
def absorb (f : Option β → α → β) (b : Option β) (as : List α) : Option β := as.foldl (fun b a => some (f b a)) b

@[simp] theorem absorb_nil (f : Option β → α → β) (b : Option β) : absorb f b [] = b := rfl

@[simp] theorem absorb_cons (f : Option β → α → β) (b : Option β) (a : α) (as : List α) :
    absorb f b (a :: as) = absorb f (some (f b a)) as := rfl

theorem absorb_concat (f : Option β → α → β) (b : Option β) (as : List α) (a : α) :
    absorb f b (as ++ [a]) = some (f (absorb f b as) a) := by
  rw [absorb, List.foldl_append]
  rfl

/-- A row that has absorbed something is there. -/
theorem absorb_eq_none_iff {b : Option β} {as : List α} : absorb f b as = none ↔ b = none ∧ as = [] := by
  induction as generalizing b with
  | nil => simp
  | cons a as ih => simp [ih]

/-- The entries of a key. -/
def entriesOf (es : List (κ × α)) (key : κ) : List α := (es.filter fun e => e.1 = key).map Prod.snd

theorem entriesOf_cons (e : κ × α) (es : List (κ × α)) (key : κ) :
    entriesOf (e :: es) key = if e.1 = key then e.2 :: entriesOf es key else entriesOf es key := by
  by_cases h : e.1 = key <;> simp [entriesOf, h]

/-- The entries of records that each go to some keys. -/
theorem entriesOf_flatMap {γ : Type*} (keys : γ → List κ) (value : γ → α) (hkeys : ∀ c, (keys c).Nodup) (cs : List γ)
    (key : κ) :
    entriesOf (cs.flatMap fun c => (keys c).map fun k => (k, value c)) key =
      (cs.filter fun c => key ∈ keys c).map value := by
  induction cs with
  | nil => rfl
  | cons c cs ih =>
    have hself : entriesOf ((keys c).map fun k => (k, value c)) key = if key ∈ keys c then [value c] else [] := by
      rw [entriesOf, List.filter_map, List.map_map]
      by_cases h : key ∈ keys c
      · have hcount : ((keys c).filter fun k => k = key).length = 1 := by
          rw [← List.count_eq_one_of_mem (hkeys c) h, List.count_eq_length_filter]
          rfl
        rw [if_pos h, ← List.replicate_one, List.eq_replicate_iff, List.length_map]
        exact ⟨hcount, by simp⟩
      · rw [if_neg h, List.map_eq_nil_iff, List.filter_eq_nil_iff]
        intro k hk hkey
        simp only [Function.comp_apply, decide_eq_true_eq] at hkey
        exact h (hkey ▸ hk)
    rw [List.flatMap_cons, entriesOf, List.filter_append, List.map_append, ← entriesOf, ← entriesOf, ih, hself,
      List.filter_cons]
    by_cases h : key ∈ keys c <;> simp [h]

/-- **The row of a key** absorbs its entries, in order. -/
theorem get?_rollup (f : Option β → α → β) (t : List (κ × β)) (es : List (κ × α)) (key : κ) :
    Assoc.get? (rollup f t es) key = absorb f (Assoc.get? t key) (entriesOf es key) := by
  induction es generalizing t with
  | nil => rfl
  | cons e es ih =>
    rw [rollup_cons, ih, entriesOf_cons, upsert, Assoc.get?_set]
    by_cases h : e.1 = key
    · rw [if_pos h, if_pos h.symm, absorb_cons, h]
    · rw [if_neg h, if_neg fun h' => h h'.symm]

theorem mem_keys_rollup {key : κ} :
    key ∈ Assoc.keys (rollup f t es) ↔ key ∈ Assoc.keys t ∨ ∃ e ∈ es, e.1 = key := by
  induction es generalizing t with
  | nil => simp
  | cons e es ih =>
    rw [rollup_cons, ih, upsert, Assoc.mem_keys_set]
    simp only [List.mem_cons, exists_eq_or_imp]
    tauto

theorem distinct_rollup (ht : Assoc.Distinct t) : Assoc.Distinct (rollup f t es) := by
  induction es generalizing t with
  | nil => exact ht
  | cons e es ih => exact ih (ht.set e.1 _)

/-! ## Totals -/

section Totals

variable [AddCommMonoid M]

/-- A measure, added up over the entries whose keys satisfy `p`. -/
def total (p : κ → Prop) [DecidablePred p] (m : α → M) (t : List (κ × α)) : M :=
  ((t.filter fun e => p e.1).map fun e => m e.2).sum

variable {p : κ → Prop} [DecidablePred p] {m : β → M} {n : α → M}

omit [DecidableEq κ] in
@[simp] theorem total_nil : total p m [] = 0 := rfl

omit [DecidableEq κ] in
theorem total_cons (e : κ × β) (t : List (κ × β)) :
    total p m (e :: t) = (if p e.1 then m e.2 else 0) + total p m t := by
  by_cases h : p e.1 <;> simp [total, h]

omit [DecidableEq κ] in
theorem total_append (t t' : List (κ × β)) : total p m (t ++ t') = total p m t + total p m t' := by
  simp [total]

/-- A row that absorbs an entry grows by what the entry measures. -/
theorem total_upsert (h : ∀ b a, m (f b a) = b.elim 0 m + n a) (t : List (κ × β)) (e : κ × α) :
    total p m (upsert f t e) = total p m t + if p e.1 then n e.2 else 0 := by
  obtain ⟨key, a⟩ := e
  induction t with
  | nil => simp [upsert, Assoc.set, total_cons, h]
  | cons row t ih =>
    obtain ⟨k, b⟩ := row
    by_cases hk : k = key
    · subst hk
      simp only [upsert, Assoc.get?_cons, if_pos, Assoc.set, total_cons, h, Option.elim]
      by_cases hp : p k <;> simp [hp, add_right_comm]
    · have hset : upsert f ((k, b) :: t) (key, a) = (k, b) :: upsert f t (key, a) := by
        simp [upsert, Assoc.get?_cons, Assoc.set, hk]
      rw [hset, total_cons, ih, total_cons, add_assoc]

/-- **What is added up over the rows** is what is added up over the entries. -/
theorem total_rollup (h : ∀ b a, m (f b a) = b.elim 0 m + n a) (t : List (κ × β)) (es : List (κ × α)) :
    total p m (rollup f t es) = total p m t + total p n es := by
  induction es generalizing t with
  | nil => simp
  | cons e es ih => rw [rollup_cons, ih, total_upsert h, total_cons, add_assoc]

omit [DecidableEq κ] in
/-- Added up over records that each go to some keys. -/
theorem total_flatMap {γ : Type*} (keys : γ → List κ) (value : γ → β) (cs : List γ) :
    total p m (cs.flatMap fun c => (keys c).map fun k => (k, value c)) =
      (cs.map fun c => (keys c).countP (fun k => p k) • m (value c)).sum := by
  induction cs with
  | nil => rfl
  | cons c cs ih =>
    rw [List.flatMap_cons, total_append, ih, List.map_cons, List.sum_cons]
    congr 1
    rw [total, List.filter_map, List.map_map, List.countP_eq_length_filter, ← List.sum_replicate, ← List.map_const']
    rfl

/-- Added up over one key. -/
theorem total_eq_get? (ht : Assoc.Distinct t) (key : κ) : total (· = key) m t = (Assoc.get? t key).elim 0 m := by
  induction t with
  | nil => rfl
  | cons row t ih =>
    obtain ⟨k, b⟩ := row
    have hnodup := List.nodup_cons.mp ht
    rw [total_cons, ih hnodup.2, Assoc.get?_cons]
    by_cases hk : k = key
    · subst hk
      rw [if_pos rfl, if_pos rfl, Assoc.get?_eq_none_iff.mpr hnodup.1]
      simp
    · rw [if_neg hk, if_neg hk, zero_add]

end Totals

end Rollup
