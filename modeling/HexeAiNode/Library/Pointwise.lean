import Mathlib.Data.List.Forall2
import Mathlib.Tactic.Basic

/-!
# Lists related element by element

`List.Forall₂ R l m` says that two lists have the same length and related elements.  A map by a function that may fail
succeeds if every call does, and what holds of each call holds of the two lists (`exists_mapM`).
-/

namespace Pointwise

open List

variable {α β γ ε : Type*} {R : α → β → Prop} {l : List α} {m : List β}

theorem exists_of_mem (h : Forall₂ R l m) {a : α} (ha : a ∈ l) : ∃ b ∈ m, R a b := by
  induction h with
  | nil => cases ha
  | cons hab _ ih =>
    rcases List.mem_cons.mp ha with rfl | ha
    · exact ⟨_, List.mem_cons_self, hab⟩
    · obtain ⟨b, hb, hR⟩ := ih ha
      exact ⟨b, List.mem_cons_of_mem _ hb, hR⟩

theorem exists_of_mem_right (h : Forall₂ R l m) {b : β} (hb : b ∈ m) : ∃ a ∈ l, R a b :=
  exists_of_mem (R := fun b a => R a b) h.flip hb

/-- What the related elements have in common. -/
theorem map_eq_map {f : α → γ} {g : β → γ} (h : Forall₂ R l m) (hR : ∀ a b, R a b → f a = g b) :
    l.map f = m.map g := by
  induction h with
  | nil => rfl
  | cons hab _ ih => rw [List.map_cons, List.map_cons, hR _ _ hab, ih]

theorem trans {S : β → γ → Prop} {T : α → γ → Prop} {n : List γ} (h : Forall₂ R l m) (h' : Forall₂ S m n)
    (hT : ∀ a b c, R a b → S b c → T a c) : Forall₂ T l n := by
  induction h generalizing n with
  | nil =>
    cases h'
    exact Forall₂.nil
  | cons hab _ ih =>
    cases h' with
    | cons hbc h' => exact Forall₂.cons (hT _ _ _ hab hbc) (ih h')

/-- A weaker relation, between options. -/
theorem rel_imp {S : α → β → Prop} {a? : Option α} {b? : Option β} (h : Option.Rel R a? b?)
    (hS : ∀ a b, R a b → S a b) : Option.Rel S a? b? := by
  cases h with
  | none => exact Option.Rel.none
  | some hab => exact Option.Rel.some (hS _ _ hab)

/-- **A map whose calls succeed.** -/
theorem exists_mapM {f : α → Except ε β} (h : ∀ a ∈ l, ∃ b, f a = .ok b ∧ R a b) :
    ∃ m, l.mapM f = .ok m ∧ Forall₂ R l m := by
  induction l with
  | nil => exact ⟨[], rfl, Forall₂.nil⟩
  | cons a l ih =>
    obtain ⟨b, hb, hab⟩ := h a List.mem_cons_self
    obtain ⟨m, hm, hR⟩ := ih fun a' ha' => h a' (List.mem_cons_of_mem a ha')
    refine ⟨b :: m, ?_, Forall₂.cons hab hR⟩
    rw [List.mapM_cons, hb, hm]
    rfl

end Pointwise
