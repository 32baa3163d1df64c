import Mathlib.Data.List.Induction
import Mathlib.Tactic.Basic

/-!
# Runs

A system is a step function on states; a run is the list of the steps taken.  `Along fire P s is` says
that every step of a run from `s` satisfies `P` in the state in which it is taken, and `Along.keeps` is
the induction over a run: what every such step keeps holds at the end, hence, as the prefixes of a run
are runs (`Along.prefix`), in every state that is reached.
-/

namespace Run

variable {σ ι : Type*}

/-- The state a run ends in. -/
def after (fire : σ → ι → σ) (s : σ) (is : List ι) : σ := is.foldl fire s

/-- Every step of the run satisfies `P` in the state in which it is taken. -/
def Along (fire : σ → ι → σ) (P : σ → ι → Prop) : σ → List ι → Prop
  | _, [] => True
  | s, i :: is => P s i ∧ Along fire P (fire s i) is

variable {fire : σ → ι → σ} {P P' : σ → ι → Prop} {I : σ → Prop}

@[simp] theorem after_nil (s : σ) : after fire s [] = s := rfl

@[simp] theorem after_cons (s : σ) (i : ι) (is : List ι) :
    after fire s (i :: is) = after fire (fire s i) is := rfl

theorem after_append (s : σ) (is js : List ι) :
    after fire s (is ++ js) = after fire (after fire s is) js := List.foldl_append

theorem along_append {s : σ} {is js : List ι} :
    Along fire P s (is ++ js) ↔ Along fire P s is ∧ Along fire P (after fire s is) js := by
  induction is generalizing s with
  | nil => simp [Along]
  | cons i is ih => simp only [List.cons_append, Along, ih, after_cons, and_assoc]

/-- What every step keeps, whichever it is, holds after the run. -/
theorem after_keeps {s : σ} (is : List ι) (hs : I s) (hstep : ∀ s i, I s → I (fire s i)) :
    I (after fire s is) := by
  induction is generalizing s with
  | nil => exact hs
  | cons i is ih => exact ih (hstep s i hs)

/-- The prefixes of a run. -/
theorem Along.prefix {s : σ} {is js : List ι} (h : Along fire P s (is ++ js)) : Along fire P s is :=
  (along_append.mp h).1

theorem Along.mono {s : σ} {is : List ι} (h : Along fire P s is) (hP : ∀ s i, P s i → P' s i) :
    Along fire P' s is := by
  induction is generalizing s with
  | nil => trivial
  | cons i is ih => exact ⟨hP s i h.1, ih h.2⟩

theorem Along.inter {s : σ} {is : List ι} (h : Along fire P s is) (h' : Along fire P' s is) :
    Along fire (fun s i => P s i ∧ P' s i) s is := by
  induction is generalizing s with
  | nil => trivial
  | cons i is ih => exact ⟨⟨h.1, h'.1⟩, ih h.2 h'.2⟩

/-- What holds of every step of the list may be added. -/
theorem Along.and {Q : ι → Prop} {s : σ} {is : List ι} (h : Along fire P s is) (hQ : ∀ i ∈ is, Q i) :
    Along fire (fun s i => P s i ∧ Q i) s is := by
  induction is generalizing s with
  | nil => trivial
  | cons i is ih =>
    exact ⟨⟨h.1, hQ i List.mem_cons_self⟩, ih h.2 fun j hj => hQ j (List.mem_cons_of_mem _ hj)⟩

/-- What every step keeps holds after the run. -/
theorem Along.keeps {s : σ} {is : List ι} (h : Along fire P s is) (hs : I s)
    (hstep : ∀ s i, I s → P s i → I (fire s i)) : I (after fire s is) := by
  induction is generalizing s with
  | nil => exact hs
  | cons i is ih => exact ih h.2 (hstep s i hs h.1)

/-- What every step satisfies while the run keeps `I`. -/
theorem Along.derive {Q : σ → ι → Prop} {s : σ} {is : List ι} (h : Along fire P s is) (hs : I s)
    (hstep : ∀ s i, I s → P s i → I (fire s i) ∧ Q s i) : Along fire Q s is := by
  induction is generalizing s with
  | nil => trivial
  | cons i is ih =>
    obtain ⟨hkept, hQ⟩ := hstep s i hs h.1
    exact ⟨hQ, ih h.2 hkept⟩

/-- **The good and the bad runs.**  As long as its steps satisfy `P` a run stays good; the first that does not
makes it bad, and bad it stays. -/
theorem along_or_bad {Good Bad : σ → Prop} {s : σ} (is : List ι) (hs : Good s)
    (hgood : ∀ s i, Good s → P s i → Good (fire s i)) (hbad : ∀ s i, Good s → ¬P s i → Bad (fire s i))
    (hkeep : ∀ s i, Bad s → Bad (fire s i)) :
    Along fire P s is ∧ Good (after fire s is) ∨ ¬Along fire P s is ∧ Bad (after fire s is) := by
  induction is generalizing s with
  | nil => exact Or.inl ⟨trivial, hs⟩
  | cons i is ih =>
    by_cases hP : P s i
    · rcases ih (hgood s i hs hP) with ⟨halong, h⟩ | ⟨halong, h⟩
      · exact Or.inl ⟨⟨hP, halong⟩, h⟩
      · exact Or.inr ⟨fun hall => halong hall.2, h⟩
    · exact Or.inr ⟨fun hall => hP hall.1, after_keeps is (hbad s i hs hP) hkeep⟩

/-- What can be said of a step between two states that the run reaches, if `I` holds of every state it
reaches and `J` is kept by every step. -/
theorem along_of_prefixes {J : σ → Prop} {s : σ} {is : List ι}
    (h : ∀ js, js <+: is → I (after fire s js)) (hs : J s) (hkeep : ∀ s i, J s → J (fire s i))
    (hstep : ∀ s i, J s → I s → I (fire s i) → P s i) : Along fire P s is := by
  induction is generalizing s with
  | nil => trivial
  | cons i is ih =>
    refine ⟨hstep s i hs (h [] (List.nil_prefix)) (h [i] ?_), ih (fun js hjs => ?_) (hkeep s i hs)⟩
    · exact List.cons_prefix_cons.mpr ⟨rfl, List.nil_prefix⟩
    · exact h (i :: js) (List.cons_prefix_cons.mpr ⟨rfl, hjs⟩)

/-- **What holds of every prefix of a run**, together with the state it ends in, if a step continues it exactly
when the step satisfies `P`. -/
theorem forall_prefix_iff_along {A : List ι → σ → Prop} {s : σ} (hnil : A [] s)
    (hstep : ∀ js i, A js (after fire s js) →
      (A (js ++ [i]) (after fire s (js ++ [i])) ↔ P (after fire s js) i)) (is : List ι) :
    (∀ js, js <+: is → A js (after fire s js)) ↔ Along fire P s is := by
  induction is using List.reverseRecOn with
  | nil =>
    refine ⟨fun _ => trivial, fun _ js hjs => ?_⟩
    rw [List.prefix_nil.mp hjs]
    exact hnil
  | append_singleton is i ih =>
    rw [along_append, ← ih]
    constructor
    · intro h
      have his := h is (List.prefix_append is [i])
      refine ⟨fun js hjs => h js (hjs.trans (List.prefix_append is [i])), ?_, trivial⟩
      exact (hstep is i his).mp (h _ (List.prefix_refl _))
    · rintro ⟨h, hi, -⟩ js hjs
      rcases List.prefix_concat_iff.mp hjs with rfl | hjs
      · exact (hstep is i (h is (List.prefix_refl is))).mpr hi
      · exact h js hjs

/-- What the steps of a list keep holds after the run. -/
theorem keeps_of_forall {Q : ι → Prop} {s : σ} {is : List ι} (h : ∀ i ∈ is, Q i) (hs : I s)
    (hstep : ∀ s i, I s → Q i → I (fire s i)) : I (after fire s is) := by
  induction is generalizing s with
  | nil => exact hs
  | cons i is ih =>
    exact ih (fun j hj => h j (List.mem_cons_of_mem _ hj)) (hstep s i hs (h i List.mem_cons_self))

/-! ## Runs with a record

A system that carries a record of its run besides the state: `p` forgets the record. -/

section Projection

variable {τ : Type*} {fire' : τ → ι → τ} {p : τ → σ}

theorem after_map (hp : ∀ t i, p (fire' t i) = fire (p t) i) (t : τ) (is : List ι) :
    p (after fire' t is) = after fire (p t) is := by
  induction is generalizing t with
  | nil => rfl
  | cons i is ih =>
    rw [after_cons, after_cons, ih, hp]

theorem along_comap (hp : ∀ t i, p (fire' t i) = fire (p t) i) {t : τ} {is : List ι} :
    Along fire' (fun t i => P (p t) i) t is ↔ Along fire P (p t) is := by
  induction is generalizing t with
  | nil => exact Iff.rfl
  | cons i is ih =>
    refine and_congr_right fun _ => ?_
    rw [ih, hp]

end Projection

end Run
