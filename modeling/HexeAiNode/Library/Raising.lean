import Mathlib.Tactic.Basic

/-!
# Calls that raise after they have changed something

A call in a language with exceptions may change its state and raise then.  Its result is an `Except` whose errors carry
the state that is left (`Failed`), so that a sequence of calls is a `do` block.

`Ends x P Q` is the triple of such a call: it returns a value in `P`, or it raises and leaves a state in `Q`.
-/

namespace Raising

universe u v

variable {ε σ τ : Type u} {α β : Type v}

/-- An error, and the state that is left. -/
structure Failed (ε σ : Type u) where
  error : ε
  left : σ

/-- The state, however the call ends. -/
def leaves : Except (Failed ε σ) σ → σ
  | .ok s => s
  | .error failed => failed.left

/-- A part of a call that may raise; the state is `s` then. -/
def attempt (s : σ) : Except ε α → Except (Failed ε σ) α
  | .ok a => .ok a
  | .error error => .error ⟨error, s⟩

/-- The same call on a part of a state. -/
def within (g : σ → τ) : Except (Failed ε σ) α → Except (Failed ε τ) α
  | .ok a => .ok a
  | .error failed => .error ⟨failed.error, g failed.left⟩

@[simp] theorem leaves_ok (s : σ) : leaves (.ok s : Except (Failed ε σ) σ) = s := rfl

@[simp] theorem leaves_error (failed : Failed ε σ) : leaves (.error failed) = failed.left := rfl

theorem leaves_map_within (g : σ → τ) (x : Except (Failed ε σ) σ) : leaves (g <$> within g x) = g (leaves x) := by
  cases x <;> rfl

/-- The call returns a value in `P`, or it raises and leaves a state in `Q`. -/
structure Ends (x : Except (Failed ε σ) α) (P : α → Prop) (Q : σ → Prop) : Prop where
  of_ok : ∀ a, x = .ok a → P a
  of_error : ∀ failed, x = .error failed → Q failed.left

namespace Ends

variable {x : Except (Failed ε σ) α} {P P' : α → Prop} {Q Q' : σ → Prop}

theorem ok {a : α} (h : P a) : Ends (.ok a : Except (Failed ε σ) α) P Q :=
  ⟨fun _ ha => Except.ok.inj ha ▸ h, fun _ hf => by cases hf⟩

theorem error {failed : Failed ε σ} (h : Q failed.left) : Ends (.error failed : Except (Failed ε σ) α) P Q :=
  ⟨fun _ ha => (by cases ha), fun _ hf => Except.error.inj hf ▸ h⟩

theorem imp (h : Ends x P Q) (hP : ∀ a, P a → P' a) (hQ : ∀ s, Q s → Q' s) : Ends x P' Q' :=
  ⟨fun a ha => hP a (h.of_ok a ha), fun failed hf => hQ failed.left (h.of_error failed hf)⟩

/-- **Sequences**: what the first call leaves when it raises is left by both. -/
theorem bind {γ : Type v} {f : α → Except (Failed ε σ) γ} {R : γ → Prop} (h : Ends x P Q)
    (hf : ∀ a, x = .ok a → P a → Ends (f a) R Q) : Ends (x >>= f) R Q := by
  cases x with
  | ok a => exact hf a rfl (h.of_ok a rfl)
  | error failed => exact error (h.of_error failed rfl)

theorem attempt {s : σ} {x : Except ε α} (hok : ∀ a, x = .ok a → P a) (herror : ∀ e, x = .error e → Q s) :
    Ends (attempt s x) P Q := by
  cases x with
  | ok a => exact ok (hok a rfl)
  | error e => exact error (herror e rfl)

/-- What follows a part that may raise. -/
theorem attempt_bind {s : σ} {x : Except ε α} {γ : Type v} {f : α → Except (Failed ε σ) γ} {R : γ → Prop}
    (herror : ∀ e, x = .error e → Q s) (hf : ∀ a, x = .ok a → Ends (f a) R Q) :
    Ends (Raising.attempt s x >>= f) R Q := by
  cases x with
  | ok a => exact hf a rfl
  | error e => exact error (herror e rfl)

theorem within {g : σ → τ} {Q : τ → Prop} (h : Ends x P fun s => Q (g s)) : Ends (within g x) P Q := by
  cases x with
  | ok a => exact ok (h.of_ok a rfl)
  | error failed => exact error (h.of_error failed rfl)

theorem map {γ : Type v} {g : α → γ} {R : γ → Prop} (h : Ends x (fun a => R (g a)) Q) : Ends (g <$> x) R Q := by
  cases x with
  | ok a => exact ok (h.of_ok a rfl)
  | error failed => exact error (h.of_error failed rfl)

/-- What holds of every state that is left. -/
theorem leaves {x : Except (Failed ε σ) σ} {P Q R : σ → Prop} (h : Ends x P Q) (hP : ∀ s, P s → R s)
    (hQ : ∀ s, Q s → R s) : R (leaves x) := by
  cases x with
  | ok s => exact hP s (h.of_ok s rfl)
  | error failed => exact hQ failed.left (h.of_error failed rfl)

end Ends

end Raising
