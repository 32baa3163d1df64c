import Mathlib.Tactic.Basic

/-!
# Stores that normalise

A store keeps one document in a file.  A document that is saved is normalised and checked, and what is written can
be decoded again.  A file that is loaded is decoded, normalised and checked; if this has changed the document, the
file is written anew.

`Faithful` says what makes such a store keep its documents: `load_save` is the round trip, and `load_load` says that a
file is settled once it has been loaded.
-/

/-- A store of documents `δ` in files of `ν`.  What `check` finds wrong is a reason `ρ`, and `refuse` is the exception
that `save` raises then. -/
structure NormalizedStore (ν δ ρ ε : Type) where
  decode : ν → Except ε δ
  encode : δ → ν
  normalize : δ → δ
  check : δ → Option ρ
  refuse : ρ → ε
  changed : ν → δ → Bool

namespace NormalizedStore

variable {ν δ ρ ε : Type} (S : NormalizedStore ν δ ρ ε)

/-- What is written for a document, unless it is refused. -/
def save (d : δ) : Except ε ν :=
  match S.check (S.normalize d) with
  | some reason => .error (S.refuse reason)
  | none => .ok (S.encode (S.normalize d))

/-- The document of a file that has been decoded, and the file that is left. -/
def accept (v : ν) (d : δ) : Except ε (Option δ × Option ν) :=
  match S.check d with
  | some _ => .ok (none, some v)
  | none => if S.changed v d then (fun w => (some d, some w)) <$> S.save d else .ok (some d, some v)

/-- The document of a file, and the file that is left. -/
def load : Option ν → Except ε (Option δ × Option ν)
  | none => .ok (none, none)
  | some v => S.decode v >>= fun d => S.accept v (S.normalize d)

/-- A store that keeps the documents that satisfy `Wf`; `reread` is what decoding gives back of one. -/
structure Faithful (Wf : δ → Prop) (reread : δ → δ) : Prop where
  wf_normalize : ∀ d, Wf d → Wf (S.normalize d)
  normalize_normalize : ∀ d, S.normalize (S.normalize d) = S.normalize d
  decode_encode : ∀ d, Wf d → S.decode (S.encode d) = .ok (reread d)
  normalize_reread : ∀ d, Wf d → S.normalize (reread (S.normalize d)) = reread (S.normalize d)
  check_reread : ∀ d, Wf d → S.check (reread (S.normalize d)) = S.check (S.normalize d)
  unchanged : ∀ d, Wf d → S.changed (S.encode (S.normalize d)) (reread (S.normalize d)) = false

variable {S} {Wf : δ → Prop} {reread : δ → δ} {file left : Option ν} {result : Option δ} {d : δ} {v : ν}

theorem save_eq_ok : S.save d = .ok v ↔ S.check (S.normalize d) = none ∧ v = S.encode (S.normalize d) := by
  unfold save
  rcases S.check (S.normalize d) with _ | reason
  · simp [eq_comm]
  · simp

theorem accept_of_changed {w : ν} (hcheck : S.check d = none) (hchanged : S.changed v d = true)
    (hsave : S.save d = .ok w) : S.accept v d = .ok (some d, some w) := by
  rw [accept, hcheck]
  dsimp only
  rw [if_pos hchanged, hsave]
  rfl

theorem load_of_decode (h : S.decode v = .ok d) : S.load (some v) = S.accept v (S.normalize d) := by
  rw [load, h]
  rfl

/-- **The round trip**: what is saved is what is loaded, and loading leaves it. -/
theorem Faithful.load_save (h : S.Faithful Wf reread) (hd : Wf d) (hsave : S.save d = .ok v) :
    S.load (some v) = .ok (some (reread (S.normalize d)), some v) := by
  obtain ⟨hcheck, rfl⟩ := save_eq_ok.mp hsave
  have hreread : S.check (reread (S.normalize d)) = none := (h.check_reread d hd).trans hcheck
  rw [load_of_decode (h.decode_encode _ (h.wf_normalize d hd)), h.normalize_reread d hd, accept, hreread]
  simp [h.unchanged d hd]

/-- What loading can do. -/
theorem Faithful.load_cases (h : S.Faithful Wf reread) (hload : S.load file = .ok (result, left)) :
    result = none ∧ left = file ∨
      ∃ v d, file = some v ∧ S.decode v = .ok d ∧ S.check (S.normalize d) = none ∧ result = some (S.normalize d) ∧
        (left = file ∨ left = some (S.encode (S.normalize d))) := by
  rcases file with _ | v
  · obtain ⟨rfl, rfl⟩ := Prod.mk.inj (Except.ok.inj hload)
    exact Or.inl ⟨rfl, rfl⟩
  · rcases hdecode : S.decode v with e | d
    · rw [load, hdecode] at hload
      cases hload
    · rw [load_of_decode hdecode, accept] at hload
      rcases hcheck : S.check (S.normalize d) with _ | reason
      · rw [hcheck] at hload
        refine Or.inr ⟨v, d, rfl, hdecode, hcheck, ?_⟩
        dsimp only at hload
        split at hload
        · rcases hsave : S.save (S.normalize d) with e | w
          · rw [hsave] at hload
            cases hload
          · rw [hsave] at hload
            obtain ⟨rfl, rfl⟩ := Prod.mk.inj (Except.ok.inj hload)
            obtain ⟨-, rfl⟩ := save_eq_ok.mp hsave
            rw [h.normalize_normalize]
            exact ⟨rfl, Or.inr rfl⟩
        · obtain ⟨rfl, rfl⟩ := Prod.mk.inj (Except.ok.inj hload)
          exact ⟨rfl, Or.inl rfl⟩
      · rw [hcheck] at hload
        obtain ⟨rfl, rfl⟩ := Prod.mk.inj (Except.ok.inj hload)
        exact Or.inl ⟨rfl, rfl⟩

/-- What is loaded is normal and passes the check. -/
theorem Faithful.load_sound (h : S.Faithful Wf reread) (hload : S.load file = .ok (some d, left)) :
    S.normalize d = d ∧ S.check d = none := by
  rcases h.load_cases hload with ⟨hnone, -⟩ | ⟨v, d', -, -, hcheck, hresult, -⟩
  · cases hnone
  · obtain rfl := Option.some.inj hresult
    exact ⟨h.normalize_normalize d', hcheck⟩

/-- **A file is settled** once it has been loaded: loading it again leaves it and gives the document as it is read
back. -/
theorem Faithful.load_load (h : S.Faithful Wf reread) (hwf : ∀ v ∈ file, ∀ d, S.decode v = .ok d → Wf d)
    (hload : S.load file = .ok (result, left)) :
    S.load left = .ok (result, left) ∨ S.load left = .ok (result.map reread, left) := by
  rcases h.load_cases hload with ⟨rfl, rfl⟩ | ⟨v, d, rfl, hdecode, hcheck, rfl, rfl | rfl⟩
  · exact Or.inl hload
  · exact Or.inl hload
  · exact Or.inr (h.load_save (hwf v rfl d hdecode) (save_eq_ok.mpr ⟨hcheck, rfl⟩))

end NormalizedStore
