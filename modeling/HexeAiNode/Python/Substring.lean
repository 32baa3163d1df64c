import HexeAiNode.Python.Text
import Mathlib.Data.List.Infix

/-!
# Searching in a text

`x in s`, `s.replace(old, new)` and the white space at the ends of a text that contains another.
-/

namespace Py

/-- `p in s`. -/
def contains (s p : String) : Bool := decide (p.toList <:+: s.toList)

theorem contains_iff {s p : String} : contains s p = true ↔ p.toList <:+: s.toList := by
  simp [contains]

/-- `str.replace` on the characters of a text; `skip` counts the characters of a match that are left out. -/
def replaceChars (old new : List Char) : ℕ → List Char → List Char
  | _, [] => []
  | skip + 1, _ :: cs => replaceChars old new skip cs
  | 0, c :: cs =>
    if old.isPrefixOf (c :: cs) then new ++ replaceChars old new (old.length - 1) cs
    else c :: replaceChars old new 0 cs

/-- `s.replace(old, new)`, for a text `old` that is not empty. -/
def replace (s old new : String) : String := String.ofList (replaceChars old.toList new.toList 0 s.toList)

example : replace "a--b-c" "--" "." = "a.b-c" := by decide

/-- Without the character to be replaced nothing is replaced. -/
theorem replaceChars_of_not_mem {c : Char} {new cs : List Char} (h : c ∉ cs) : replaceChars [c] new 0 cs = cs := by
  induction cs with
  | nil => rfl
  | cons d cs ih =>
      have hd : c ≠ d := fun heq => h (heq ▸ List.mem_cons_self)
      have hprefix : [c].isPrefixOf (d :: cs) = false := by simp [List.isPrefixOf, hd]
      rw [replaceChars, hprefix, ih fun hc => h (List.mem_cons_of_mem _ hc)]
      rfl

theorem replace_of_not_mem {s : String} {c : Char} (old new : String) (h : c ∉ s.toList)
    (hold : old.toList = [c]) : replace s old new = s := by
  rw [replace, hold, replaceChars_of_not_mem h, String.ofList_toList]

/-- Dropping a prefix does not reach into a part that begins with something else. -/
theorem infix_dropWhile {α : Type*} {q : α → Bool} {l m : List α} (h : l <:+: m)
    (hhead : ∀ c ∈ l.head?, q c = false) : l <:+: m.dropWhile q := by
  rcases l with _ | ⟨x, t⟩
  · exact List.nil_infix
  · obtain ⟨a, b, rfl⟩ := h
    have hx : q x = false := hhead x (by simp)
    induction a with
    | nil => exact ⟨[], b, by simp [hx]⟩
    | cons c a ih =>
        by_cases hc : q c = true
        · simpa [hc] using ih
        · exact ⟨c :: a, b, by simp [hc]⟩

theorem infix_rdropWhile {α : Type*} {q : α → Bool} {l m : List α} (h : l <:+: m)
    (hlast : ∀ c ∈ l.getLast?, q c = false) : l <:+: m.rdropWhile q := by
  rw [List.rdropWhile, ← List.reverse_infix, List.reverse_reverse]
  exact infix_dropWhile (List.reverse_infix.mpr h) (by simpa using hlast)

/-- **Stripping a text keeps every stripped text it contains.** -/
theorem contains_strip {s p : String} (h : contains s (strip p) = true) :
    contains (strip s) (strip p) = true := by
  rw [contains_iff] at h ⊢
  rw [toList_strip s]
  exact infix_rdropWhile (infix_dropWhile h (trimmed_strip p).1) (trimmed_strip p).2

/-- A text contains its stripped form. -/
@[simp] theorem contains_strip_self (s : String) : contains s (strip s) = true := by
  rw [contains_iff, toList_strip]
  exact (List.rdropWhile_prefix isSpace (s.toList.dropWhile isSpace)).isInfix.trans
    (List.dropWhile_suffix _).isInfix

@[simp] theorem contains_self (s : String) : contains s s = true := by simp [contains_iff]

theorem contains_append_left {s p : String} (t : String) (h : contains s p = true) :
    contains (s ++ t) p = true := by
  rw [contains_iff] at h ⊢
  simpa using h.trans (List.prefix_append _ _).isInfix

end Py
