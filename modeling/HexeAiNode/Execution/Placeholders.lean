import HexeAiNode.Execution.PromptConstruction

/-!
# Placeholders

What the placeholder pattern recognises, as texts: two opening braces, white space, a name, white space, two closing
braces (`IsSpelling`).  The placeholder at the head of a text is unique (`variableAt_eq_some_iff`), its first two
characters are its only opening braces (`IsSpelling.opens`), and so a placeholder that `str.replace` meets is replaced
as a whole or copied as a whole, and a text that looks like a placeholder never reaches into one
(`IsSpelling.replaceChars`, `isPrefixOf_append_iff`).
-/

namespace HexeAiNode
namespace Execution

open Py

/-- The opening brace. -/
def openBrace : Char := '\x7b'

/-- The closing brace. -/
def closeBrace : Char := '\x7d'

theorem toList_openBraces : openBraces.toList = [openBrace, openBrace] := by decide

theorem toList_closeBraces : closeBraces.toList = [closeBrace, closeBrace] := by decide

/-- The text is a placeholder with that name. -/
structure IsSpelling (text : List Char) (name : String) : Prop where
  nonempty : name.toList ≠ []
  chars : ∀ c ∈ name.toList, isNameChar c = true
  shape : ∃ before after, (∀ c ∈ before, isSpace c = true) ∧ (∀ c ∈ after, isSpace c = true) ∧
    text = openBraces.toList ++ before ++ name.toList ++ after ++ closeBraces.toList

section Characters

variable {c : Char}

theorem isSpace_of_isNameChar (h : isNameChar c = true) : isSpace c = false := by
  have hrange : 48 ≤ c.toNat ∧ c.toNat ≤ 122 := by
    simp [isNameChar, Char.isAlphanum, Char.isAlpha, Char.isUpper, Char.isLower, Char.isDigit,
      UInt32.le_iff_toNat_le] at h
    rcases h with ((h | h) | h) | rfl
    · exact ⟨by simpa using h.1.trans' (by decide), by simpa using h.2.trans (by decide)⟩
    · exact ⟨by simpa using h.1.trans' (by decide), by simpa using h.2.trans (by decide)⟩
    · exact ⟨by simpa using h.1.trans' (by decide), by simpa using h.2.trans (by decide)⟩
    · decide
  simp [isSpace]
  omega

theorem ne_openBrace_of_isNameChar (h : isNameChar c = true) : c ≠ openBrace := by
  rintro rfl
  revert h
  decide

theorem ne_openBrace_of_isSpace (h : isSpace c = true) : c ≠ openBrace := by
  rintro rfl
  revert h
  decide

end Characters

section Spelling

variable {text text' cs rest rest' : List Char} {name name' : String}

/-- The head of a text after a run of characters that satisfy a test. -/
theorem takeWhile_dropWhile_append {q : Char → Bool} {run cs : List Char} (hrun : ∀ c ∈ run, q c = true)
    (hhead : ∀ c ∈ cs.head?, q c = false) :
    (run ++ cs).takeWhile q = run ∧ (run ++ cs).dropWhile q = cs := by
  rw [List.takeWhile_append_of_pos hrun, List.dropWhile_append_of_pos hrun]
  cases cs with
  | nil => simp
  | cons c cs =>
    have hc : q c = false := hhead c rfl
    simp [hc]

/-- **The placeholder at the head of a text.** -/
theorem variableAt_eq_some_iff :
    variableAt cs = some (name, rest) ↔ ∃ text, IsSpelling text name ∧ cs = text ++ rest := by
  constructor
  · intro h
    unfold variableAt at h
    split at h
    · next hopen =>
      dsimp only at h
      split at h
      · next hname =>
        obtain ⟨body, rfl⟩ := List.isPrefixOf_iff_prefix.mp hopen
        have hdrop : (openBraces.toList ++ body).drop 2 = body := by
          rw [toList_openBraces]
          rfl
        rw [hdrop] at h hname
        obtain ⟨rfl, rfl⟩ := Prod.mk.inj (Option.some.inj h)
        obtain ⟨tail, htail⟩ := List.isPrefixOf_iff_prefix.mp hname.2
        refine ⟨_, ⟨?_, ?_, body.takeWhile isSpace, ((body.dropWhile isSpace).dropWhile isNameChar).takeWhile isSpace,
          fun _ => List.mem_takeWhile_imp, fun _ => List.mem_takeWhile_imp, rfl⟩, ?_⟩
        · rw [String.toList_ofList]
          exact hname.1
        · rw [String.toList_ofList]
          exact fun _ => List.mem_takeWhile_imp
        · have hrest : tail = (closeBraces.toList ++ tail).drop 2 := by
            rw [toList_closeBraces]
            rfl
          rw [← htail, ← hrest, String.toList_ofList]
          simp only [List.append_assoc]
          rw [htail, List.takeWhile_append_dropWhile, List.takeWhile_append_dropWhile,
            List.takeWhile_append_dropWhile]
      · cases h
    · cases h
  · rintro ⟨text, ⟨hne, hchars, before, after, hbefore, hafter, rfl⟩, rfl⟩
    have hfirst : ∀ c ∈ (name.toList ++ (after ++ (closeBraces.toList ++ rest))).head?, isSpace c = false := by
      intro c hc
      rcases hname : name.toList with _ | ⟨d, ds⟩
      · exact absurd hname hne
      · rw [hname] at hc
        obtain rfl := Option.some.inj hc
        exact isSpace_of_isNameChar (hchars _ (hname ▸ List.mem_cons_self))
    have hclose : ∀ q : Char → Bool, q closeBrace = false →
        ∀ c ∈ (closeBraces.toList ++ rest).head?, q c = false := by
      intro q hq c hc
      rw [toList_closeBraces] at hc
      obtain rfl := Option.some.inj hc
      exact hq
    have hafterName : ∀ c ∈ (after ++ (closeBraces.toList ++ rest)).head?, isNameChar c = false := by
      intro c hc
      rcases after with _ | ⟨d, ds⟩
      · exact hclose isNameChar (by decide) c hc
      · obtain rfl := Option.some.inj hc
        refine eq_false_of_ne_true fun hchar => ?_
        have hspace := isSpace_of_isNameChar hchar
        rw [hafter _ List.mem_cons_self] at hspace
        cases hspace
    have hcs : openBraces.toList ++ before ++ name.toList ++ after ++ closeBraces.toList ++ rest =
        openBraces.toList ++ (before ++ (name.toList ++ (after ++ (closeBraces.toList ++ rest)))) := by
      simp only [List.append_assoc]
    rw [hcs, variableAt, if_pos (List.isPrefixOf_iff_prefix.mpr (List.prefix_append _ _))]
    have hdrop : (openBraces.toList ++ (before ++ (name.toList ++ (after ++ (closeBraces.toList ++ rest))))).drop 2 =
        before ++ (name.toList ++ (after ++ (closeBraces.toList ++ rest))) := by
      rw [toList_openBraces]
      rfl
    rw [hdrop, (takeWhile_dropWhile_append hbefore hfirst).2]
    dsimp only
    rw [(takeWhile_dropWhile_append hchars hafterName).1, (takeWhile_dropWhile_append hchars hafterName).2,
      (takeWhile_dropWhile_append hafter (hclose isSpace (by decide))).2,
      if_pos ⟨hne, List.isPrefixOf_iff_prefix.mpr (List.prefix_append _ _)⟩, String.ofList_toList, toList_closeBraces]
    rfl

/-- Two placeholders at the head of one text are the same. -/
theorem IsSpelling.unique (h : IsSpelling text name) (h' : IsSpelling text' name')
    (heq : text ++ rest = text' ++ rest') : text = text' ∧ name = name' ∧ rest = rest' := by
  have hhead : variableAt (text ++ rest) = some (name, rest) := variableAt_eq_some_iff.mpr ⟨text, h, rfl⟩
  have hhead' : variableAt (text ++ rest) = some (name', rest') := variableAt_eq_some_iff.mpr ⟨text', h', heq⟩
  rw [hhead] at hhead'
  obtain ⟨rfl, rfl⟩ := Prod.mk.inj (Option.some.inj hhead')
  exact ⟨List.append_cancel_right heq, rfl, rfl⟩

/-- A text has one name. -/
theorem IsSpelling.name_eq (h : IsSpelling text name) (h' : IsSpelling text name') : name = name' :=
  (h.unique h' (Eq.refl (text ++ []))).2.1

/-- Two opening braces, and something without one. -/
def Opens (text : List Char) : Prop := ∃ body, text = openBrace :: openBrace :: body ∧ body ≠ [] ∧ openBrace ∉ body

theorem IsSpelling.opens (h : IsSpelling text name) : Opens text := by
  obtain ⟨hne, hchars, before, after, hbefore, hafter, rfl⟩ := h
  refine ⟨before ++ name.toList ++ after ++ closeBraces.toList, ?_, by simp [hne], fun hmem => ?_⟩
  · rw [toList_openBraces]
    simp only [List.append_assoc, List.cons_append, List.nil_append]
  · rw [List.mem_append, List.mem_append, List.mem_append] at hmem
    rcases hmem with ((hmem | hmem) | hmem) | hmem
    · exact ne_openBrace_of_isSpace (hbefore _ hmem) rfl
    · exact ne_openBrace_of_isNameChar (hchars _ hmem) rfl
    · exact ne_openBrace_of_isSpace (hafter _ hmem) rfl
    · revert hmem
      decide

/-- A placeholder begins with another exactly if it is that. -/
theorem IsSpelling.isPrefixOf_append_iff (h : IsSpelling text name) (h' : IsSpelling text' name') :
    text'.isPrefixOf (text ++ rest) = true ↔ text = text' := by
  rw [List.isPrefixOf_iff_prefix]
  constructor
  · rintro ⟨rest', hrest⟩
    exact (h.unique h' hrest.symm).1
  · rintro rfl
    exact List.prefix_append _ _

end Spelling

/-! ## Replacing a placeholder -/

section Replacing

variable {old new run rest text : List Char} {c : Char} {name name' : String}

theorem replaceChars_skip : replaceChars old new run.length (run ++ rest) = replaceChars old new 0 rest := by
  induction run with
  | nil => rfl
  | cons c run ih => exact ih

/-- What is replaced at the head of a text. -/
theorem replaceChars_self_append (hold : old ≠ []) :
    replaceChars old new 0 (old ++ rest) = new ++ replaceChars old new 0 rest := by
  obtain ⟨c, old, rfl⟩ := List.exists_cons_of_ne_nil hold
  rw [List.cons_append, replaceChars, if_pos]
  · exact congrArg (new ++ ·) replaceChars_skip
  · exact List.isPrefixOf_iff_prefix.mpr (List.prefix_append (c :: old) rest)

theorem replaceChars_cons_of_ne (h : old.isPrefixOf (c :: rest) = false) :
    replaceChars old new 0 (c :: rest) = c :: replaceChars old new 0 rest := by
  rw [replaceChars, h]
  rfl

/-- A run without the first character of what is replaced is copied. -/
theorem replaceChars_append_of_not_mem (h : c ∉ run) :
    replaceChars (c :: old) new 0 (run ++ rest) = run ++ replaceChars (c :: old) new 0 rest := by
  induction run with
  | nil => rfl
  | cons d run ih =>
    have hd : c ≠ d := fun heq => h (heq ▸ List.mem_cons_self)
    rw [List.cons_append, replaceChars_cons_of_ne (by simp [List.isPrefixOf, hd]),
      ih fun hc => h (List.mem_cons_of_mem _ hc)]
    rfl

/-- **A placeholder** is replaced as a whole or copied as a whole. -/
theorem IsSpelling.replaceChars (h : IsSpelling text name) (hold : IsSpelling old name') :
    Py.replaceChars old new 0 (text ++ rest) =
      (if text = old then new else text) ++ Py.replaceChars old new 0 rest := by
  by_cases heq : text = old
  · rw [if_pos heq, heq]
    obtain ⟨body, rfl, -⟩ := hold.opens
    exact replaceChars_self_append (List.cons_ne_nil _ _)
  · rw [if_neg heq]
    have hnot : old.isPrefixOf (text ++ rest) = false :=
      eq_false_of_ne_true fun hstart => heq ((h.isPrefixOf_append_iff hold).mp hstart)
    obtain ⟨oldBody, rfl, -⟩ := hold.opens
    obtain ⟨body, rfl, hne, hbody⟩ := h.opens
    obtain ⟨d, body, rfl⟩ := List.exists_cons_of_ne_nil hne
    have hd : openBrace ≠ d := fun heq => hbody (heq ▸ List.mem_cons_self)
    simp only [List.cons_append] at hnot ⊢
    rw [replaceChars_cons_of_ne hnot, replaceChars_cons_of_ne (by simp [List.isPrefixOf, hd]),
      ← List.cons_append, replaceChars_append_of_not_mem hbody]
    rfl

end Replacing

end Execution
end HexeAiNode
