import HexeAiNode.Execution.Placeholders
import Mathlib.Data.List.Dedup

/-!
# Rendering at once

A template should be rendered by filling in all its placeholders at once (`fillAll`).  `render_prompt_template` makes
one `str.replace` after the other, on texts that contain the values of the names before.

The rendering is followed on pieces that remember where a character comes from (`replacePieces`); without what they
remember it is that of the code (`plain_replacePieces`).  A replacement is stray if it begins at a character and not
at a placeholder of the template.  The rendering is the one at once exactly when every placeholder is spelled as one of
the two texts that are replaced, and no replacement would be stray if the ones before were made at once
(`rendering_at_once_iff`): what a stray replacement takes away is never put back (`weight_replacePieces_lt`), and a
placeholder that is spelled otherwise stays (`mem_renderPieces`).
-/

namespace HexeAiNode
namespace Execution

open Py

/-! ## Pieces -/

/-- Where a character comes from: the template, a value that was put for a placeholder of it, or a value that was put
for something else. -/
inductive Origin where
  | template
  | value
  | expansion
deriving DecidableEq

/-- A character, or a placeholder of the template. -/
inductive Piece where
  | char (c : Char) (origin : Origin)
  | placeholder (text : List Char) (name : String)
deriving DecidableEq

/-- The text of a piece. -/
def Piece.text : Piece → List Char
  | .char c _ => [c]
  | .placeholder text _ => text

/-- The text of the pieces. -/
def plain (pieces : List Piece) : List Char := pieces.flatMap Piece.text

/-- The characters of a text. -/
def charPieces (origin : Origin) (cs : List Char) : List Piece := cs.map fun c => .char c origin

/-- The pieces of a template: the matches of `_TEMPLATE_VARIABLE_PATTERN` and the characters between them; `skip`
counts the characters left of the last match. -/
def templatePieces : ℕ → List Char → List Piece
  | _, [] => []
  | skip + 1, _ :: cs => templatePieces skip cs
  | 0, c :: cs =>
    match variableAt (c :: cs) with
    | some (name, rest) =>
      .placeholder ((c :: cs).take ((c :: cs).length - rest.length)) name ::
        templatePieces (cs.length - rest.length) cs
    | none => .char c .template :: templatePieces 0 cs

/-- Every placeholder is one that the pattern recognises. -/
def WellSpelled (pieces : List Piece) : Prop := ∀ text name, .placeholder text name ∈ pieces → IsSpelling text name

section Template

variable {text cs rest : List Char} {name : String} {pieces : List Piece} {piece : Piece}

@[simp] theorem plain_nil : plain [] = [] := rfl

@[simp] theorem plain_cons : plain (piece :: pieces) = piece.text ++ plain pieces := List.flatMap_cons

@[simp] theorem plain_append {pieces' : List Piece} : plain (pieces ++ pieces') = plain pieces ++ plain pieces' :=
  List.flatMap_append

@[simp] theorem plain_charPieces (origin : Origin) : plain (charPieces origin cs) = cs := by
  induction cs with
  | nil => rfl
  | cons c cs ih => exact congrArg (c :: ·) ih

theorem placeholder_not_mem_charPieces {origin : Origin} : .placeholder text name ∉ charPieces origin cs := by
  simp [charPieces]

theorem templatePieces_skip (run rest : List Char) :
    templatePieces run.length (run ++ rest) = templatePieces 0 rest := by
  induction run with
  | nil => rfl
  | cons c run ih => exact ih

theorem findVariables_skip (run rest : List Char) :
    findVariables run.length (run ++ rest) = findVariables 0 rest := by
  induction run with
  | nil => rfl
  | cons c run ih => exact ih

/-- A placeholder at the head of the template. -/
theorem templatePieces_append (h : IsSpelling text name) :
    templatePieces 0 (text ++ rest) = .placeholder text name :: templatePieces 0 rest := by
  have hhead : variableAt (text ++ rest) = some (name, rest) := variableAt_eq_some_iff.mpr ⟨text, h, rfl⟩
  obtain ⟨body, rfl, -⟩ := h.opens
  rw [List.cons_append] at hhead ⊢
  simp only [templatePieces, hhead]
  rw [← List.cons_append, List.length_append, List.length_append, Nat.add_sub_cancel, Nat.add_sub_cancel,
    List.take_left, templatePieces_skip]

theorem findVariables_append (h : IsSpelling text name) :
    findVariables 0 (text ++ rest) = name :: findVariables 0 rest := by
  have hhead : variableAt (text ++ rest) = some (name, rest) := variableAt_eq_some_iff.mpr ⟨text, h, rfl⟩
  obtain ⟨body, rfl, -⟩ := h.opens
  rw [List.cons_append] at hhead ⊢
  simp only [findVariables, hhead]
  rw [List.length_append, Nat.add_sub_cancel, findVariables_skip]

/-- A template begins with a placeholder or with another character. -/
theorem template_induction {P : List Char → Prop} (hnil : P [])
    (hplaceholder : ∀ text name rest, IsSpelling text name → P rest → P (text ++ rest))
    (hchar : ∀ c cs, variableAt (c :: cs) = none → P cs → P (c :: cs)) (cs : List Char) : P cs := by
  induction h : cs.length using Nat.strong_induction_on generalizing cs with
  | _ n ih =>
    subst h
    rcases cs with _ | ⟨c, cs⟩
    · exact hnil
    · rcases hhead : variableAt (c :: cs) with _ | ⟨name, rest⟩
      · exact hchar c cs hhead (ih _ (by simp) cs rfl)
      · obtain ⟨text, htext, hcs⟩ := variableAt_eq_some_iff.mp hhead
        obtain ⟨body, hbody, -⟩ := htext.opens
        rw [hcs]
        refine hplaceholder text name rest htext (ih _ ?_ rest rfl)
        rw [hcs, hbody, List.length_append, List.length_cons]
        omega

/-- **The pieces make up the template.** -/
theorem plain_templatePieces (cs : List Char) : plain (templatePieces 0 cs) = cs := by
  induction cs using template_induction with
  | hnil => rfl
  | hplaceholder text name rest h ih =>
    rw [templatePieces_append h, plain_cons, ih]
    rfl
  | hchar c cs h ih =>
    simp only [templatePieces, h]
    rw [plain_cons, ih]
    rfl

/-- Every placeholder of a template is recognised. -/
theorem wellSpelled_templatePieces (cs : List Char) : WellSpelled (templatePieces 0 cs) := by
  induction cs using template_induction with
  | hnil => exact fun _ _ h => nomatch h
  | hplaceholder text name rest h ih =>
    intro text' name' hmem
    rw [templatePieces_append h] at hmem
    rcases List.mem_cons.mp hmem with heq | hmem
    · obtain ⟨rfl, rfl⟩ := Piece.placeholder.inj heq
      exact h
    · exact ih _ _ hmem
  | hchar c cs h ih =>
    intro text' name' hmem
    simp only [templatePieces, h] at hmem
    rcases List.mem_cons.mp hmem with heq | hmem
    · cases heq
    · exact ih _ _ hmem

/-- The names that are found are those of the placeholders. -/
theorem mem_findVariables_iff {cs : List Char} :
    name ∈ findVariables 0 cs ↔ ∃ text, .placeholder text name ∈ templatePieces 0 cs := by
  induction cs using template_induction with
  | hnil => simp [findVariables, templatePieces]
  | hplaceholder text name' rest h ih =>
    rw [findVariables_append h, templatePieces_append h, List.mem_cons, ih]
    constructor
    · rintro (rfl | ⟨text', hmem⟩)
      · exact ⟨text, List.mem_cons_self⟩
      · exact ⟨text', List.mem_cons_of_mem _ hmem⟩
    · rintro ⟨text', hmem⟩
      rcases List.mem_cons.mp hmem with heq | hmem
      · exact Or.inl (Piece.placeholder.inj heq).2
      · exact Or.inr ⟨text', hmem⟩
  | hchar c cs h ih =>
    simp only [findVariables, templatePieces, h, List.mem_cons, reduceCtorEq, false_or]
    exact ih

end Template

/-! ## Replacing with origins -/

/-- `str.replace` on pieces: a placeholder of the template becomes the value, and so does what looks like it. -/
def replacePieces (old new : List Char) : ℕ → List Piece → List Piece
  | _, [] => []
  | skip + 1, _ :: pieces => replacePieces old new skip pieces
  | 0, .placeholder text name :: pieces =>
    (if text = old then charPieces .value new else [.placeholder text name]) ++ replacePieces old new 0 pieces
  | 0, .char c origin :: pieces =>
    if old.isPrefixOf (c :: plain pieces) then
      charPieces .expansion new ++ replacePieces old new (old.length - 1) pieces
    else .char c origin :: replacePieces old new 0 pieces

/-- The first pieces are characters. -/
def CharsFirst : ℕ → List Piece → Prop
  | 0, _ => True
  | n + 1, .char _ _ :: pieces => CharsFirst n pieces
  | _ + 1, _ => False

section Replacing

variable {old new run text : List Char} {name : String} {pieces : List Piece} {c : Char} {origin : Origin} {skip : ℕ}

theorem WellSpelled.tail {piece : Piece} (h : WellSpelled (piece :: pieces)) : WellSpelled pieces :=
  fun text name hmem => h text name (List.mem_cons_of_mem _ hmem)

theorem WellSpelled.head (h : WellSpelled (.placeholder text name :: pieces)) : IsSpelling text name :=
  h text name List.mem_cons_self

theorem charsFirst_zero : CharsFirst 0 pieces := by
  cases pieces <;> trivial

/-- A text without an opening brace does not reach into a placeholder. -/
theorem charsFirst_of_not_mem (hpieces : WellSpelled pieces) (hrun : openBrace ∉ run)
    (h : run.isPrefixOf (plain pieces) = true) : CharsFirst run.length pieces := by
  induction run generalizing pieces with
  | nil => trivial
  | cons d run ih =>
    rw [List.isPrefixOf_iff_prefix] at h
    rcases pieces with _ | ⟨⟨c, origin⟩ | ⟨text, name⟩, pieces⟩
    · cases List.prefix_nil.mp h
    · exact ih hpieces.tail (fun hmem => hrun (List.mem_cons_of_mem _ hmem))
        (List.isPrefixOf_iff_prefix.mpr (List.cons_prefix_cons.mp h).2)
    · obtain ⟨body, rfl, -⟩ := hpieces.head.opens
      have hd : d = openBrace := (List.cons_prefix_cons.mp h).1
      exact absurd (hd ▸ List.mem_cons_self) hrun

/-- **What looks like a placeholder** does not reach into one. -/
theorem charsFirst_of_isPrefixOf (hpieces : WellSpelled pieces) (hold : Opens old)
    (h : old.isPrefixOf (c :: plain pieces) = true) : CharsFirst (old.length - 1) pieces := by
  obtain ⟨body, rfl, hne, hbody⟩ := hold
  rw [List.isPrefixOf_iff_prefix] at h
  have hsecond := (List.cons_prefix_cons.mp h).2
  rcases pieces with _ | ⟨⟨d, origin⟩ | ⟨text, name⟩, pieces⟩
  · cases List.prefix_nil.mp hsecond
  · have hrest : CharsFirst body.length pieces :=
      charsFirst_of_not_mem hpieces.tail hbody (List.isPrefixOf_iff_prefix.mpr (List.cons_prefix_cons.mp hsecond).2)
    exact hrest
  · obtain ⟨textBody, rfl, -⟩ := hpieces.head.opens
    obtain ⟨e, body, rfl⟩ := List.exists_cons_of_ne_nil hne
    have he : e = openBrace := (List.cons_prefix_cons.mp (List.cons_prefix_cons.mp hsecond).2).1
    exact absurd (he ▸ List.mem_cons_self) hbody

/-- **The pieces are replaced as the code replaces.** -/
theorem plain_replacePieces (hpieces : WellSpelled pieces) (hold : IsSpelling old name)
    (hskip : CharsFirst skip pieces) :
    plain (replacePieces old new skip pieces) = replaceChars old new skip (plain pieces) := by
  fun_induction replacePieces old new skip pieces with
  | case1 skip => cases skip <;> rfl
  | case2 skip piece pieces ih =>
    rcases piece with ⟨c, origin⟩ | ⟨text, name⟩
    · exact ih hpieces.tail hskip
    · cases hskip
  | case3 text name' pieces ih =>
    rw [plain_append, ih hpieces.tail trivial, plain_cons]
    refine Eq.trans ?_ (hpieces.head.replaceChars hold).symm
    split <;> simp [Piece.text]
  | case4 c origin pieces hstart ih =>
    have hchars := charsFirst_of_isPrefixOf hpieces.tail hold.opens hstart
    rw [plain_append, plain_charPieces, ih hpieces.tail hchars, plain_cons, Piece.text, List.singleton_append,
      replaceChars, if_pos hstart]
  | case5 c origin pieces hstart ih =>
    rw [plain_cons, plain_cons, ih hpieces.tail trivial, Piece.text, List.singleton_append, List.singleton_append,
      replaceChars, if_neg hstart]

/-- A placeholder that is left was there before. -/
theorem placeholder_of_mem_replacePieces (h : .placeholder text name ∈ replacePieces old new skip pieces) :
    .placeholder text name ∈ pieces := by
  fun_induction replacePieces old new skip pieces with
  | case1 => cases h
  | case2 skip piece pieces ih => exact List.mem_cons_of_mem _ (ih h)
  | case3 text' name' pieces ih =>
    rcases List.mem_append.mp h with h | h
    · split at h
      · exact absurd h placeholder_not_mem_charPieces
      · exact List.mem_cons.mpr (Or.inl (List.mem_singleton.mp h))
    · exact List.mem_cons_of_mem _ (ih h)
  | case4 c origin pieces hstart ih =>
    rcases List.mem_append.mp h with h | h
    · exact absurd h placeholder_not_mem_charPieces
    · exact List.mem_cons_of_mem _ (ih h)
  | case5 c origin pieces hstart ih =>
    rcases List.mem_cons.mp h with h | h
    · cases h
    · exact List.mem_cons_of_mem _ (ih h)

theorem WellSpelled.replacePieces (h : WellSpelled pieces) : WellSpelled (replacePieces old new skip pieces) :=
  fun text name hmem => h text name (placeholder_of_mem_replacePieces hmem)

/-- **A placeholder that is spelled otherwise** stays. -/
theorem mem_replacePieces (hpieces : WellSpelled pieces) (hold : Opens old) (hskip : CharsFirst skip pieces)
    (hmem : .placeholder text name ∈ pieces) (hne : text ≠ old) :
    .placeholder text name ∈ Execution.replacePieces old new skip pieces := by
  fun_induction Execution.replacePieces old new skip pieces with
  | case1 => exact hmem
  | case2 skip piece pieces ih =>
    rcases piece with ⟨c, origin⟩ | ⟨text', name'⟩
    · rcases List.mem_cons.mp hmem with heq | hmem
      · cases heq
      · exact ih hpieces.tail hskip hmem
    · cases hskip
  | case3 text' name' pieces ih =>
    rcases List.mem_cons.mp hmem with heq | hmem
    · obtain ⟨rfl, rfl⟩ := Piece.placeholder.inj heq
      rw [if_neg hne]
      exact List.mem_cons_self
    · exact List.mem_append_right _ (ih hpieces.tail trivial hmem)
  | case4 c origin pieces hstart ih =>
    rcases List.mem_cons.mp hmem with heq | hmem
    · cases heq
    · exact List.mem_append_right _ (ih hpieces.tail (charsFirst_of_isPrefixOf hpieces.tail hold hstart) hmem)
  | case5 c origin pieces hstart ih =>
    rcases List.mem_cons.mp hmem with heq | hmem
    · cases heq
    · exact List.mem_cons_of_mem _ (ih hpieces.tail trivial hmem)

end Replacing

/-! ## Filling in -/

section Filling

variable (value : String → List Char)

/-- All placeholders are filled in at once. -/
def fillAll (pieces : List Piece) : List Piece :=
  pieces.flatMap fun
    | .char c origin => [.char c origin]
    | .placeholder _ name => charPieces .value (value name)

/-- The placeholders of some spellings are filled in at once. -/
def fillSpellings (spellings : List (List Char)) (pieces : List Piece) : List Piece :=
  pieces.flatMap fun
    | .char c origin => [.char c origin]
    | .placeholder text name => if text ∈ spellings then charPieces .value (value name) else [.placeholder text name]

/-- The spelling begins at a character. -/
def Stray (spelling : List Char) (pieces : List Piece) : Prop :=
  ∃ before c origin after, pieces = before ++ .char c origin :: after ∧ spelling.isPrefixOf (c :: plain after) = true

/-- No spelling begins at a character when the ones before are filled in. -/
def NeverStray : List (List Char × String) → List Piece → Prop
  | [], _ => True
  | spelling :: spellings, pieces =>
    ¬Stray spelling.1 pieces ∧ NeverStray spellings (fillSpellings value [spelling.1] pieces)

/-- The spellings are replaced one after the other. -/
def renderPieces (spellings : List (List Char × String)) (pieces : List Piece) : List Piece :=
  spellings.foldl (fun pieces spelling => replacePieces spelling.1 (value spelling.2) 0 pieces) pieces

/-- How many characters of the template and of its values are there, or still to come. -/
def Piece.weight : Piece → ℕ
  | .char _ .expansion => 0
  | .char _ _ => 1
  | .placeholder _ name => (value name).length

/-- The weight of the pieces. -/
def weight (pieces : List Piece) : ℕ := (pieces.map (Piece.weight value)).sum

end Filling

section Weights

variable {value : String → List Char} {spelling text : List Char} {name : String} {pieces : List Piece} {skip : ℕ}

@[simp] theorem weight_nil : weight value [] = 0 := rfl

@[simp] theorem weight_cons {piece : Piece} :
    weight value (piece :: pieces) = piece.weight value + weight value pieces := List.sum_cons

@[simp] theorem weight_append {pieces' : List Piece} :
    weight value (pieces ++ pieces') = weight value pieces + weight value pieces' := by
  simp [weight]

@[simp] theorem weight_value (cs : List Char) : weight value (charPieces .value cs) = cs.length := by
  induction cs with
  | nil => rfl
  | cons c cs ih =>
    rw [charPieces, List.map_cons, weight_cons, ← charPieces, ih, List.length_cons]
    exact Nat.add_comm 1 cs.length

@[simp] theorem weight_expansion (cs : List Char) : weight value (charPieces .expansion cs) = 0 := by
  induction cs with
  | nil => rfl
  | cons c cs ih =>
    rw [charPieces, List.map_cons, weight_cons, ← charPieces, ih]
    rfl

/-- Filling in keeps the weight. -/
theorem weight_fillAll (pieces : List Piece) : weight value (fillAll value pieces) = weight value pieces := by
  induction pieces with
  | nil => rfl
  | cons piece pieces ih =>
    rw [fillAll, List.flatMap_cons, weight_append, ← fillAll, ih, weight_cons]
    rcases piece with ⟨c, origin⟩ | ⟨text, name⟩
    · simp
    · simp [Piece.weight]

theorem weight_fillSpellings (spellings : List (List Char)) (pieces : List Piece) :
    weight value (fillSpellings value spellings pieces) = weight value pieces := by
  induction pieces with
  | nil => rfl
  | cons piece pieces ih =>
    rw [fillSpellings, List.flatMap_cons, weight_append, ← fillSpellings, ih, weight_cons]
    rcases piece with ⟨c, origin⟩ | ⟨text, name⟩
    · simp
    · dsimp only
      split <;> simp [Piece.weight]

/-- A replaced placeholder weighs as much as before. -/
theorem weight_replaced (hspelling : IsSpelling spelling name) {name' : String} (htext : IsSpelling text name') :
    weight value (if text = spelling then charPieces .value (value name) else [.placeholder text name']) =
      (value name').length := by
  split
  · next heq =>
    subst heq
    rw [weight_value, hspelling.name_eq htext]
  · simp [Piece.weight]

/-- A replacement adds nothing. -/
theorem weight_replacePieces_le (hpieces : WellSpelled pieces) (hspelling : IsSpelling spelling name) :
    weight value (replacePieces spelling (value name) skip pieces) ≤ weight value pieces := by
  fun_induction replacePieces spelling (value name) skip pieces with
  | case1 => exact le_refl _
  | case2 skip piece pieces ih =>
    rw [weight_cons]
    exact (ih hpieces.tail).trans (Nat.le_add_left _ _)
  | case3 text name' pieces ih =>
    rw [weight_append, weight_cons, weight_replaced hspelling hpieces.head]
    exact Nat.add_le_add_left (ih hpieces.tail) _
  | case4 c origin pieces hstart ih =>
    rw [weight_append, weight_cons, weight_expansion, Nat.zero_add]
    exact (ih hpieces.tail).trans (Nat.le_add_left _ _)
  | case5 c origin pieces hstart ih =>
    rw [weight_cons, weight_cons]
    exact Nat.add_le_add_left (ih hpieces.tail) _

/-- No character comes from an expansion. -/
def Unexpanded (pieces : List Piece) : Prop := ∀ c, .char c .expansion ∉ pieces

theorem Unexpanded.tail {piece : Piece} (h : Unexpanded (piece :: pieces)) : Unexpanded pieces :=
  fun c hmem => h c (List.mem_cons_of_mem _ hmem)

theorem Unexpanded.weight_head {c : Char} {origin : Origin} (h : Unexpanded (.char c origin :: pieces)) :
    (Piece.char c origin).weight value = 1 := by
  cases origin with
  | template | value => rfl
  | expansion => exact absurd List.mem_cons_self (h c)

/-- **A stray replacement takes something away.** -/
theorem weight_replacePieces_lt (hpieces : WellSpelled pieces) (hunexpanded : Unexpanded pieces)
    (hspelling : IsSpelling spelling name) (hstray : Stray spelling pieces) :
    weight value (replacePieces spelling (value name) 0 pieces) < weight value pieces := by
  obtain ⟨before, c, origin, after, rfl, hstart⟩ := hstray
  induction before with
  | nil =>
    rw [List.nil_append] at hpieces hunexpanded ⊢
    rw [replacePieces, if_pos hstart, weight_append, weight_expansion, weight_cons, hunexpanded.weight_head]
    have hle : weight value (replacePieces spelling (value name) (spelling.length - 1) after) ≤ weight value after :=
      weight_replacePieces_le hpieces.tail hspelling
    omega
  | cons piece before ih =>
    rw [List.cons_append] at hpieces hunexpanded ⊢
    have hrest := ih hpieces.tail hunexpanded.tail
    rcases piece with ⟨d, origin'⟩ | ⟨text, name'⟩
    · rw [replacePieces]
      split
      · rw [weight_append, weight_expansion, weight_cons, hunexpanded.weight_head]
        have hle : weight value (replacePieces spelling (value name) (spelling.length - 1)
            (before ++ .char c origin :: after)) ≤ weight value (before ++ .char c origin :: after) :=
          weight_replacePieces_le hpieces.tail hspelling
        omega
      · rw [weight_cons, weight_cons]
        omega
    · rw [replacePieces, weight_append, weight_cons, weight_replaced hspelling hpieces.head, Piece.weight]
      omega

end Weights

/-! ## One replacement after the other -/

section Runs

variable {value : String → List Char} {spelling text : List Char} {name : String} {pieces : List Piece}
  {spellings : List (List Char × String)}

theorem not_stray_tail {piece : Piece} (h : ¬Stray spelling (piece :: pieces)) : ¬Stray spelling pieces := by
  rintro ⟨before, c, origin, after, rfl, hstart⟩
  exact h ⟨piece :: before, c, origin, after, rfl, hstart⟩

/-- **A replacement that is never stray** fills in the placeholders of its spelling. -/
theorem replacePieces_of_not_stray (hpieces : WellSpelled pieces) (hspelling : IsSpelling spelling name)
    (h : ¬Stray spelling pieces) :
    replacePieces spelling (value name) 0 pieces = fillSpellings value [spelling] pieces := by
  induction pieces with
  | nil => rfl
  | cons piece pieces ih =>
    have hrest := ih hpieces.tail (not_stray_tail h)
    rw [fillSpellings, List.flatMap_cons, ← fillSpellings, ← hrest]
    rcases piece with ⟨c, origin⟩ | ⟨text, name'⟩
    · rw [replacePieces, if_neg fun hstart => h ⟨[], c, origin, pieces, rfl, hstart⟩]
      rfl
    · rw [replacePieces]
      by_cases htext : text = spelling
      · subst htext
        simp [hspelling.name_eq hpieces.head]
      · simp [htext]

theorem placeholder_of_mem_fillSpellings {texts : List (List Char)}
    (h : .placeholder text name ∈ fillSpellings value texts pieces) : .placeholder text name ∈ pieces := by
  obtain ⟨piece, hpiece, hmem⟩ := List.mem_flatMap.mp h
  rcases piece with ⟨c, origin⟩ | ⟨text', name'⟩
  · cases List.mem_singleton.mp hmem
  · dsimp only at hmem
    split at hmem
    · exact absurd hmem placeholder_not_mem_charPieces
    · rw [List.mem_singleton.mp hmem]
      exact hpiece

theorem WellSpelled.fillSpellings (h : WellSpelled pieces) (texts : List (List Char)) :
    WellSpelled (fillSpellings value texts pieces) :=
  fun text name hmem => h text name (placeholder_of_mem_fillSpellings hmem)

theorem Unexpanded.fillSpellings (h : Unexpanded pieces) (texts : List (List Char)) :
    Unexpanded (fillSpellings value texts pieces) := by
  intro c hmem
  obtain ⟨piece, hpiece, hmem⟩ := List.mem_flatMap.mp hmem
  rcases piece with ⟨d, origin⟩ | ⟨text', name'⟩
  · exact h c (List.mem_singleton.mp hmem ▸ hpiece)
  · dsimp only at hmem
    split at hmem
    · simp [charPieces] at hmem
    · cases List.mem_singleton.mp hmem

theorem fillSpellings_charPieces (texts : List (List Char)) (origin : Origin) (cs : List Char) :
    fillSpellings value texts (charPieces origin cs) = charPieces origin cs := by
  induction cs with
  | nil => rfl
  | cons c cs ih => exact congrArg (Piece.char c origin :: ·) ih

theorem fillSpellings_nil (pieces : List Piece) : fillSpellings value [] pieces = pieces := by
  induction pieces with
  | nil => rfl
  | cons piece pieces ih =>
    rw [fillSpellings, List.flatMap_cons, ← fillSpellings, ih]
    rcases piece with ⟨c, origin⟩ | ⟨text, name⟩
    · rfl
    · simp

/-- Filling in the placeholders of one spelling after the other. -/
theorem fillSpellings_fillSpellings (texts texts' : List (List Char)) (pieces : List Piece) :
    fillSpellings value texts' (fillSpellings value texts pieces) = fillSpellings value (texts ++ texts') pieces := by
  induction pieces with
  | nil => rfl
  | cons piece pieces ih =>
    simp only [fillSpellings, List.flatMap_cons, List.flatMap_append] at ih ⊢
    rw [ih]
    refine congrArg (· ++ _) ?_
    rcases piece with ⟨c, origin⟩ | ⟨text, name⟩
    · rfl
    · dsimp only
      by_cases htext : text ∈ texts
      · rw [if_pos htext, if_pos (List.mem_append_left _ htext)]
        exact fillSpellings_charPieces texts' .value (value name)
      · simp [htext]

/-- **Without a stray replacement**, the rendering fills in the placeholders of the spellings. -/
theorem renderPieces_of_neverStray (hpieces : WellSpelled pieces)
    (hspellings : ∀ spelling ∈ spellings, IsSpelling spelling.1 spelling.2) (h : NeverStray value spellings pieces) :
    renderPieces value spellings pieces = fillSpellings value (spellings.map Prod.fst) pieces := by
  induction spellings generalizing pieces with
  | nil => exact (fillSpellings_nil pieces).symm
  | cons spelling spellings ih =>
    obtain ⟨hspelling, hrest⟩ := List.forall_mem_cons.mp hspellings
    rw [renderPieces, List.foldl_cons, replacePieces_of_not_stray hpieces hspelling h.1, ← renderPieces,
      ih (hpieces.fillSpellings _) hrest h.2, fillSpellings_fillSpellings]
    rfl

/-- The replacements that follow add nothing. -/
theorem weight_renderPieces_le (hpieces : WellSpelled pieces)
    (hspellings : ∀ spelling ∈ spellings, IsSpelling spelling.1 spelling.2) :
    weight value (renderPieces value spellings pieces) ≤ weight value pieces := by
  induction spellings generalizing pieces with
  | nil => exact le_refl _
  | cons spelling spellings ih =>
    obtain ⟨hspelling, hrest⟩ := List.forall_mem_cons.mp hspellings
    exact (ih hpieces.replacePieces hrest).trans (weight_replacePieces_le hpieces hspelling)

/-- **After a stray replacement** something is missing for good. -/
theorem weight_renderPieces_lt (hpieces : WellSpelled pieces) (hunexpanded : Unexpanded pieces)
    (hspellings : ∀ spelling ∈ spellings, IsSpelling spelling.1 spelling.2) (h : ¬NeverStray value spellings pieces) :
    weight value (renderPieces value spellings pieces) < weight value pieces := by
  induction spellings generalizing pieces with
  | nil => exact absurd trivial h
  | cons spelling spellings ih =>
    obtain ⟨hspelling, hrest⟩ := List.forall_mem_cons.mp hspellings
    by_cases hstray : Stray spelling.1 pieces
    · exact (weight_renderPieces_le hpieces.replacePieces hrest).trans_lt
        (weight_replacePieces_lt hpieces hunexpanded hspelling hstray)
    · have hlater : ¬NeverStray value spellings (Execution.fillSpellings value [spelling.1] pieces) :=
        fun hnever => h ⟨hstray, hnever⟩
      rw [renderPieces, List.foldl_cons, replacePieces_of_not_stray hpieces hspelling hstray, ← renderPieces]
      refine (ih (hpieces.fillSpellings _) (hunexpanded.fillSpellings _) hrest hlater).trans_eq ?_
      exact weight_fillSpellings _ _

/-- A placeholder that no spelling is of stays. -/
theorem mem_renderPieces (hpieces : WellSpelled pieces)
    (hspellings : ∀ spelling ∈ spellings, IsSpelling spelling.1 spelling.2)
    (hmem : .placeholder text name ∈ pieces) (hother : text ∉ spellings.map Prod.fst) :
    .placeholder text name ∈ renderPieces value spellings pieces := by
  induction spellings generalizing pieces with
  | nil => exact hmem
  | cons spelling spellings ih =>
    obtain ⟨hspelling, hrest⟩ := List.forall_mem_cons.mp hspellings
    rw [List.map_cons, List.mem_cons, not_or] at hother
    exact ih hpieces.replacePieces hrest (mem_replacePieces hpieces hspelling.opens trivial hmem hother.1) hother.2

/-- Filling in the spellings of all placeholders. -/
theorem fillSpellings_eq_fillAll {texts : List (List Char)}
    (h : ∀ text name, .placeholder text name ∈ pieces → text ∈ texts) :
    fillSpellings value texts pieces = fillAll value pieces := by
  refine List.flatMap_congr fun piece hpiece => ?_
  rcases piece with ⟨c, origin⟩ | ⟨text, name⟩
  · rfl
  · exact if_pos (h text name hpiece)

theorem placeholder_not_mem_fillAll : .placeholder text name ∉ fillAll value pieces := by
  intro h
  obtain ⟨piece, -, hmem⟩ := List.mem_flatMap.mp h
  rcases piece with ⟨c, origin⟩ | ⟨text', name'⟩
  · cases List.mem_singleton.mp hmem
  · exact absurd hmem placeholder_not_mem_charPieces

/-- **The rendering is the one at once** exactly when no replacement is stray and all placeholders are spelled in one
of the ways that are replaced. -/
theorem renderPieces_eq_fillAll_iff (hpieces : WellSpelled pieces) (hunexpanded : Unexpanded pieces)
    (hspellings : ∀ spelling ∈ spellings, IsSpelling spelling.1 spelling.2) :
    renderPieces value spellings pieces = fillAll value pieces ↔
      (∀ text name, .placeholder text name ∈ pieces → text ∈ spellings.map Prod.fst) ∧
        NeverStray value spellings pieces := by
  constructor
  · intro h
    refine ⟨fun text name hmem => ?_, ?_⟩
    · by_contra hother
      exact placeholder_not_mem_fillAll (h ▸ mem_renderPieces hpieces hspellings hmem hother)
    · by_contra hstray
      have hlt := weight_renderPieces_lt hpieces hunexpanded hspellings hstray
      rw [h, weight_fillAll] at hlt
      exact lt_irrefl _ hlt
  · rintro ⟨hspelled, hnever⟩
    rw [renderPieces_of_neverStray hpieces hspellings hnever, fillSpellings_eq_fillAll hspelled]

end Runs

/-! ## The template -/

/-- A placeholder without white space. -/
def tightSpelling (name : String) : List Char := (openBraces ++ name ++ closeBraces).toList

/-- A placeholder with a blank on each side of the name. -/
def spacedSpelling (name : String) : List Char := (openBraces ++ " " ++ name ++ " " ++ closeBraces).toList

/-- What is replaced, in the order of the code. -/
def spellingsOf (names : List String) : List (List Char × String) :=
  names.flatMap fun name => [(tightSpelling name, name), (spacedSpelling name, name)]

section Spellings

variable {name text : String} {names : List String} {pieces : List Piece} {inputs : Dict}

theorem isSpelling_tightSpelling (hne : name.toList ≠ []) (hchars : ∀ c ∈ name.toList, isNameChar c = true) :
    IsSpelling (tightSpelling name) name :=
  ⟨hne, hchars, [], [], by simp, by simp, by simp [tightSpelling]⟩

theorem isSpelling_spacedSpelling (hne : name.toList ≠ []) (hchars : ∀ c ∈ name.toList, isNameChar c = true) :
    IsSpelling (spacedSpelling name) name := by
  have hblank : ∀ c ∈ [' '], isSpace c = true := by
    intro c hc
    rw [List.mem_singleton.mp hc]
    decide
  exact ⟨hne, hchars, [' '], [' '], hblank, hblank, by simp [spacedSpelling]⟩

theorem isSpelling_of_mem_spellingsOf
    (hnames : ∀ name ∈ names, name.toList ≠ [] ∧ ∀ c ∈ name.toList, isNameChar c = true) :
    ∀ spelling ∈ spellingsOf names, IsSpelling spelling.1 spelling.2 := by
  intro spelling hspelling
  obtain ⟨name, hname, hmem⟩ := List.mem_flatMap.mp hspelling
  obtain ⟨hne, hchars⟩ := hnames name hname
  rcases List.mem_cons.mp hmem with rfl | hmem
  · exact isSpelling_tightSpelling hne hchars
  · rw [List.mem_singleton.mp hmem]
    exact isSpelling_spacedSpelling hne hchars

/-- **One name.** -/
theorem replaceVariable_plain (hpieces : WellSpelled pieces) (hne : name.toList ≠ [])
    (hchars : ∀ c ∈ name.toList, isNameChar c = true) :
    let value := (stringifyTemplateValue (Dict.get inputs name)).toList
    replaceVariable inputs (String.ofList (plain pieces)) name = String.ofList (plain (replacePieces
      (spacedSpelling name) value 0 (replacePieces (tightSpelling name) value 0 pieces))) := by
  intro value
  rw [replaceVariable, replace, replace, String.toList_ofList, String.toList_ofList,
    plain_replacePieces hpieces.replacePieces (isSpelling_spacedSpelling hne hchars) charsFirst_zero,
    plain_replacePieces hpieces (isSpelling_tightSpelling hne hchars) charsFirst_zero]
  rfl

/-- **The loop of the code** on pieces. -/
theorem foldl_replaceVariable_plain (hpieces : WellSpelled pieces)
    (hnames : ∀ name ∈ names, name.toList ≠ [] ∧ ∀ c ∈ name.toList, isNameChar c = true) :
    names.foldl (replaceVariable inputs) (String.ofList (plain pieces)) = String.ofList (plain (renderPieces
      (fun name => (stringifyTemplateValue (Dict.get inputs name)).toList) (spellingsOf names) pieces)) := by
  induction names generalizing pieces with
  | nil => rfl
  | cons name names ih =>
    obtain ⟨⟨hne, hchars⟩, hrest⟩ := List.forall_mem_cons.mp hnames
    rw [List.foldl_cons, replaceVariable_plain hpieces hne hchars, ih hpieces.replacePieces.replacePieces hrest]
    rfl

end Spellings

section Rendering

variable (promptDefinition requestInputs : Dict)

/-- The text that is put for a name. -/
def templateValue (name : String) : List Char :=
  (stringifyTemplateValue (Dict.get (mergePromptInputs requestInputs promptDefinition) name)).toList

/-- The pieces of the template of a definition. -/
def definitionPieces : List Piece := templatePieces 0 (promptTemplateOf promptDefinition).toList

/-- What is replaced in the template of a definition. -/
def definitionSpellings : List (List Char × String) :=
  spellingsOf (sortedNames (findVariables 0 (promptTemplateOf promptDefinition).toList))

/-- The rendering of the code, with origins. -/
def tracedRendering : List Piece :=
  renderPieces (templateValue promptDefinition requestInputs) (definitionSpellings promptDefinition)
    (definitionPieces promptDefinition)

/-- **The rendering at once**: every placeholder is replaced by the text of its value, and every other character of the
template is copied. -/
def renderingAtOnce : List Piece :=
  fillAll (templateValue promptDefinition requestInputs) (definitionPieces promptDefinition)

/-- Every placeholder of the template is spelled without white space or with one blank on each side; and, spelling by
spelling in the order of the code, the spelling begins only at placeholders when the ones before are filled in. -/
structure FillsAtOnce : Prop where
  spelled : ∀ text name, .placeholder text name ∈ definitionPieces promptDefinition →
    text = tightSpelling name ∨ text = spacedSpelling name
  neverStray : NeverStray (templateValue promptDefinition requestInputs) (definitionSpellings promptDefinition)
    (definitionPieces promptDefinition)

end Rendering

section Promise

variable {promptDefinition requestInputs : Dict} {name : String}

theorem mem_sortedNames {names : List String} : name ∈ sortedNames names ↔ name ∈ names := by
  unfold sortedNames
  rw [List.mem_insertionSort, List.mem_dedup]

theorem isName_of_mem_findVariables {cs : List Char} (h : name ∈ findVariables 0 cs) :
    name.toList ≠ [] ∧ ∀ c ∈ name.toList, isNameChar c = true := by
  obtain ⟨text, hmem⟩ := mem_findVariables_iff.mp h
  have hspelling := wellSpelled_templatePieces cs text name hmem
  exact ⟨hspelling.nonempty, hspelling.chars⟩

theorem isSpelling_of_mem_definitionSpellings :
    ∀ spelling ∈ definitionSpellings promptDefinition, IsSpelling spelling.1 spelling.2 :=
  isSpelling_of_mem_spellingsOf fun _ hname => isName_of_mem_findVariables (mem_sortedNames.mp hname)

theorem unexpanded_templatePieces (cs : List Char) : Unexpanded (templatePieces 0 cs) := by
  induction cs using template_induction with
  | hnil => exact fun _ h => nomatch h
  | hplaceholder text name rest h ih =>
    intro c hmem
    rw [templatePieces_append h] at hmem
    rcases List.mem_cons.mp hmem with heq | hmem
    · cases heq
    · exact ih c hmem
  | hchar d cs h ih =>
    intro c hmem
    simp only [templatePieces, h] at hmem
    rcases List.mem_cons.mp hmem with heq | hmem
    · cases heq
    · exact ih c hmem

/-- A placeholder of the template is one that is replaced exactly if it is spelled in one of the two ways. -/
theorem mem_definitionSpellings_iff {text : List Char}
    (hmem : .placeholder text name ∈ definitionPieces promptDefinition) :
    text ∈ (definitionSpellings promptDefinition).map Prod.fst ↔
      text = tightSpelling name ∨ text = spacedSpelling name := by
  have hname : name ∈ sortedNames (findVariables 0 (promptTemplateOf promptDefinition).toList) :=
    mem_sortedNames.mpr (mem_findVariables_iff.mpr ⟨text, hmem⟩)
  have htext : IsSpelling text name := wellSpelled_templatePieces _ text name hmem
  constructor
  · intro h
    obtain ⟨⟨spelling, name'⟩, hspelling, rfl⟩ := List.mem_map.mp h
    have hother := isSpelling_of_mem_definitionSpellings _ hspelling
    obtain ⟨name'', -, hpair⟩ := List.mem_flatMap.mp hspelling
    have heq : name = name' := htext.name_eq hother
    rcases List.mem_cons.mp hpair with hpair | hpair
    · obtain ⟨rfl, rfl⟩ := Prod.mk.inj hpair
      exact Or.inl (heq ▸ rfl)
    · obtain ⟨rfl, rfl⟩ := Prod.mk.inj (List.mem_singleton.mp hpair)
      exact Or.inr (heq ▸ rfl)
  · rintro (rfl | rfl)
    · exact List.mem_map.mpr ⟨(tightSpelling name, name), List.mem_flatMap.mpr ⟨name, hname, by simp⟩, rfl⟩
    · exact List.mem_map.mpr ⟨(spacedSpelling name, name), List.mem_flatMap.mpr ⟨name, hname, by simp⟩, rfl⟩

/-- No character is an opening brace. -/
def NoBrace (pieces : List Piece) : Prop := ∀ origin, .char openBrace origin ∉ pieces

theorem NoBrace.not_stray {spelling : List Char} {pieces : List Piece} (h : NoBrace pieces) (hopens : Opens spelling) :
    ¬Stray spelling pieces := by
  rintro ⟨before, c, origin, after, rfl, hstart⟩
  obtain ⟨body, rfl, -⟩ := hopens
  obtain rfl : openBrace = c := (List.cons_prefix_cons.mp (List.isPrefixOf_iff_prefix.mp hstart)).1
  exact h origin (by simp)

theorem NoBrace.fillSpellings {value : String → List Char} {pieces : List Piece} (h : NoBrace pieces)
    (hvalue : ∀ name, openBrace ∉ value name) (texts : List (List Char)) :
    NoBrace (fillSpellings value texts pieces) := by
  intro origin hmem
  obtain ⟨piece, hpiece, hmem⟩ := List.mem_flatMap.mp hmem
  rcases piece with ⟨d, origin'⟩ | ⟨text, name⟩
  · exact h origin (List.mem_singleton.mp hmem ▸ hpiece)
  · dsimp only at hmem
    split at hmem
    · obtain ⟨c, hc, heq⟩ := List.mem_map.mp hmem
      exact hvalue name ((Piece.char.inj heq).1 ▸ hc)
    · cases List.mem_singleton.mp hmem

/-- **Without an opening brace** in the values, and in the template outside of its placeholders, nothing is stray. -/
theorem neverStray_of_noBrace {value : String → List Char} {pieces : List Piece}
    {spellings : List (List Char × String)}
    (hspellings : ∀ spelling ∈ spellings, IsSpelling spelling.1 spelling.2) (h : NoBrace pieces)
    (hvalue : ∀ name, openBrace ∉ value name) : NeverStray value spellings pieces := by
  induction spellings generalizing pieces with
  | nil => trivial
  | cons spelling spellings ih =>
    obtain ⟨hspelling, hrest⟩ := List.forall_mem_cons.mp hspellings
    exact ⟨h.not_stray hspelling.opens, ih hrest (h.fillSpellings hvalue _)⟩

/-- Values without an opening brace, in a template that has none but those of well spelled placeholders. -/
theorem fillsAtOnce_of_noBrace (hspelled : ∀ text name, .placeholder text name ∈ definitionPieces promptDefinition →
    text = tightSpelling name ∨ text = spacedSpelling name) (h : NoBrace (definitionPieces promptDefinition))
    (hvalue : ∀ name, openBrace ∉ templateValue promptDefinition requestInputs name) :
    FillsAtOnce promptDefinition requestInputs :=
  ⟨hspelled, neverStray_of_noBrace isSpelling_of_mem_definitionSpellings h hvalue⟩

/-- **The rendering of the code** is that of the pieces; and **it is the rendering at once** exactly when the template
and the values admit it. -/
theorem rendering_at_once_iff (promptDefinition requestInputs : Dict) :
    renderPromptTemplate promptDefinition requestInputs =
        (if strip (promptTemplateOf promptDefinition) = "" then none
        else some (String.ofList (plain (tracedRendering promptDefinition requestInputs)))) ∧
      (tracedRendering promptDefinition requestInputs = renderingAtOnce promptDefinition requestInputs ↔
        FillsAtOnce promptDefinition requestInputs) := by
  have hpieces : WellSpelled (definitionPieces promptDefinition) := wellSpelled_templatePieces _
  constructor
  · have hplain : String.ofList (plain (definitionPieces promptDefinition)) = promptTemplateOf promptDefinition := by
      rw [definitionPieces, plain_templatePieces, String.ofList_toList]
    have hnames : ∀ name ∈ sortedNames (findVariables 0 (promptTemplateOf promptDefinition).toList),
        name.toList ≠ [] ∧ ∀ c ∈ name.toList, isNameChar c = true :=
      fun name hname => isName_of_mem_findVariables (mem_sortedNames.mp hname)
    have hloop : (sortedNames (findVariables 0 (promptTemplateOf promptDefinition).toList)).foldl
        (replaceVariable (mergePromptInputs requestInputs promptDefinition)) (promptTemplateOf promptDefinition) =
          String.ofList (plain (tracedRendering promptDefinition requestInputs)) :=
      (congrArg (List.foldl _ · _) hplain.symm).trans (foldl_replaceVariable_plain hpieces hnames)
    unfold renderPromptTemplate
    dsimp only
    rw [hloop]
  · refine (renderPieces_eq_fillAll_iff hpieces (unexpanded_templatePieces _)
      isSpelling_of_mem_definitionSpellings).trans ?_
    constructor
    · rintro ⟨hspelled, hnever⟩
      exact ⟨fun text name hmem => (mem_definitionSpellings_iff hmem).mp (hspelled text name hmem), hnever⟩
    · rintro ⟨hspelled, hnever⟩
      exact ⟨fun text name hmem => (mem_definitionSpellings_iff hmem).mpr (hspelled text name hmem), hnever⟩

/-- A template of two variables. -/
def greeting : Dict := [("prompt_template", .str "\x7b\x7ba\x7d\x7d and \x7b\x7b b \x7d\x7d")]

/-- The value of the first variable looks like the second variable. -/
def nestedInputs : Dict := [("a", .str "\x7b\x7bb\x7d\x7d"), ("b", .str "X")]

/-- **Failure**: a value is expanded. -/
theorem rendering_is_not_at_once : renderPromptTemplate greeting nestedInputs = some "X and X" ∧
    String.ofList (plain (renderingAtOnce greeting nestedInputs)) = "\x7b\x7bb\x7d\x7d and X" ∧
    tracedRendering greeting nestedInputs ≠ renderingAtOnce greeting nestedInputs := by
  decide +kernel

end Promise

end Execution
end HexeAiNode
