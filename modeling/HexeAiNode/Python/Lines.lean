import HexeAiNode.Python.Value

/-!
# Lines

`str.splitlines` on a text that was read with universal newlines: every line break ends a line, a carriage return
with the line feed after it is one, and a text does not end in an empty line.
-/

namespace Py

/-- The characters that end a line. -/
def isLineBreak (c : Char) : Bool :=
  let n := c.toNat
  (10 ≤ n && n ≤ 13) || (28 ≤ n && n ≤ 30) || n == 0x85 || n == 0x2028 || n == 0x2029

/-- The lines of a text; `afterReturn` says that the character before was a carriage return. -/
def splitLinesFrom : Bool → List Char → List (List Char)
  | _, [] => []
  | afterReturn, c :: cs =>
    if afterReturn && c == '\n' then splitLinesFrom false cs
    else if isLineBreak c then [] :: splitLinesFrom (c == '\r') cs
    else
      match splitLinesFrom false cs with
      | [] => [[c]]
      | line :: lines => (c :: line) :: lines

/-- `s.splitlines()`. -/
def splitLines (s : String) : List String := (splitLinesFrom false s.toList).map String.ofList

example : splitLines "a\r\nb\n\nc\n" = ["a", "b", "", "c"] := by decide

/-- A line break is white space. -/
theorem isSpace_of_isLineBreak {c : Char} (h : isLineBreak c = true) : isSpace c = true := by
  unfold isLineBreak at h
  unfold isSpace
  simp only [Bool.or_eq_true, Bool.and_eq_true, decide_eq_true_eq, beq_iff_eq] at h ⊢
  omega

/-- No line has a line break in it. -/
theorem isLineBreak_of_mem_splitLinesFrom {afterReturn : Bool} {cs line : List Char}
    (hline : line ∈ splitLinesFrom afterReturn cs) {c : Char} (hc : c ∈ line) : isLineBreak c = false := by
  induction cs generalizing afterReturn line with
  | nil => cases hline
  | cons d cs ih =>
      rw [splitLinesFrom] at hline
      split at hline
      · exact ih hline hc
      · split at hline
        · rcases List.mem_cons.mp hline with rfl | hline
          · cases hc
          · exact ih hline hc
        · rename_i hd
          rcases hlines : splitLinesFrom false cs with _ | ⟨first, lines⟩
          · rw [hlines] at hline
            obtain rfl := List.mem_singleton.mp hline
            obtain rfl := List.mem_singleton.mp hc
            simpa using hd
          · have hmem : ∀ l ∈ first :: lines, c ∈ l → isLineBreak c = false := by
              intro l hl
              rw [← hlines] at hl
              exact ih hl
            rw [hlines] at hline
            rcases List.mem_cons.mp hline with rfl | hline
            · rcases List.mem_cons.mp hc with rfl | hc
              · simpa using hd
              · exact hmem first List.mem_cons_self hc
            · exact hmem line (List.mem_cons_of_mem _ hline) hc

theorem splitLinesFrom_append {line : List Char} (rest : List Char) (h : ∀ c ∈ line, isLineBreak c = false) :
    splitLinesFrom false (line ++ '\n' :: rest) = line :: splitLinesFrom false rest := by
  induction line with
  | nil => rfl
  | cons c line ih =>
      have hc := h c List.mem_cons_self
      rw [List.cons_append, splitLinesFrom, ih fun d hd => h d (List.mem_cons_of_mem _ hd)]
      simp [hc]

/-- **Joined lines are split again.** -/
theorem splitLines_join {lines : List String} (h : ∀ line ∈ lines, ∀ c ∈ line.toList, isLineBreak c = false) :
    splitLines (join "\n" (lines ++ [""])) = lines := by
  induction lines with
  | nil => rfl
  | cons line lines ih =>
      have hjoin : join "\n" (line :: lines ++ [""]) = line ++ "\n" ++ join "\n" (lines ++ [""]) := by
        rcases lines with _ | ⟨second, lines⟩ <;> rfl
      have ih := ih fun l hl => h l (List.mem_cons_of_mem _ hl)
      unfold splitLines at ih ⊢
      rw [hjoin, String.toList_append, String.toList_append, List.append_assoc]
      have hsplit := splitLinesFrom_append (join "\n" (lines ++ [""])).toList (h line List.mem_cons_self)
      rw [show ("\n" : String).toList ++ (join "\n" (lines ++ [""])).toList =
        '\n' :: (join "\n" (lines ++ [""])).toList from rfl, hsplit, List.map_cons, ih, String.ofList_toList]

end Py
