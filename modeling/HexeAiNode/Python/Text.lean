import Mathlib

/-!
# Python text

The fragment of Python's `str` that request handling code leans on: white space, `strip`,
`rstrip`, `lower`, prefixes and suffixes.  A `str` is a Lean `String`; lone surrogates, which
Python also admits, are not represented.

Everything is defined through the list of characters, so the operations evaluate in the kernel:

* `isSpace` is the exact set of code points on which `str.isspace` holds;
* `lower` uses the simple case mappings of Unicode, tabulated by `lowerRanges`, together with the
  one expanding mapping (capital I with a dot above).  The only context-dependent rule, the final
  form of the Greek sigma, is left out;
* `stripLower` is the idiom `str(value).strip().lower()` on a text.
-/

namespace Py

/-! ## White space and `strip` -/

/-- `str.isspace` on one character. -/
def isSpace (c : Char) : Bool :=
  let n := c.toNat
  (9 ≤ n && n ≤ 13) || (28 ≤ n && n ≤ 32) || n == 0x85 || n == 0xA0 || n == 0x1680 ||
    (0x2000 ≤ n && n ≤ 0x200A) || n == 0x2028 || n == 0x2029 || n == 0x202F || n == 0x205F ||
    n == 0x3000

/-- `str.strip`: drop white space at both ends. -/
def strip (s : String) : String :=
  String.ofList ((s.toList.dropWhile isSpace).rdropWhile isSpace)

/-- `str.rstrip` with a one-character argument. -/
def rstripChar (s : String) (c : Char) : String :=
  String.ofList (s.toList.rdropWhile (· == c))

/-- `str.upper`, on ASCII texts. -/
def upper (s : String) : String := String.ofList (s.toList.map Char.toUpper)

/-- `str.startswith`. -/
def startsWith (s p : String) : Bool := p.toList.isPrefixOf s.toList

/-- `str.endswith`. -/
def endsWith (s p : String) : Bool := p.toList.isSuffixOf s.toList

/-- `bool(s)`: a text is true when it is not empty. -/
def strTruthy (s : String) : Bool := s != ""

@[simp] theorem strTruthy_empty : strTruthy "" = false := rfl

theorem strTruthy_iff {s : String} : strTruthy s = true ↔ s ≠ "" := by
  simp [strTruthy]

@[simp] theorem toList_strip (s : String) :
    (strip s).toList = (s.toList.dropWhile isSpace).rdropWhile isSpace := by
  simp [strip]

@[simp] theorem strip_empty : strip "" = "" := rfl

/-- Dropping from the right does not uncover anything on the left. -/
theorem dropWhile_rdropWhile_dropWhile {α : Type*} (p : α → Bool) (l : List α) :
    ((l.dropWhile p).rdropWhile p).dropWhile p = (l.dropWhile p).rdropWhile p := by
  rcases hl : l.dropWhile p with _ | ⟨a, t⟩
  · simp
  · have ha : ¬ p a = true := by
      have h := List.head_dropWhile_not p (l := l) (by simp [hl])
      simpa [hl] using h
    obtain ⟨w, hw⟩ := List.rdropWhile_prefix p (l := a :: t)
    rcases hr : (a :: t).rdropWhile p with _ | ⟨b, u⟩
    · simp
    · rw [hr] at hw
      have hb : b = a := by simpa using congrArg List.head? hw
      simp [hb, ha]

/-- **`strip` is idempotent.** -/
@[simp] theorem strip_strip (s : String) : strip (strip s) = strip s := by
  have h := dropWhile_rdropWhile_dropWhile isSpace s.toList
  simp only [strip, String.toList_ofList, h, List.rdropWhile_idempotent]

/-! ## Prefixes -/

theorem startsWith_iff {s p : String} : startsWith s p = true ↔ p.toList <+: s.toList := by
  rw [startsWith, List.isPrefixOf_iff_prefix]

theorem startsWith_trans {s p q : String} (h : startsWith s p = true) (hq : startsWith p q = true) :
    startsWith s q = true :=
  startsWith_iff.mpr ((startsWith_iff.mp hq).trans (startsWith_iff.mp h))

/-- Of two prefixes of a text one is a prefix of the other. -/
theorem startsWith_or_startsWith {s p q : String} (hp : startsWith s p = true)
    (hq : startsWith s q = true) : startsWith p q = true ∨ startsWith q p = true := by
  rw [startsWith_iff] at hp hq
  rw [startsWith_iff, startsWith_iff]
  exact List.prefix_or_prefix_of_prefix hq hp

/-! ## Lower case -/

/-- The simple lower-case mappings of Unicode outside ASCII, as runs `(first, last, stride, delta)`:
every `stride`-th code point from `first` to `last` is mapped `delta` further. -/
def lowerRanges : List (Nat × Nat × Nat × Int) := [
  (192, 214, 1, 32), (216, 222, 1, 32), (256, 302, 2, 1), (306, 310, 2, 1), (313, 327, 2, 1),
  (330, 374, 2, 1), (376, 376, 1, -121), (377, 381, 2, 1), (385, 385, 1, 210), (386, 388, 2, 1),
  (390, 390, 1, 206), (391, 391, 1, 1), (393, 394, 1, 205), (395, 395, 1, 1), (398, 398, 1, 79),
  (399, 399, 1, 202), (400, 400, 1, 203), (401, 401, 1, 1), (403, 403, 1, 205), (404, 404, 1, 207),
  (406, 406, 1, 211), (407, 407, 1, 209), (408, 408, 1, 1), (412, 412, 1, 211), (413, 413, 1, 213),
  (415, 415, 1, 214), (416, 420, 2, 1), (422, 422, 1, 218), (423, 423, 1, 1), (425, 425, 1, 218),
  (428, 428, 1, 1), (430, 430, 1, 218), (431, 431, 1, 1), (433, 434, 1, 217), (435, 437, 2, 1),
  (439, 439, 1, 219), (440, 440, 1, 1), (444, 444, 1, 1), (452, 452, 1, 2), (453, 453, 1, 1),
  (455, 455, 1, 2), (456, 456, 1, 1), (458, 458, 1, 2), (459, 475, 2, 1), (478, 494, 2, 1),
  (497, 497, 1, 2), (498, 500, 2, 1), (502, 502, 1, -97), (503, 503, 1, -56), (504, 542, 2, 1),
  (544, 544, 1, -130), (546, 562, 2, 1), (570, 570, 1, 10795), (571, 571, 1, 1),
  (573, 573, 1, -163), (574, 574, 1, 10792), (577, 577, 1, 1), (579, 579, 1, -195),
  (580, 580, 1, 69), (581, 581, 1, 71), (582, 590, 2, 1), (880, 882, 2, 1), (886, 886, 1, 1),
  (895, 895, 1, 116), (902, 902, 1, 38), (904, 906, 1, 37), (908, 908, 1, 64), (910, 911, 1, 63),
  (913, 929, 1, 32), (931, 939, 1, 32), (975, 975, 1, 8), (984, 1006, 2, 1), (1012, 1012, 1, -60),
  (1015, 1015, 1, 1), (1017, 1017, 1, -7), (1018, 1018, 1, 1), (1021, 1023, 1, -130),
  (1024, 1039, 1, 80), (1040, 1071, 1, 32), (1120, 1152, 2, 1), (1162, 1214, 2, 1),
  (1216, 1216, 1, 15), (1217, 1229, 2, 1), (1232, 1326, 2, 1), (1329, 1366, 1, 48),
  (4256, 4293, 1, 7264), (4295, 4295, 1, 7264), (4301, 4301, 1, 7264), (5024, 5103, 1, 38864),
  (5104, 5109, 1, 8), (7312, 7354, 1, -3008), (7357, 7359, 1, -3008), (7680, 7828, 2, 1),
  (7838, 7838, 1, -7615), (7840, 7934, 2, 1), (7944, 7951, 1, -8), (7960, 7965, 1, -8),
  (7976, 7983, 1, -8), (7992, 7999, 1, -8), (8008, 8013, 1, -8), (8025, 8031, 2, -8),
  (8040, 8047, 1, -8), (8072, 8079, 1, -8), (8088, 8095, 1, -8), (8104, 8111, 1, -8),
  (8120, 8121, 1, -8), (8122, 8123, 1, -74), (8124, 8124, 1, -9), (8136, 8139, 1, -86),
  (8140, 8140, 1, -9), (8152, 8153, 1, -8), (8154, 8155, 1, -100), (8168, 8169, 1, -8),
  (8170, 8171, 1, -112), (8172, 8172, 1, -7), (8184, 8185, 1, -128), (8186, 8187, 1, -126),
  (8188, 8188, 1, -9), (8486, 8486, 1, -7517), (8490, 8490, 1, -8383), (8491, 8491, 1, -8262),
  (8498, 8498, 1, 28), (8544, 8559, 1, 16), (8579, 8579, 1, 1), (9398, 9423, 1, 26),
  (11264, 11311, 1, 48), (11360, 11360, 1, 1), (11362, 11362, 1, -10743), (11363, 11363, 1, -3814),
  (11364, 11364, 1, -10727), (11367, 11371, 2, 1), (11373, 11373, 1, -10780),
  (11374, 11374, 1, -10749), (11375, 11375, 1, -10783), (11376, 11376, 1, -10782),
  (11378, 11378, 1, 1), (11381, 11381, 1, 1), (11390, 11391, 1, -10815), (11392, 11490, 2, 1),
  (11499, 11501, 2, 1), (11506, 11506, 1, 1), (42560, 42604, 2, 1), (42624, 42650, 2, 1),
  (42786, 42798, 2, 1), (42802, 42862, 2, 1), (42873, 42875, 2, 1), (42877, 42877, 1, -35332),
  (42878, 42886, 2, 1), (42891, 42891, 1, 1), (42893, 42893, 1, -42280), (42896, 42898, 2, 1),
  (42902, 42920, 2, 1), (42922, 42922, 1, -42308), (42923, 42923, 1, -42319),
  (42924, 42924, 1, -42315), (42925, 42925, 1, -42305), (42926, 42926, 1, -42308),
  (42928, 42928, 1, -42258), (42929, 42929, 1, -42282), (42930, 42930, 1, -42261),
  (42931, 42931, 1, 928), (42932, 42946, 2, 1), (42948, 42948, 1, -48), (42949, 42949, 1, -42307),
  (42950, 42950, 1, -35384), (42951, 42953, 2, 1), (42960, 42960, 1, 1), (42966, 42968, 2, 1),
  (42997, 42997, 1, 1), (65313, 65338, 1, 32), (66560, 66599, 1, 40), (66736, 66771, 1, 40),
  (66928, 66938, 1, 39), (66940, 66954, 1, 39), (66956, 66962, 1, 39), (66964, 66965, 1, 39),
  (68736, 68786, 1, 64), (71840, 71871, 1, 32), (93760, 93791, 1, 32), (125184, 125217, 1, 34)]

/-- The lower-case form of one character: ASCII by offset, the rest by the table, and the capital
I with a dot above as an `i` followed by the combining dot. -/
def lowerChar (c : Char) : List Char :=
  let n := c.toNat
  if n < 128 then
    if 65 ≤ n ∧ n ≤ 90 then [Char.ofNat (n + 32)] else [c]
  else if n = 0x130 then ['i', Char.ofNat 0x307]
  else
    match lowerRanges.find? fun r => r.1 ≤ n && n ≤ r.2.1 && (n - r.1) % r.2.2.1 == 0 with
    | some r => [Char.ofNat ((n : Int) + r.2.2.2).toNat]
    | none => [c]

/-- `str.lower`. -/
def lower (s : String) : String := String.ofList (s.toList.flatMap lowerChar)

/-- A code point survives the passage through `Char`, or is not one. -/
theorem toNat_ofNat_cases (n : Nat) : (Char.ofNat n).toNat = n ∨ (Char.ofNat n).toNat = 0 := by
  unfold Char.ofNat
  split
  · exact Or.inl rfl
  · exact Or.inr rfl

/-- No white space between two code points. -/
def noSpaceBetween (a b : Int) : Bool :=
  decide (32 < a ∧ (b < 0x85 ∨ 0xA0 < a) ∧ (b < 0x1680 ∨ 0x1680 < a) ∧ (b < 0x2000 ∨ 0x200A < a) ∧
    (b < 0x2028 ∨ 0x2029 < a) ∧ (b < 0x202F ∨ 0x202F < a) ∧ (b < 0x205F ∨ 0x205F < a) ∧
    (b < 0x3000 ∨ 0x3000 < a))

/-- No range of the table ends in white space. -/
theorem lowerRanges_noSpace :
    ∀ r ∈ lowerRanges, noSpaceBetween (r.1 + r.2.2.2) (r.2.1 + r.2.2.2) = true := by
  decide +kernel

theorem isSpace_ofNat_of_noSpaceBetween {a b : Int} (h : noSpaceBetween a b = true) {n : Nat}
    (ha : a ≤ n) (hb : n ≤ b) : isSpace (Char.ofNat n) = false := by
  have h := of_decide_eq_true h
  rcases toNat_ofNat_cases n with hn | hn
  · simp only [isSpace, hn]
    simp
    omega
  · simp [isSpace, hn]

/-- Lower-casing a character leaves some text. -/
theorem lowerChar_ne_nil (c : Char) : lowerChar c ≠ [] := by
  unfold lowerChar
  dsimp only
  split
  · split <;> simp
  · split
    · simp
    · split <;> simp

/-- White space stands in a lower-cased text only where it stood before. -/
theorem eq_of_mem_lowerChar_of_isSpace {c d : Char} (hd : d ∈ lowerChar c) (hspace : isSpace d = true) : d = c := by
  have hcontra : ∀ {e : Char}, isSpace e = false → d ≠ e := by
    rintro e he rfl
    rw [he] at hspace
    cases hspace
  unfold lowerChar at hd
  dsimp only at hd
  split at hd
  · split at hd
    · next hupper =>
      refine absurd (List.mem_singleton.mp hd) (hcontra ?_)
      refine isSpace_ofNat_of_noSpaceBetween (a := 97) (b := 122) (by decide) ?_ ?_ <;> omega
    · exact List.mem_singleton.mp hd
  · split at hd
    · rcases List.mem_pair.mp hd with hd | hd
      · exact absurd hd (hcontra (by decide))
      · exact absurd hd (hcontra (by decide))
    · split at hd
      · next r hr =>
        refine absurd (List.mem_singleton.mp hd) (hcontra ?_)
        have hmem := List.mem_of_find?_eq_some hr
        have hrange := List.find?_some hr
        simp only [Bool.and_eq_true, decide_eq_true_eq] at hrange
        have hno := lowerRanges_noSpace r hmem
        have hpos := (of_decide_eq_true hno).1
        refine isSpace_ofNat_of_noSpaceBetween hno ?_ ?_ <;> omega
      · exact List.mem_singleton.mp hd

/-- Lower-casing does not produce white space. -/
theorem isSpace_of_mem_lowerChar {c d : Char} (hc : isSpace c = false) (hd : d ∈ lowerChar c) :
    isSpace d = false := by
  by_contra hspace
  rw [Bool.not_eq_false] at hspace
  rw [eq_of_mem_lowerChar_of_isSpace hd hspace, hc] at hspace
  cases hspace

/-- A list of characters with no white space at either end. -/
def Trimmed (cs : List Char) : Prop :=
  (∀ c ∈ cs.head?, isSpace c = false) ∧ ∀ c ∈ cs.getLast?, isSpace c = false

theorem strip_eq_self {s : String} (h : Trimmed s.toList) : strip s = s := by
  have hl : s.toList.dropWhile isSpace = s.toList := by
    rcases hs : s.toList with _ | ⟨a, t⟩
    · rfl
    · have ha := h.1 a (by simp [hs])
      simp [ha]
  have hr : s.toList.rdropWhile isSpace = s.toList := by
    rw [List.rdropWhile_eq_self_iff]
    intro hne
    have := h.2 _ (List.getLast?_eq_some_getLast hne)
    simp [this]
  rw [strip, hl, hr, String.ofList_toList]

theorem trimmed_strip (s : String) : Trimmed (strip s).toList := by
  have h := dropWhile_rdropWhile_dropWhile isSpace s.toList
  refine ⟨?_, ?_⟩
  · intro c hc
    rw [toList_strip, ← h, Option.mem_def] at hc
    have := List.head?_dropWhile_not isSpace ((s.toList.dropWhile isSpace).rdropWhile isSpace)
    rw [hc] at this
    simpa using this
  · intro c hc
    rw [toList_strip] at hc
    obtain ⟨hne, rfl⟩ := List.mem_getLast?_eq_getLast hc
    simpa using List.rdropWhile_last_not isSpace (s.toList.dropWhile isSpace) hne

theorem trimmed_flatMap_lowerChar {cs : List Char} (h : Trimmed cs) :
    Trimmed (cs.flatMap lowerChar) := by
  refine ⟨?_, ?_⟩
  · intro d hd
    rcases cs with _ | ⟨a, t⟩
    · simp at hd
    · rw [List.flatMap_cons, List.head?_append_of_ne_nil _ (lowerChar_ne_nil a)] at hd
      exact isSpace_of_mem_lowerChar (h.1 a rfl) (List.mem_of_mem_head? hd)
  · intro d hd
    rcases List.eq_nil_or_concat cs with rfl | ⟨t, a, rfl⟩
    · simp at hd
    · rw [List.concat_eq_append, List.flatMap_append, List.flatMap_singleton,
        List.getLast?_append_of_ne_nil _ (lowerChar_ne_nil a)] at hd
      exact isSpace_of_mem_lowerChar (h.2 a (by simp)) (List.mem_of_getLast? hd)

/-- **Lower-casing a stripped text leaves it stripped.** -/
@[simp] theorem strip_lower_strip (s : String) : strip (lower (strip s)) = lower (strip s) := by
  refine strip_eq_self ?_
  rw [lower, String.toList_ofList]
  exact trimmed_flatMap_lowerChar (trimmed_strip s)

/-- The upper-case form of an ASCII character; others are left alone. -/
def upperAsciiChar (c : Char) : Char :=
  if 97 ≤ c.toNat ∧ c.toNat ≤ 122 then Char.ofNat (c.toNat - 32) else c

/-- `str.upper` on ASCII text. -/
def upperAscii (s : String) : String := String.ofList (s.toList.map upperAsciiChar)

@[simp] theorem lower_empty : lower "" = "" := rfl

@[simp] theorem lower_eq_empty_iff {s : String} : lower s = "" ↔ s = "" := by
  rw [← String.toList_eq_nil_iff, ← String.toList_eq_nil_iff, lower, String.toList_ofList,
    List.flatMap_eq_nil_iff, List.eq_nil_iff_forall_not_mem]
  exact forall_congr' fun c => imp_congr_right fun _ => iff_of_false (lowerChar_ne_nil c) id

/-- `str(value).strip().lower()` on a text. -/
def stripLower (s : String) : String := lower (strip s)

@[simp] theorem stripLower_empty : stripLower "" = "" := rfl

/-! ## Lower-casing twice -/

/-- A code point that is a character keeps its number. -/
theorem toNat_ofNat_of_valid {n : Nat} (h : n < 0xD800 ∨ (0xDFFF < n ∧ n < 0x110000)) :
    (Char.ofNat n).toNat = n := by
  have hvalid : n.isValidChar := h
  unfold Char.ofNat
  rw [dif_pos hvalid]
  rfl

/-- An upper-case letter of ASCII. -/
def isUpperAscii (c : Char) : Prop := 65 ≤ c.toNat ∧ c.toNat ≤ 90

instance (c : Char) : Decidable (isUpperAscii c) := inferInstanceAs (Decidable (_ ∧ _))

/-- The ranges of the table end among the characters beyond ASCII, except for the Kelvin sign, which
becomes a `k`. -/
theorem lowerRanges_beyond_ascii : ∀ r ∈ lowerRanges,
    (128 ≤ (r.1 : Int) + r.2.2.2 ∧ ((r.2.1 : Int) + r.2.2.2 < 0xD800 ∨
      (0xDFFF < (r.1 : Int) + r.2.2.2 ∧ (r.2.1 : Int) + r.2.2.2 < 0x110000))) ∨
    (r.1 = 8490 ∧ r.2.1 = 8490 ∧ r.2.2.2 = -8383) := by
  decide +kernel

/-- What the table makes of a character. -/
theorem lowerRanges_image {n : Nat} {r : Nat × Nat × Nat × Int}
    (hr : (lowerRanges.find? fun r => r.1 ≤ n && n ≤ r.2.1 && (n - r.1) % r.2.2.1 == 0) = some r) :
    128 ≤ (Char.ofNat ((n : Int) + r.2.2.2).toNat).toNat ∨
      Char.ofNat ((n : Int) + r.2.2.2).toNat = 'k' := by
  have hrange := List.find?_some hr
  simp only [Bool.and_eq_true, decide_eq_true_eq] at hrange
  rcases lowerRanges_beyond_ascii r (List.mem_of_find?_eq_some hr) with ⟨hlow, hvalid⟩ | ⟨h₁, h₂, h₃⟩
  · left
    rw [toNat_ofNat_of_valid (by omega)]
    omega
  · right
    have hn : n = 8490 := by omega
    rw [hn, h₃]
    rfl

/-- Lower-casing leaves no upper-case letter of ASCII. -/
theorem not_isUpperAscii_of_mem_lowerChar {c d : Char} (h : d ∈ lowerChar c) :
    ¬isUpperAscii d := by
  unfold lowerChar at h
  dsimp only at h
  split at h
  · split at h
    · obtain rfl := List.mem_singleton.mp h
      unfold isUpperAscii
      rw [toNat_ofNat_of_valid (by omega)]
      omega
    · next hupper =>
      obtain rfl := List.mem_singleton.mp h
      exact hupper
  · split at h
    · rcases List.mem_pair.mp h with rfl | rfl <;> decide
    · split at h
      · next r hr =>
        obtain rfl := List.mem_singleton.mp h
        rcases lowerRanges_image hr with himage | himage
        · unfold isUpperAscii
          omega
        · rw [himage]
          decide
      · obtain rfl := List.mem_singleton.mp h
        unfold isUpperAscii
        omega

/-- The runs of the table with the one expanding mapping. -/
def upperRanges : List (Nat × Nat × Nat × Int) := (0x130, 0x130, 1, 0) :: lowerRanges

/-- A run holds a code point. -/
def inRange (n : Nat) (r : Nat × Nat × Nat × Int) : Bool :=
  r.1 ≤ n && n ≤ r.2.1 && (n - r.1) % r.2.2.1 == 0

/-- The images of a run have no code point of another run. -/
def imageApart (r q : Nat × Nat × Nat × Int) : Bool :=
  let first : Int := r.1 + r.2.2.2
  let last : Int := r.2.1 + r.2.2.2
  decide (last < q.1 ∨ (q.2.1 : Int) < first ∨
    (q.2.2.1 = 2 ∧ (r.2.2.1 = 2 ∨ r.1 = r.2.1) ∧ (first - q.1) % 2 = 1))

theorem lowerRanges_imageApart :
    (lowerRanges.all fun r => upperRanges.all fun q => imageApart r q) = true := by
  decide +kernel

theorem not_inRange_of_imageApart {r q : Nat × Nat × Nat × Int} {n m : Nat} (h : imageApart r q = true)
    (hn : inRange n r = true) (hm : (m : Int) = n + r.2.2.2) : inRange m q = false := by
  obtain ⟨a, b, s, d⟩ := r
  obtain ⟨a', b', s', d'⟩ := q
  simp only [inRange, imageApart, Bool.and_eq_true, decide_eq_true_eq, beq_iff_eq] at h hn hm
  rw [inRange, ← Bool.not_eq_true]
  simp only [Bool.and_eq_true, decide_eq_true_eq, beq_iff_eq]
  rintro ⟨⟨h₁, h₂⟩, h₃⟩
  rcases h with h | h | ⟨rfl, rfl | rfl, hodd⟩ <;> omega

/-- A character that no run holds stays. -/
theorem lowerChar_of_not_inRange {c : Char} (hc : ¬isUpperAscii c)
    (h : ∀ q ∈ upperRanges, inRange c.toNat q = false) : lowerChar c = [c] := by
  have hdot : c.toNat ≠ 0x130 := by
    intro hc
    have := h _ List.mem_cons_self
    rw [hc] at this
    revert this
    decide
  have hnone : (lowerRanges.find? fun r => inRange c.toNat r) = none := by
    rw [List.find?_eq_none]
    intro r hr
    rw [Bool.not_eq_true]
    exact h r (List.mem_cons_of_mem _ hr)
  unfold inRange at hnone
  unfold isUpperAscii at hc
  unfold lowerChar
  dsimp only
  rw [hnone, if_neg hdot, if_neg hc, ite_self]

/-- An ASCII character that is no upper-case letter stays. -/
theorem lowerChar_of_ascii {c : Char} (hc : ¬isUpperAscii c) (h : c.toNat < 128) : lowerChar c = [c] := by
  unfold isUpperAscii at hc
  rw [lowerChar]
  simp [h, hc]

/-- The image of a code point is not mapped any further. -/
theorem lowerChar_image {n : Nat} {r : Nat × Nat × Nat × Int} (hr : r ∈ lowerRanges)
    (hn : inRange n r = true) (hupper : ¬isUpperAscii (Char.ofNat ((n : Int) + r.2.2.2).toNat)) :
    lowerChar (Char.ofNat ((n : Int) + r.2.2.2).toNat) = [Char.ofNat ((n : Int) + r.2.2.2).toNat] := by
  have hin := hn
  simp only [inRange, Bool.and_eq_true, decide_eq_true_eq] at hin
  rcases lowerRanges_beyond_ascii r hr with ⟨hlow, hvalid⟩ | ⟨h₁, h₂, h₃⟩
  · refine lowerChar_of_not_inRange hupper fun q hq => ?_
    have hapart := List.all_eq_true.mp (List.all_eq_true.mp lowerRanges_imageApart r hr) q hq
    refine not_inRange_of_imageApart hapart hn ?_
    rw [toNat_ofNat_of_valid (by omega)]
    omega
  · have hk : n = 8490 := by omega
    rw [hk, h₃]
    rfl

theorem lowerChar_of_mem_lowerChar {c d : Char} (h : d ∈ lowerChar c) : lowerChar d = [d] := by
  have hupper := not_isUpperAscii_of_mem_lowerChar h
  unfold lowerChar at h
  dsimp only at h
  split at h
  · refine lowerChar_of_ascii hupper ?_
    split at h
    · obtain rfl := List.mem_singleton.mp h
      rw [toNat_ofNat_of_valid (by omega)]
      omega
    · obtain rfl := List.mem_singleton.mp h
      assumption
  · next hascii =>
    split at h
    · rcases List.mem_pair.mp h with rfl | rfl <;> decide +kernel
    · next hdot =>
      split at h
      · next r hr =>
        obtain rfl := List.mem_singleton.mp h
        exact lowerChar_image (List.mem_of_find?_eq_some hr) (List.find?_some hr) hupper
      · next hnone =>
        obtain rfl := List.mem_singleton.mp h
        unfold lowerChar
        dsimp only
        rw [hnone, if_neg hascii, if_neg hdot]

/-- **Lower-casing twice** is lower-casing once. -/
@[simp] theorem lower_lower (s : String) : lower (lower s) = lower s := by
  have key : ∀ cs : List Char, (∀ c ∈ cs, lowerChar c = [c]) → cs.flatMap lowerChar = cs := by
    intro cs h
    induction cs with
    | nil => rfl
    | cons c cs ih =>
      rw [List.flatMap_cons, h c List.mem_cons_self, ih fun d hd => h d (List.mem_cons_of_mem _ hd)]
      rfl
  show String.ofList ((lower s).toList.flatMap lowerChar) = lower s
  rw [key (lower s).toList fun c hc => ?_, String.ofList_toList]
  rw [lower, String.toList_ofList] at hc
  obtain ⟨d, -, hd⟩ := List.mem_flatMap.mp hc
  exact lowerChar_of_mem_lowerChar hd

example : stripLower "  OpenAI\n" = "openai" := by decide
example : lower "ÀΩ" = "àω" := by decide

end Py
