import Mathlib.Data.Int.Log
import Mathlib.Tactic.FieldSimp
import Mathlib.Tactic.Linarith
import Mathlib.Tactic.Ring
import HexeAiNode.Python.Coercion

/-!
# Six significant digits

`format(x, "g")` writes a number with at most six significant digits, in fixed notation from `1e-4` up to six digits
before the point and with an exponent otherwise, and leaves out zeros at the end of the fraction.

`roundSix q` is the number that is written.  It is `q` itself exactly when `q` has six digits (`roundSix_eq_iff`), and
`parseFloat` reads it back (`parseFloat_formatG`), so writing a second time changes nothing.
-/

namespace Py

/-! ## Rounding to six digits -/

/-- The nearest integer, ties to even. -/
def roundHalfEven (q : ℚ) : ℤ :=
  let below : ℤ := ⌊q⌋
  let rest : ℚ := q - below
  if rest < 1 / 2 ∨ (rest = 1 / 2 ∧ below % 2 = 0) then below else below + 1

@[simp] theorem roundHalfEven_intCast (n : ℤ) : roundHalfEven n = n := by
  simp [roundHalfEven]

theorem le_roundHalfEven {q : ℚ} {n : ℤ} (h : (n : ℚ) ≤ q) : n ≤ roundHalfEven q := by
  have hfloor : n ≤ ⌊q⌋ := Int.le_floor.mpr h
  unfold roundHalfEven
  dsimp only
  split <;> omega

theorem roundHalfEven_le {q : ℚ} {n : ℤ} (h : q ≤ (n : ℚ)) : roundHalfEven q ≤ n := by
  rcases h.lt_or_eq with hlt | rfl
  · have hfloor : ⌊q⌋ < n := Int.floor_lt.mpr hlt
    unfold roundHalfEven
    dsimp only
    split <;> omega
  · rw [roundHalfEven_intCast]

/-- The six digits of a positive number as an integer, and the power of ten of the first one. -/
def sixDigits (q : ℚ) : ℕ × ℤ :=
  let e := Int.log 10 q
  let m := (roundHalfEven (q / 10 ^ (e - 5))).toNat
  if m = 10 ^ 6 then (10 ^ 5, e + 1) else (m, e)

/-- The number with six significant digits nearest to `q`. -/
def roundSix (q : ℚ) : ℚ := if q = 0 then 0 else (sixDigits q).1 * (10 : ℚ) ^ ((sixDigits q).2 - 5)

/-- A number with at most six significant digits. -/
def HasSixDigits (q : ℚ) : Prop :=
  q = 0 ∨ ∃ (m : ℕ) (e : ℤ), 10 ^ 5 ≤ m ∧ m < 10 ^ 6 ∧ q = m * (10 : ℚ) ^ (e - 5)

variable {q : ℚ}

theorem ten_zpow_pos (e : ℤ) : (0 : ℚ) < 10 ^ e := zpow_pos (by norm_num) e

theorem ten_zpow_eq (e : ℤ) : (10 : ℚ) ^ e = 10 ^ 5 * 10 ^ (e - 5) := by
  have h := zpow_add₀ (by norm_num : (10 : ℚ) ≠ 0) 5 (e - 5)
  rw [add_sub_cancel] at h
  exact_mod_cast h

theorem ten_zpow_succ_eq (e : ℤ) : (10 : ℚ) ^ (e + 1) = 10 ^ 6 * 10 ^ (e - 5) := by
  rw [zpow_add_one₀ (by norm_num), ten_zpow_eq]
  ring

/-- The decimal exponent of a number. -/
theorem log_eq_iff (hq : 0 < q) {e : ℤ} : Int.log 10 q = e ↔ (10 : ℚ) ^ e ≤ q ∧ q < (10 : ℚ) ^ (e + 1) := by
  have hlow := @Int.zpow_le_iff_le_log ℚ _ _ _ _ 10 (by norm_num) e q hq
  have hhigh := @Int.lt_zpow_iff_log_lt ℚ _ _ _ _ 10 (by norm_num) (e + 1) q hq
  push_cast at hlow hhigh
  rw [hlow, hhigh]
  omega

theorem sixDigits_bounds (hq : 0 < q) : 10 ^ 5 ≤ (sixDigits q).1 ∧ (sixDigits q).1 < 10 ^ 6 := by
  obtain ⟨hlow, hhigh⟩ := (log_eq_iff hq).mp rfl
  have hpos := ten_zpow_pos (Int.log 10 q - 5)
  have hscaledLow : ((10 ^ 5 : ℤ) : ℚ) ≤ q / 10 ^ (Int.log 10 q - 5) := by
    rw [le_div_iff₀ hpos]
    rw [ten_zpow_eq] at hlow
    exact_mod_cast hlow
  have hscaledHigh : q / 10 ^ (Int.log 10 q - 5) ≤ ((10 ^ 6 : ℤ) : ℚ) := by
    rw [div_le_iff₀ hpos]
    rw [ten_zpow_succ_eq] at hhigh
    exact_mod_cast hhigh.le
  have hm := le_roundHalfEven hscaledLow
  have hm' := roundHalfEven_le hscaledHigh
  unfold sixDigits
  dsimp only
  split
  · norm_num
  · dsimp only
    omega

/-- A number that has six digits is written with these. -/
theorem sixDigits_of_digits {m : ℕ} {e : ℤ} (hm : 10 ^ 5 ≤ m) (hm' : m < 10 ^ 6) :
    sixDigits (m * (10 : ℚ) ^ (e - 5)) = (m, e) := by
  have hpos := ten_zpow_pos (e - 5)
  have hmpos : (0 : ℚ) < m := by exact_mod_cast (by omega : 0 < m)
  have hlog : Int.log 10 ((m : ℚ) * 10 ^ (e - 5)) = e := by
    rw [log_eq_iff (mul_pos hmpos hpos), ten_zpow_eq e, ten_zpow_succ_eq]
    exact ⟨mul_le_mul_of_nonneg_right (by exact_mod_cast hm) hpos.le,
      mul_lt_mul_of_pos_right (by exact_mod_cast hm') hpos⟩
  have hround : roundHalfEven (m : ℚ) = m := by exact_mod_cast roundHalfEven_intCast (m : ℤ)
  unfold sixDigits
  dsimp only
  rw [hlog, mul_div_assoc, div_self hpos.ne', mul_one, hround, Int.toNat_natCast, if_neg (by omega)]

theorem hasSixDigits_roundSix (hq : 0 ≤ q) : HasSixDigits (roundSix q) := by
  unfold roundSix
  split
  · exact .inl rfl
  · next hne =>
    have hbounds := sixDigits_bounds (lt_of_le_of_ne hq (Ne.symm hne))
    exact .inr ⟨_, _, hbounds.1, hbounds.2, rfl⟩

theorem HasSixDigits.roundSix_eq (h : HasSixDigits q) : roundSix q = q := by
  rcases h with rfl | ⟨m, e, hm, hm', rfl⟩
  · rfl
  · have hmpos : (0 : ℚ) < m := by exact_mod_cast (by omega : 0 < m)
    have hne : (m : ℚ) * 10 ^ (e - 5) ≠ 0 := (mul_pos hmpos (ten_zpow_pos _)).ne'
    rw [roundSix, if_neg hne, sixDigits_of_digits hm hm']

/-- **A number is written exactly when it has six significant digits.** -/
theorem roundSix_eq_iff (hq : 0 ≤ q) : roundSix q = q ↔ HasSixDigits q := by
  constructor
  · intro h
    rw [← h]
    exact hasSixDigits_roundSix hq
  · exact HasSixDigits.roundSix_eq

theorem roundSix_roundSix (hq : 0 ≤ q) : roundSix (roundSix q) = roundSix q :=
  (hasSixDigits_roundSix hq).roundSix_eq

theorem roundSix_nonneg (q : ℚ) : 0 ≤ roundSix q := by
  unfold roundSix
  split
  · exact le_rfl
  · exact mul_nonneg (Nat.cast_nonneg _) (ten_zpow_pos _).le

/-! ## The text -/

/-- The character of a digit. -/
def decimalDigit (d : ℕ) : Char := Char.ofNat (48 + d)

/-- The last `width` digits of a number, the first one in front. -/
def widthDigits : ℕ → ℕ → List ℕ
  | 0, _ => []
  | width + 1, n => widthDigits width (n / 10) ++ [n % 10]

/-- Digits without the zeros at the end. -/
def trimZeros (ds : List ℕ) : List ℕ := ds.rdropWhile (· == 0)

/-- A fraction with its point, unless it is empty. -/
def fractionText (fraction : List ℕ) : List Char :=
  if fraction = [] then [] else '.' :: fraction.map decimalDigit

/-- An exponent with its sign and at least two digits. -/
def exponentText (e : ℤ) : List Char :=
  'e' :: (if e < 0 then '-' else '+') :: (widthDigits (max 2 (Nat.log 10 e.natAbs + 1)) e.natAbs).map decimalDigit

/-- The text of a positive number. -/
def formatPositive (q : ℚ) : List Char :=
  let (m, e) := sixDigits q
  let ds := widthDigits 6 m
  if e < -4 ∨ 6 ≤ e then
    (ds.take 1).map decimalDigit ++ fractionText (trimZeros (ds.drop 1)) ++ exponentText e
  else if e < 0 then
    [decimalDigit 0] ++ fractionText (trimZeros (List.replicate (-e - 1).toNat 0 ++ ds))
  else
    (ds.take (e + 1).toNat).map decimalDigit ++ fractionText (trimZeros (ds.drop (e + 1).toNat))

/-- `format(x, "g")`. -/
def formatG : FloatVal → String
  | .posInf => "inf"
  | .negInf => "-inf"
  | .nan => "nan"
  | .finite q =>
    if q = 0 then "0"
    else if q < 0 then "-" ++ String.ofList (formatPositive (-q))
    else String.ofList (formatPositive q)

example : formatG (.finite (1234567 / 1000000)) = "1.23457" := by decide +kernel
example : formatG (.finite (3 / 40000)) = "7.5e-05" := by decide +kernel
example : formatG (.finite 1250000) = "1.25e+06" := by decide +kernel

/-! ## Reading the text back -/

section Digits

open Value (optDigits parseExponent parseDecimal parseFloat floatOfRat)

variable {ds es : List ℕ}

theorem digitsValue_append (ds es : List ℕ) :
    digitsValue (ds ++ es) = digitsValue ds * 10 ^ es.length + digitsValue es := by
  induction es using List.reverseRecOn with
  | nil => simp [digitsValue]
  | append_singleton es d ih =>
      have hstep : ∀ l : List ℕ, digitsValue (l ++ [d]) = 10 * digitsValue l + d := by
        intro l
        simp [digitsValue, List.foldl_append]
      rw [← List.append_assoc, hstep, hstep, ih, List.length_append, List.length_singleton, pow_succ]
      ring

@[simp] theorem digitsValue_replicate_zero (k : ℕ) : digitsValue (List.replicate k 0) = 0 := by
  induction k with
  | zero => rfl
  | succ k ih =>
      rw [List.replicate_succ', digitsValue_append, ih]
      rfl

@[simp] theorem length_widthDigits (width n : ℕ) : (widthDigits width n).length = width := by
  induction width generalizing n with
  | zero => rfl
  | succ width ih => simp [widthDigits, ih]

theorem lt_ten_of_mem_widthDigits {width n d : ℕ} (h : d ∈ widthDigits width n) : d < 10 := by
  induction width generalizing n with
  | zero => cases h
  | succ width ih =>
      rcases List.mem_append.mp h with h | h
      · exact ih h
      · rw [List.mem_singleton.mp h]
        exact Nat.mod_lt _ (by norm_num)

theorem digitsValue_widthDigits {width n : ℕ} (h : n < 10 ^ width) : digitsValue (widthDigits width n) = n := by
  induction width generalizing n with
  | zero =>
      rw [pow_zero] at h
      simp [widthDigits, digitsValue, Nat.lt_one_iff.mp h]
  | succ width ih =>
      have hdiv : n / 10 < 10 ^ width := by
        rw [pow_succ] at h
        omega
      rw [widthDigits, digitsValue_append, ih hdiv]
      simp [digitsValue]
      omega

/-- The zeros at the end of a fraction do not change its value. -/
theorem digitsValue_trimZeros (ds es : List ℕ) :
    (digitsValue (ds ++ trimZeros es) : ℚ) / 10 ^ (trimZeros es).length =
      (digitsValue (ds ++ es) : ℚ) / 10 ^ es.length := by
  induction es using List.reverseRecOn with
  | nil => rfl
  | append_singleton es d ih =>
      rw [trimZeros, List.rdropWhile_concat]
      split
      · rename_i hd
        have hzero : d = 0 := by simpa using hd
        have happend : digitsValue (ds ++ (es ++ [d])) = digitsValue (ds ++ es) * 10 := by
          rw [← List.append_assoc, digitsValue_append, hzero]
          simp [digitsValue]
        rw [← trimZeros, ih, happend, List.length_append, List.length_singleton, pow_succ]
        push_cast
        rw [mul_div_mul_right _ _ (by norm_num)]
      · rfl

theorem decimalDigit_spec : ∀ d < 10, digitVal (decimalDigit d) = some d ∧ decimalDigit d ≠ '_' ∧
    decimalDigit d ≠ '.' ∧ decimalDigit d ≠ 'e' ∧ decimalDigit d ≠ 'E' ∧ decimalDigit d ≠ '-' ∧
    decimalDigit d ≠ '+' ∧ isSpace (decimalDigit d) = false := by
  decide +kernel

/-- The digits of a text of digits. -/
theorem digitsOf_map_decimalDigit (hds : ∀ d ∈ ds, d < 10) (afterDigit : Bool) (h : ds ≠ [] ∨ afterDigit = true) :
    digitsOf afterDigit (ds.map decimalDigit) = some ds := by
  induction ds generalizing afterDigit with
  | nil =>
      obtain rfl := h.resolve_left (fun h => h rfl)
      rfl
  | cons d ds ih =>
      obtain ⟨hval, hunderscore, -⟩ := decimalDigit_spec d (hds d List.mem_cons_self)
      rw [List.map_cons, digitsOf, if_neg hunderscore, hval]
      simp only [ih (fun d hd => hds d (List.mem_cons_of_mem _ hd)) true (.inr rfl), Option.map_some]

/-- The characters of digits and fractions are neither exponent letters nor white space. -/
def IsPlain (c : Char) : Prop := c ≠ 'e' ∧ c ≠ 'E' ∧ isSpace c = false

theorem isPlain_of_mem_map {c : Char} (hds : ∀ d ∈ ds, d < 10) (h : c ∈ ds.map decimalDigit) : IsPlain c := by
  obtain ⟨d, hd, rfl⟩ := List.mem_map.mp h
  obtain ⟨-, -, -, he, hE, -, -, hspace⟩ := decimalDigit_spec d (hds d hd)
  exact ⟨he, hE, hspace⟩

theorem isPlain_of_mem_fractionText {c : Char} (hds : ∀ d ∈ ds, d < 10) (h : c ∈ fractionText ds) : IsPlain c := by
  unfold fractionText at h
  split at h
  · cases h
  · rcases List.mem_cons.mp h with rfl | h
    · exact ⟨by decide, by decide, by decide⟩
    · exact isPlain_of_mem_map hds h

/-- **A text of digits with a fraction and an exponent is read as the number it writes.** -/
theorem parseDecimal_text {exponent : List Char} {e : ℤ} (hne : ds ≠ []) (hds : ∀ d ∈ ds, d < 10)
    (hes : ∀ d ∈ es, d < 10)
    (hexponent : exponent = [] ∧ e = 0 ∨ ∃ cs, cs ≠ [] ∧ exponent = 'e' :: cs ∧ parseExponent cs = some e) :
    parseDecimal (ds.map decimalDigit ++ fractionText es ++ exponent) =
      some ((digitsValue (ds ++ es) : ℚ) / 10 ^ es.length * (10 : ℚ) ^ e) := by
  have hplain : ∀ c ∈ ds.map decimalDigit ++ fractionText es, (!(c == 'e' || c == 'E')) = true := by
    intro c hc
    have hc : IsPlain c := by
      rcases List.mem_append.mp hc with hc | hc
      · exact isPlain_of_mem_map hds hc
      · exact isPlain_of_mem_fractionText hes hc
    simp [hc.1, hc.2.1]
  have hwhole : ∀ c ∈ ds.map decimalDigit, (c != '.') = true := by
    intro c hc
    obtain ⟨d, hd, rfl⟩ := List.mem_map.mp hc
    simpa using (decimalDigit_spec d (hds d hd)).2.2.1
  have htake : exponent.takeWhile (fun c => !(c == 'e' || c == 'E')) = [] ∧
      exponent.dropWhile (fun c => !(c == 'e' || c == 'E')) = exponent := by
    rcases hexponent with ⟨rfl, -⟩ | ⟨cs, -, rfl, -⟩ <;> simp
  have hfraction : (fractionText es).takeWhile (· != '.') = [] ∧
      ((fractionText es).dropWhile (· != '.')).drop 1 = es.map decimalDigit := by
    unfold fractionText
    split
    · rename_i hempty
      simp [hempty]
    · simp
  have hdigits : optDigits (ds.map decimalDigit) = some ds := by
    rw [optDigits, if_neg (by simpa using hne), digitsOf_map_decimalDigit hds false (.inl hne)]
  have hfractionDigits : optDigits (es.map decimalDigit) = some es := by
    by_cases hempty : es = []
    · simp [hempty, optDigits]
    · rw [optDigits, if_neg (by simpa using hempty), digitsOf_map_decimalDigit hes false (.inl hempty)]
  have hparsed : parseExponent (exponent.drop 1) = some e ∧ exponent.length ≠ 1 := by
    rcases hexponent with ⟨rfl, rfl⟩ | ⟨cs, hcs, rfl, hparse⟩
    · exact ⟨rfl, by simp⟩
    · exact ⟨hparse, by simpa using hcs⟩
  unfold parseDecimal
  dsimp only
  rw [List.takeWhile_append_of_pos hplain, List.dropWhile_append_of_pos hplain, htake.1, htake.2, List.append_nil,
    List.takeWhile_append_of_pos hwhole, List.dropWhile_append_of_pos hwhole, hfraction.1, hfraction.2,
    List.append_nil, hdigits, hfractionDigits, hparsed.1]
  dsimp only
  rw [if_neg]
  rintro (⟨h, -⟩ | h)
  · exact hne h
  · exact hparsed.2 h

/-- An exponent is read back. -/
theorem parseExponent_exponentText (e : ℤ) : ∃ cs, cs ≠ [] ∧ exponentText e = 'e' :: cs ∧ parseExponent cs = some e := by
  refine ⟨_, List.cons_ne_nil _ _, rfl, ?_⟩
  have hwidth : e.natAbs < 10 ^ max 2 (Nat.log 10 e.natAbs + 1) :=
    (Nat.lt_pow_succ_log_self (by norm_num) _).trans_le (Nat.pow_le_pow_right (by norm_num) (le_max_right _ _))
  have hdigits : digitsOf false ((widthDigits (max 2 (Nat.log 10 e.natAbs + 1)) e.natAbs).map decimalDigit) =
      some (widthDigits (max 2 (Nat.log 10 e.natAbs + 1)) e.natAbs) :=
    digitsOf_map_decimalDigit (fun d hd => lt_ten_of_mem_widthDigits hd) false
      (.inl (by rw [← List.length_pos_iff]; simp))
  split
  · rename_i hneg
    rw [parseExponent, hdigits, Option.map_some, digitsValue_widthDigits hwidth]
    congr 1
    omega
  · rename_i hnonneg
    rw [parseExponent, hdigits, Option.map_some, digitsValue_widthDigits hwidth]
    congr 1
    omega

theorem lt_ten_of_mem_trimZeros {d : ℕ} (hds : ∀ d ∈ ds, d < 10) (h : d ∈ trimZeros ds) : d < 10 :=
  hds d ((List.rdropWhile_prefix _ _).subset h)

/-- The value of a text whose digits are cut in front of a point. -/
theorem parseDecimal_trimmed (ds es : List ℕ) (exponent : List Char) (e : ℤ) (hne : ds ≠ []) (hds : ∀ d ∈ ds, d < 10)
    (hes : ∀ d ∈ es, d < 10)
    (hexponent : exponent = [] ∧ e = 0 ∨ ∃ cs, cs ≠ [] ∧ exponent = 'e' :: cs ∧ parseExponent cs = some e) :
    parseDecimal (ds.map decimalDigit ++ fractionText (trimZeros es) ++ exponent) =
      some ((digitsValue (ds ++ es) : ℚ) / 10 ^ es.length * (10 : ℚ) ^ e) := by
  rw [parseDecimal_text hne hds (fun d hd => lt_ten_of_mem_trimZeros hes hd) hexponent, digitsValue_trimZeros]

/-- **The text of a positive number is read as the number rounded to six digits.** -/
theorem parseDecimal_formatPositive {q : ℚ} (hq : 0 < q) : parseDecimal (formatPositive q) = some (roundSix q) := by
  obtain ⟨hlow, hhigh⟩ := sixDigits_bounds hq
  rw [roundSix, if_neg hq.ne']
  unfold formatPositive
  generalize sixDigits q = digits at *
  obtain ⟨m, e⟩ := digits
  dsimp only at *
  have hvalue : digitsValue (widthDigits 6 m) = m := digitsValue_widthDigits hhigh
  have hdigits : ∀ d ∈ widthDigits 6 m, d < 10 := fun d hd => lt_ten_of_mem_widthDigits hd
  have hlength : (widthDigits 6 m).length = 6 := length_widthDigits 6 m
  have htake : ∀ k : ℕ, ∀ d ∈ (widthDigits 6 m).take k, d < 10 := fun k d hd => hdigits d (List.mem_of_mem_take hd)
  have hdrop : ∀ k : ℕ, ∀ d ∈ (widthDigits 6 m).drop k, d < 10 := fun k d hd => hdigits d (List.mem_of_mem_drop hd)
  have htakeNe : ∀ k : ℕ, k ≠ 0 → (widthDigits 6 m).take k ≠ [] := by
    intro k hk h
    have hlen := congrArg List.length h
    rw [List.length_take, hlength] at hlen
    simp at hlen
    omega
  split
  · -- scientific notation
    rw [parseDecimal_trimmed _ _ _ e (htakeNe 1 one_ne_zero) (htake 1) (hdrop 1) (.inr (parseExponent_exponentText e)),
      List.take_append_drop, hvalue, List.length_drop, hlength]
    congr 1
    rw [ten_zpow_eq e]
    norm_num
    ring
  · rename_i hfixed
    rw [not_or, not_lt, not_le] at hfixed
    split
    · -- a number below 1
      rename_i hneg
      obtain ⟨k, hk⟩ : ∃ k : ℕ, -e - 1 = k := ⟨(-e - 1).toNat, by omega⟩
      have hzeros : ∀ d ∈ List.replicate k 0 ++ widthDigits 6 m, d < 10 := by
        intro d hd
        rcases List.mem_append.mp hd with hd | hd
        · rw [List.eq_of_mem_replicate hd]
          norm_num
        · exact hdigits d hd
      have hexponent : e - 5 = -((k + 6 : ℕ) : ℤ) := by
        push_cast
        omega
      have htext := parseDecimal_trimmed [0] (List.replicate k 0 ++ widthDigits 6 m) [] 0 (by simp) (by simp) hzeros
        (.inl ⟨rfl, rfl⟩)
      rw [List.append_nil] at htext
      rw [hk, Int.toNat_natCast]
      refine htext.trans ?_
      have hzero : digitsValue ([0] ++ (List.replicate k 0 ++ widthDigits 6 m)) = m := by
        rw [← List.append_assoc, digitsValue_append, hvalue]
        have h : digitsValue ([0] ++ List.replicate k 0) = 0 := digitsValue_replicate_zero (k + 1)
        rw [h]
        simp
      rw [hzero, hexponent, zpow_neg, zpow_natCast, List.length_append, List.length_replicate, hlength, zpow_zero,
        mul_one, div_eq_mul_inv]
    · -- a number from 1 on
      rename_i hnonneg
      obtain ⟨k, rfl⟩ : ∃ k : ℕ, e = k := ⟨e.toNat, by omega⟩
      have hk : (k + 1 : ℤ).toNat = k + 1 := by omega
      have htext := parseDecimal_trimmed ((widthDigits 6 m).take (k + 1)) ((widthDigits 6 m).drop (k + 1)) [] 0
        (htakeNe (k + 1) k.succ_ne_zero) (htake (k + 1)) (hdrop (k + 1)) (.inl ⟨rfl, rfl⟩)
      rw [List.append_nil] at htext
      rw [hk]
      refine htext.trans ?_
      have hexponent : (k : ℤ) - 5 = -((6 - (k + 1) : ℕ) : ℤ) := by omega
      rw [List.take_append_drop, hvalue, List.length_drop, hlength, hexponent, zpow_neg, zpow_natCast, zpow_zero,
        mul_one, div_eq_mul_inv]

/-- The characters of the text of a number. -/
def numeralChars : List Char := ['0', '1', '2', '3', '4', '5', '6', '7', '8', '9', '.', 'e', '-', '+']

/-- What holds of each character of a given text is decided along the text. -/
theorem forall_mem_of_all {p : Char → Prop} [DecidablePred p] {cs : List Char}
    (h : (cs.all fun c => decide (p c)) = true) : ∀ c ∈ cs, p c :=
  fun c hc => of_decide_eq_true (List.all_eq_true.mp h c hc)

theorem isSpace_of_mem_numeralChars : ∀ c ∈ numeralChars, isSpace c = false := forall_mem_of_all (by decide)

theorem mem_numeralChars_of_digit : ∀ d < 10, decimalDigit d ∈ numeralChars := by decide

theorem mem_numeralChars_of_mem_map {c : Char} (hds : ∀ d ∈ ds, d < 10) (h : c ∈ ds.map decimalDigit) :
    c ∈ numeralChars := by
  obtain ⟨d, hd, rfl⟩ := List.mem_map.mp h
  exact mem_numeralChars_of_digit d (hds d hd)

theorem mem_numeralChars_of_mem_fractionText {c : Char} (hds : ∀ d ∈ ds, d < 10) (h : c ∈ fractionText ds) :
    c ∈ numeralChars := by
  unfold fractionText at h
  split at h
  · cases h
  · rcases List.mem_cons.mp h with rfl | h
    · decide
    · exact mem_numeralChars_of_mem_map hds h

theorem mem_numeralChars_of_mem_exponentText {c : Char} {e : ℤ} (h : c ∈ exponentText e) : c ∈ numeralChars := by
  rcases List.mem_cons.mp h with rfl | h
  · decide
  rcases List.mem_cons.mp h with rfl | h
  · split <;> decide
  · exact mem_numeralChars_of_mem_map (fun d hd => lt_ten_of_mem_widthDigits hd) h

/-- The text of a positive number begins with a digit. -/
theorem formatPositive_shape (q : ℚ) : ∃ (d : ℕ) (cs : List Char), d < 10 ∧ formatPositive q = decimalDigit d :: cs ∧
    ∀ c ∈ cs, c ∈ numeralChars := by
  unfold formatPositive
  generalize sixDigits q = digits
  obtain ⟨m, e⟩ := digits
  dsimp only
  have hdigits : ∀ d ∈ widthDigits 6 m, d < 10 := fun d hd => lt_ten_of_mem_widthDigits hd
  obtain ⟨d, ds, hds⟩ : ∃ d ds, widthDigits 6 m = d :: ds :=
    List.exists_cons_of_ne_nil (by rw [← List.length_pos_iff]; simp)
  rw [hds] at hdigits ⊢
  have htail : ∀ d' ∈ ds, d' < 10 := fun d' hd' => hdigits d' (List.mem_cons_of_mem _ hd')
  have hfraction : ∀ es : List ℕ, (∀ d ∈ es, d < 10) → ∀ c ∈ fractionText (trimZeros es), c ∈ numeralChars :=
    fun es hes c hc => mem_numeralChars_of_mem_fractionText (fun d hd => lt_ten_of_mem_trimZeros hes hd) hc
  split
  · refine ⟨d, _, hdigits d List.mem_cons_self, rfl, fun c hc => ?_⟩
    rcases List.mem_append.mp hc with hc | hc
    · exact hfraction ds htail c hc
    · exact mem_numeralChars_of_mem_exponentText hc
  · split
    · refine ⟨0, _, by norm_num, rfl, fun c hc => ?_⟩
      refine hfraction _ (fun d' hd' => ?_) c hc
      rcases List.mem_append.mp hd' with hd' | hd'
      · rw [List.eq_of_mem_replicate hd']
        norm_num
      · exact hdigits d' hd'
    · obtain ⟨k, hk⟩ : ∃ k : ℕ, (e + 1).toNat = k + 1 := ⟨(e + 1).toNat - 1, by omega⟩
      rw [hk]
      refine ⟨d, _, hdigits d List.mem_cons_self, rfl, fun c hc => ?_⟩
      rcases List.mem_append.mp hc with hc | hc
      · exact mem_numeralChars_of_mem_map (fun d' hd' => htail d' (List.mem_of_mem_take hd')) hc
      · exact hfraction _ (fun d' hd' => htail d' (List.mem_of_mem_drop hd')) c hc

/-- The text of a number that is not negative has only characters of numbers. -/
theorem mem_numeralChars_of_mem_formatG {q : ℚ} (hq : 0 ≤ q) {c : Char} (h : c ∈ (formatG (.finite q)).toList) :
    c ∈ numeralChars := by
  rw [formatG] at h
  split at h
  · obtain rfl := List.mem_singleton.mp h
    decide
  · rw [if_neg (not_lt.mpr hq), String.toList_ofList] at h
    obtain ⟨d, cs, hd, hcs, hmem⟩ := formatPositive_shape q
    rw [hcs] at h
    rcases List.mem_cons.mp h with rfl | h
    · exact mem_numeralChars_of_digit d hd
    · exact hmem c h

theorem formatG_ne_empty {q : ℚ} (hq : 0 ≤ q) : formatG (.finite q) ≠ "" := by
  rw [formatG]
  split
  · decide
  · rw [if_neg (not_lt.mpr hq)]
    obtain ⟨d, cs, -, hcs, -⟩ := formatPositive_shape q
    rw [hcs]
    intro h
    have hlist := congrArg String.toList h
    rw [String.toList_ofList] at hlist
    cases hlist

/-- A digit is no letter. -/
theorem lowerChar_decimalDigit : ∀ d < 10, lowerChar (decimalDigit d) = [decimalDigit d] ∧
    decimalDigit d ≠ 'i' ∧ decimalDigit d ≠ 'n' := by
  decide +kernel

/-- **The text of a number that is not negative is read as the number rounded to six digits.** -/
theorem parseFloat_formatG {q : ℚ} (hq : 0 ≤ q) :
    parseFloat (formatG (.finite q)) = some (floatOfRat (roundSix q)) := by
  have htrimmed : strip (formatG (.finite q)) = formatG (.finite q) := by
    apply strip_eq_self
    refine ⟨fun c hc => ?_, fun c hc => ?_⟩
    · exact isSpace_of_mem_numeralChars c (mem_numeralChars_of_mem_formatG hq (List.mem_of_mem_head? hc))
    · exact isSpace_of_mem_numeralChars c (mem_numeralChars_of_mem_formatG hq (List.mem_of_mem_getLast? hc))
  rcases hq.eq_or_lt with rfl | hpos
  · decide +kernel
  · obtain ⟨d, cs, hd, hcs, -⟩ := formatPositive_shape q
    obtain ⟨-, -, -, -, -, hminus, hplus, -⟩ := decimalDigit_spec d hd
    obtain ⟨hlower, hi, hn⟩ := lowerChar_decimalDigit d hd
    have htext : formatG (.finite q) = String.ofList (decimalDigit d :: cs) := by
      rw [formatG, if_neg hpos.ne', if_neg (not_lt.mpr hq), hcs]
    have hparse := parseDecimal_formatPositive hpos
    rw [hcs] at hparse
    have hword : ∀ (c : Char) (w : List Char), decimalDigit d ≠ c →
        lower (String.ofList (decimalDigit d :: cs)) ≠ String.ofList (c :: w) := by
      intro c w hc h
      have hlist := congrArg String.toList h
      rw [lower, String.toList_ofList, String.toList_ofList, String.toList_ofList, List.flatMap_cons, hlower] at hlist
      exact hc (List.cons.inj hlist).1
    have hinf : lower (String.ofList (decimalDigit d :: cs)) ≠ "inf" := hword 'i' ['n', 'f'] hi
    have hinfinity : lower (String.ofList (decimalDigit d :: cs)) ≠ "infinity" :=
      hword 'i' ['n', 'f', 'i', 'n', 'i', 't', 'y'] hi
    have hnan : lower (String.ofList (decimalDigit d :: cs)) ≠ "nan" := hword 'n' ['a', 'n'] hn
    rw [parseFloat, htrimmed, htext, String.toList_ofList]
    dsimp only
    split
    · rename_i h
      exact absurd (List.cons.inj h).1 hminus
    · rename_i h
      exact absurd (List.cons.inj h).1 hplus
    · rw [if_neg (not_or.mpr ⟨hinf, hinfinity⟩), if_neg hnan, hparse, Option.map_some]

end Digits

end Py
