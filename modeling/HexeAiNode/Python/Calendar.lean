import HexeAiNode.Python.Value

/-!
# The calendar

Dates of the proleptic Gregorian calendar as `datetime` has them, in the years from 1 to 9999: the ordinal of a date,
the date with an ordinal (`Date.fromOrdinal_eq_some_iff`), weeks from Monday to Sunday, and the arithmetic of
`timedelta` in days.  An `AwareDatetime` is a date with a time of day and the offset from UTC that `astimezone` gives
it; `isoformat` writes it, and two days that begin at the same offset are told apart by it
(`startOfDay_isoformat_inj`).

A `LocalZone` is what the operating system knows of local time: the offset in force at every instant.
-/

namespace Py

/-! ## Days and months -/

/-- `_is_leap`. -/
def isLeap (year : ℕ) : Bool := year % 4 == 0 && (year % 100 != 0 || year % 400 == 0)

/-- `_days_in_month`. -/
def daysInMonth (year month : ℕ) : ℕ :=
  if month = 2 then if isLeap year then 29 else 28
  else if month = 4 ∨ month = 6 ∨ month = 9 ∨ month = 11 then 30
  else 31

/-- `_days_before_year`. -/
def daysBeforeYear (year : ℕ) : ℕ :=
  let y := year - 1
  y * 365 + y / 4 - y / 100 + y / 400

/-- The days of the first months of a year. -/
def daysOfMonths (year : ℕ) : ℕ → ℕ
  | 0 => 0
  | month + 1 => daysOfMonths year month + daysInMonth year (month + 1)

/-- `_days_before_month`. -/
def daysBeforeMonth (year month : ℕ) : ℕ := daysOfMonths year (month - 1)

/-- A `date`. -/
@[ext]
structure Date where
  year : ℕ
  month : ℕ
  day : ℕ
  year_mem : 1 ≤ year ∧ year ≤ 9999
  month_mem : 1 ≤ month ∧ month ≤ 12
  day_mem : 1 ≤ day ∧ day ≤ daysInMonth year month
  deriving DecidableEq

namespace Date

/-- `toordinal`: the days since 0000-12-31. -/
def toOrdinal (d : Date) : ℕ := daysBeforeYear d.year + daysBeforeMonth d.year d.month + d.day

/-- `fromordinal`: the date with an ordinal, if there is one. -/
def fromOrdinal (n : ℕ) : Option Date := do
  let year ← (List.range 10000).find? fun year => decide (n ≤ daysBeforeYear (year + 1))
  let month ← (List.range 13).find? fun month => decide (n ≤ daysBeforeYear year + daysOfMonths year month)
  let day := n - daysBeforeYear year - daysBeforeMonth year month
  if h : (1 ≤ year ∧ year ≤ 9999) ∧ (1 ≤ month ∧ month ≤ 12) ∧ 1 ≤ day ∧ day ≤ daysInMonth year month then
    some ⟨year, month, day, h.1, h.2.1, h.2.2⟩
  else none

/-- `weekday`: Monday is 0, and so is 0001-01-01. -/
def weekday (d : Date) : ℕ := (d.toOrdinal + 6) % 7

/-- The weeks from Monday to Sunday, numbered. -/
def week (d : Date) : ℕ := (d.toOrdinal - 1) / 7

/-- `date + timedelta(days=n)`. -/
def addDays (d : Date) (n : ℤ) : Except Exc Date :=
  match fromOrdinal (d.toOrdinal + n).toNat with
  | some d' => .ok d'
  | none => .error ⟨.overflowError, "date value out of range"⟩

end Date

/-! ## Ordinals -/

theorem isLeap_eq (year : ℕ) : isLeap year = decide (4 ∣ year ∧ (¬100 ∣ year ∨ 400 ∣ year)) := by
  unfold isLeap
  simp only [Nat.dvd_iff_mod_eq_zero, Bool.decide_and, Bool.decide_or, decide_not]
  rfl

theorem daysBeforeYear_succ {year : ℕ} (h : 1 ≤ year) :
    daysBeforeYear (year + 1) = daysBeforeYear year + if isLeap year then 366 else 365 := by
  obtain ⟨y, rfl⟩ : ∃ y, year = y + 1 := Nat.exists_eq_succ_of_ne_zero (Nat.one_le_iff_ne_zero.mp h)
  have hcenturies : y / 100 ≤ y / 4 := Nat.div_le_div_left (by norm_num) (by norm_num)
  have h100 : 100 ∣ y + 1 → 4 ∣ y + 1 := dvd_trans (by norm_num)
  have h400 : 400 ∣ y + 1 → 100 ∣ y + 1 := dvd_trans (by norm_num)
  unfold daysBeforeYear
  simp only [Nat.add_sub_cancel, Nat.succ_div, isLeap_eq, decide_eq_true_eq]
  generalize y / 4 = a at *
  generalize y / 100 = b at *
  generalize y / 400 = c at *
  by_cases hleap : 4 ∣ y + 1
  · by_cases hcentury : 100 ∣ y + 1
    · by_cases hfour : 400 ∣ y + 1
      · rw [if_pos hleap, if_pos hcentury, if_pos hfour, if_pos ⟨hleap, Or.inr hfour⟩]
        omega
      · rw [if_pos hleap, if_pos hcentury, if_neg hfour, if_neg (by tauto)]
        omega
    · rw [if_pos hleap, if_neg hcentury, if_neg fun hfour => hcentury (h400 hfour), if_pos ⟨hleap, Or.inl hcentury⟩]
      omega
  · rw [if_neg hleap, if_neg fun hcentury => hleap (h100 hcentury),
      if_neg fun hfour => hleap (h100 (h400 hfour)), if_neg fun hboth => hleap hboth.1]
    omega

theorem daysOfMonths_twelve (year : ℕ) : daysOfMonths year 12 = if isLeap year then 366 else 365 := by
  simp only [daysOfMonths, daysInMonth]
  cases isLeap year <;> rfl

theorem daysBeforeYear_mono {year year' : ℕ} (h : year ≤ year') : daysBeforeYear year ≤ daysBeforeYear year' := by
  refine monotone_nat_of_le_succ (fun year => ?_) h
  rcases Nat.eq_zero_or_pos year with rfl | hpos
  · exact le_rfl
  · rw [daysBeforeYear_succ hpos]
    exact Nat.le_add_right _ _

theorem daysOfMonths_mono {year month month' : ℕ} (h : month ≤ month') :
    daysOfMonths year month ≤ daysOfMonths year month' := by
  induction month' with
  | zero => exact le_of_eq (by rw [Nat.le_zero.mp h])
  | succ month' ih =>
    rcases Nat.le_succ_iff.mp h with h | rfl
    · exact (ih h).trans (Nat.le_add_right _ _)
    · exact le_rfl

namespace Date

variable {d d' : Date} {n : ℕ}

/-- The months up to that of a date have the days before the month and those of the month. -/
theorem daysOfMonths_month (d : Date) :
    daysOfMonths d.year d.month = daysBeforeMonth d.year d.month + daysInMonth d.year d.month := by
  obtain ⟨m, hm⟩ : ∃ m, d.month = m + 1 := Nat.exists_eq_succ_of_ne_zero (by have := d.month_mem; omega)
  unfold daysBeforeMonth
  rw [hm]
  rfl

theorem toOrdinal_le_month (d : Date) : d.toOrdinal ≤ daysBeforeYear d.year + daysOfMonths d.year d.month := by
  have hday := d.day_mem
  have hmonth := d.daysOfMonths_month
  unfold toOrdinal
  omega

/-- A date lies within its year. -/
theorem toOrdinal_mem_year (d : Date) :
    daysBeforeYear d.year < d.toOrdinal ∧ d.toOrdinal ≤ daysBeforeYear (d.year + 1) := by
  have hday := d.day_mem
  have hmonth := d.toOrdinal_le_month
  have htwelve : daysOfMonths d.year d.month ≤ daysOfMonths d.year 12 := daysOfMonths_mono d.month_mem.2
  rw [daysOfMonths_twelve] at htwelve
  rw [daysBeforeYear_succ d.year_mem.1]
  constructor
  · unfold toOrdinal
    omega
  · omega

/-- The year of an ordinal. -/
theorem find?_year (d : Date) :
    (List.range 10000).find? (fun year => decide (d.toOrdinal ≤ daysBeforeYear (year + 1))) = some d.year := by
  obtain ⟨hlower, hupper⟩ := d.toOrdinal_mem_year
  rw [List.find?_range_eq_some]
  refine ⟨decide_eq_true hupper, List.mem_range.mpr (by have := d.year_mem; omega), fun year hyear => ?_⟩
  have hmono := daysBeforeYear_mono (Nat.succ_le_of_lt hyear)
  have hlt : ¬d.toOrdinal ≤ daysBeforeYear (year + 1) := by
    rw [Nat.succ_eq_add_one] at hmono
    omega
  simpa using hlt

/-- The month of an ordinal. -/
theorem find?_month (d : Date) :
    (List.range 13).find? (fun month => decide (d.toOrdinal ≤ daysBeforeYear d.year + daysOfMonths d.year month)) =
      some d.month := by
  rw [List.find?_range_eq_some]
  refine ⟨decide_eq_true d.toOrdinal_le_month, List.mem_range.mpr (by have := d.month_mem; omega), fun month hmonth => ?_⟩
  have hmono : daysOfMonths d.year month ≤ daysBeforeMonth d.year d.month := daysOfMonths_mono (by omega)
  have hday := d.day_mem
  have hlt : ¬d.toOrdinal ≤ daysBeforeYear d.year + daysOfMonths d.year month := by
    unfold toOrdinal
    omega
  simpa using hlt

/-- **The date with an ordinal.** -/
theorem fromOrdinal_eq_some_iff : fromOrdinal n = some d ↔ d.toOrdinal = n := by
  constructor
  · intro h
    unfold fromOrdinal at h
    obtain ⟨year, -, h⟩ := Option.bind_eq_some_iff.mp h
    obtain ⟨month, -, h⟩ := Option.bind_eq_some_iff.mp h
    dsimp only at h
    split at h
    · next hmem =>
      obtain rfl := Option.some.inj h
      have hday := hmem.2.2.1
      show daysBeforeYear year + daysBeforeMonth year month + (n - daysBeforeYear year - daysBeforeMonth year month) = n
      omega
    · cases h
  · rintro rfl
    unfold fromOrdinal
    rw [d.find?_year]
    show (List.find? _ _).bind _ = _
    rw [d.find?_month]
    have hday : d.toOrdinal - daysBeforeYear d.year - daysBeforeMonth d.year d.month = d.day := by
      unfold toOrdinal
      omega
    show dite _ _ _ = _
    rw [dif_pos (by rw [hday]; exact ⟨d.year_mem, d.month_mem, d.day_mem⟩)]
    refine congrArg some ?_
    ext1
    · rfl
    · rfl
    · exact hday

theorem toOrdinal_injective : Function.Injective toOrdinal := by
  intro d d' h
  exact Option.some.inj ((fromOrdinal_eq_some_iff.mpr h).symm.trans (fromOrdinal_eq_some_iff.mpr rfl))

/-- The ordinals of dates: 0001-01-01 has the first and 9999-12-31 the last. -/
def maxOrdinal : ℕ := 3652059

theorem toOrdinal_mem (d : Date) : 1 ≤ d.toOrdinal ∧ d.toOrdinal ≤ maxOrdinal := by
  obtain ⟨hlower, hupper⟩ := d.toOrdinal_mem_year
  have hlast : daysBeforeYear (d.year + 1) ≤ daysBeforeYear 10000 :=
    daysBeforeYear_mono (by have := d.year_mem; omega)
  exact ⟨by omega, hupper.trans hlast⟩

/-- Every such ordinal has a date. -/
theorem exists_fromOrdinal (hlower : 1 ≤ n) (hupper : n ≤ maxOrdinal) : ∃ d, fromOrdinal n = some d := by
  have hyears : ∃ year ∈ List.range 10000, (fun year => decide (n ≤ daysBeforeYear (year + 1))) year = true :=
    ⟨9999, List.mem_range.mpr (by norm_num), decide_eq_true hupper⟩
  obtain ⟨year, hyear⟩ := Option.isSome_iff_exists.mp (List.find?_isSome.mpr hyears)
  obtain ⟨hpast, hmem, hfirst⟩ := List.find?_range_eq_some.mp hyear
  have hpast := of_decide_eq_true hpast
  have hyear_le := List.mem_range.mp hmem
  have hyear_pos : 1 ≤ year := by
    by_contra hzero
    obtain rfl : year = 0 := by omega
    have hnone : daysBeforeYear (0 + 1) = 0 := rfl
    omega
  have hbefore : daysBeforeYear year < n := by
    have hprevious := hfirst (year - 1) (by omega)
    rw [Nat.sub_add_cancel hyear_pos] at hprevious
    simpa using hprevious
  have hmonths : ∃ month ∈ List.range 13,
      (fun month => decide (n ≤ daysBeforeYear year + daysOfMonths year month)) month = true := by
    refine ⟨12, List.mem_range.mpr (by norm_num), decide_eq_true ?_⟩
    rw [daysOfMonths_twelve, ← daysBeforeYear_succ hyear_pos]
    exact hpast
  obtain ⟨month, hmonth⟩ := Option.isSome_iff_exists.mp (List.find?_isSome.mpr hmonths)
  obtain ⟨hwithin, hmem', hfirst'⟩ := List.find?_range_eq_some.mp hmonth
  have hwithin := of_decide_eq_true hwithin
  have hmonth_le := List.mem_range.mp hmem'
  obtain ⟨m, rfl⟩ : ∃ m, month = m + 1 := by
    refine Nat.exists_eq_succ_of_ne_zero fun hzero => ?_
    rw [hzero] at hwithin
    have hnone : daysOfMonths year 0 = 0 := rfl
    omega
  have hprevious : daysBeforeYear year + daysOfMonths year m < n := by
    have hprevious := hfirst' m (by omega)
    simpa using hprevious
  have hmonthDays : daysOfMonths year (m + 1) = daysOfMonths year m + daysInMonth year (m + 1) := rfl
  have hdays : daysBeforeMonth year (m + 1) = daysOfMonths year m := rfl
  refine ⟨⟨year, m + 1, n - daysBeforeYear year - daysBeforeMonth year (m + 1), ⟨hyear_pos, by omega⟩,
    ⟨by omega, by omega⟩, ?_⟩, ?_⟩
  · rw [hdays]
    omega
  · rw [fromOrdinal_eq_some_iff]
    show daysBeforeYear year + daysBeforeMonth year (m + 1) +
      (n - daysBeforeYear year - daysBeforeMonth year (m + 1)) = n
    omega

/-! ## Weeks -/

/-- The Monday of the week of a date. -/
theorem monday_ordinal (d : Date) : d.toOrdinal - d.weekday = 7 * d.week + 1 := by
  have hordinal := d.toOrdinal_mem
  unfold weekday week
  omega

theorem addDays_eq_ok_iff {n : ℤ} : d.addDays n = .ok d' ↔ (d'.toOrdinal : ℤ) = d.toOrdinal + n := by
  have hpos := d'.toOrdinal_mem.1
  unfold addDays
  rcases hdate : fromOrdinal (d.toOrdinal + n).toNat with _ | e
  · refine ⟨fun h => (by cases h), fun h => ?_⟩
    have hsome := fromOrdinal_eq_some_iff.mpr (show d'.toOrdinal = (d.toOrdinal + n).toNat by omega)
    rw [hdate] at hsome
    cases hsome
  · rw [fromOrdinal_eq_some_iff] at hdate
    rw [Except.ok.injEq]
    constructor
    · rintro rfl
      have hpos := e.toOrdinal_mem.1
      omega
    · intro h
      exact toOrdinal_injective (by omega)

/-- The sum of a date and a number of days, where it is a date. -/
theorem exists_addDays_iff {n : ℤ} :
    (∃ d', d.addDays n = .ok d') ↔ 1 ≤ (d.toOrdinal : ℤ) + n ∧ (d.toOrdinal : ℤ) + n ≤ maxOrdinal := by
  constructor
  · rintro ⟨d', h⟩
    rw [addDays_eq_ok_iff] at h
    have hmem := d'.toOrdinal_mem
    omega
  · rintro ⟨hlower, hupper⟩
    obtain ⟨d', hd'⟩ := @exists_fromOrdinal (d.toOrdinal + n).toNat (by omega) (by omega)
    rw [fromOrdinal_eq_some_iff] at hd'
    exact ⟨d', addDays_eq_ok_iff.mpr (by omega)⟩

end Date

/-! ## Texts -/

/-- The digits of `%0wd`, for a number of at most `w` digits. -/
def padDigits : ℕ → ℕ → List Char
  | 0, _ => []
  | w + 1, n => padDigits w (n / 10) ++ [Nat.digitChar (n % 10)]

theorem length_padDigits (w n : ℕ) : (padDigits w n).length = w := by
  induction w generalizing n with
  | zero => rfl
  | succ w ih => rw [padDigits, List.length_append, ih, List.length_singleton]

theorem digitChar_inj {m n : ℕ} (hm : m < 10) (hn : n < 10) (h : Nat.digitChar m = Nat.digitChar n) : m = n := by
  have hcode := congrArg Char.toNat h
  rw [Nat.toNat_digitChar_of_lt_ten hm, Nat.toNat_digitChar_of_lt_ten hn] at hcode
  omega

theorem padDigits_inj {w m n : ℕ} (hm : m < 10 ^ w) (hn : n < 10 ^ w) (h : padDigits w m = padDigits w n) :
    m = n := by
  induction w generalizing m n with
  | zero =>
    rw [pow_zero] at hm hn
    omega
  | succ w ih =>
    obtain ⟨hinit, hlast⟩ := List.append_inj h (by rw [length_padDigits, length_padDigits])
    have hdigit := digitChar_inj (Nat.mod_lt m (by norm_num)) (Nat.mod_lt n (by norm_num)) (List.cons.inj hlast).1
    have hrest := ih (Nat.div_lt_of_lt_mul (by rwa [pow_succ'] at hm)) (Nat.div_lt_of_lt_mul (by rwa [pow_succ'] at hn))
      hinit
    omega

/-- `date.isoformat`. -/
def Date.isoChars (d : Date) : List Char :=
  padDigits 4 d.year ++ '-' :: (padDigits 2 d.month ++ '-' :: padDigits 2 d.day)

theorem Date.length_isoChars (d : Date) : d.isoChars.length = 10 := by
  simp only [isoChars, List.length_append, List.length_cons, length_padDigits]

theorem daysInMonth_le (year month : ℕ) : daysInMonth year month ≤ 31 := by
  unfold daysInMonth
  split
  · split <;> norm_num
  · split <;> norm_num

theorem Date.isoChars_inj {d d' : Date} (h : d.isoChars = d'.isoChars) : d = d' := by
  have hyear := d.year_mem
  have hyear' := d'.year_mem
  have hmonth := d.month_mem
  have hmonth' := d'.month_mem
  have hday := d.day_mem.2.trans (daysInMonth_le _ _)
  have hday' := d'.day_mem.2.trans (daysInMonth_le _ _)
  obtain ⟨hyears, hrest⟩ := List.append_inj h (by rw [length_padDigits, length_padDigits])
  obtain ⟨hmonths, hrest⟩ := List.append_inj (List.cons.inj hrest).2 (by rw [length_padDigits, length_padDigits])
  ext1
  · exact padDigits_inj (by omega) (by omega) hyears
  · exact padDigits_inj (by omega) (by omega) hmonths
  · exact padDigits_inj (by omega) (by omega) (List.cons.inj hrest).2

/-! ## Times with an offset -/

/-- A `datetime` whose `tzinfo` is a fixed offset, in seconds. -/
structure AwareDatetime where
  date : Date
  hour : ℕ
  minute : ℕ
  second : ℕ
  microsecond : ℕ
  utcoffset : ℤ
  time_mem : hour < 24 ∧ minute < 60 ∧ second < 60 ∧ microsecond < 1000000
  utcoffset_mem : utcoffset.natAbs < 86400

/-- `_format_offset`. -/
def offsetChars (utcoffset : ℤ) : List Char :=
  let n := utcoffset.natAbs
  (if utcoffset < 0 then '-' else '+') :: (padDigits 2 (n / 3600) ++ ':' :: (padDigits 2 (n / 60 % 60) ++
    if n % 60 = 0 then [] else ':' :: padDigits 2 (n % 60)))

theorem offsetChars_inj {o o' : ℤ} (ho : o.natAbs < 86400) (ho' : o'.natAbs < 86400)
    (h : offsetChars o = offsetChars o') : o = o' := by
  obtain ⟨hsign, h⟩ := List.cons.inj h
  obtain ⟨hhours, h⟩ := List.append_inj h (by rw [length_padDigits, length_padDigits])
  obtain ⟨hminutes, h⟩ := List.append_inj (List.cons.inj h).2 (by rw [length_padDigits, length_padDigits])
  have hhours := padDigits_inj (w := 2) (by omega) (by omega) hhours
  have hminutes := padDigits_inj (w := 2) (by omega) (by omega) hminutes
  have hseconds : o.natAbs % 60 = o'.natAbs % 60 := by
    split at h <;> split at h
    · omega
    · cases h
    · cases h
    · exact padDigits_inj (w := 2) (by omega) (by omega) (List.cons.inj h).2
  have hsigns : o < 0 ↔ o' < 0 := by
    by_cases hneg : o < 0 <;> by_cases hneg' : o' < 0
    · exact iff_of_true hneg hneg'
    · rw [if_pos hneg, if_neg hneg'] at hsign
      exact absurd hsign (by decide)
    · rw [if_neg hneg, if_pos hneg'] at hsign
      exact absurd hsign (by decide)
    · exact iff_of_false hneg hneg'
  omega

namespace AwareDatetime

/-- `isoformat`. -/
def isoformat (t : AwareDatetime) : String :=
  String.ofList (t.date.isoChars ++ 'T' :: (padDigits 2 t.hour ++ ':' :: (padDigits 2 t.minute ++ ':' ::
    (padDigits 2 t.second ++ ((if t.microsecond = 0 then [] else '.' :: padDigits 6 t.microsecond) ++
      offsetChars t.utcoffset)))))

/-- `replace(hour=0, minute=0, second=0, microsecond=0)`, on another date. -/
def startOfDay (t : AwareDatetime) (date : Date) : AwareDatetime :=
  { t with date := date, hour := 0, minute := 0, second := 0, microsecond := 0, time_mem := by decide }

/-- `replace(hour=23, minute=59, second=59, microsecond=999999)`, on another date. -/
def endOfDay (t : AwareDatetime) (date : Date) : AwareDatetime :=
  { t with date := date, hour := 23, minute := 59, second := 59, microsecond := 999999, time_mem := by decide }

theorem isoformat_startOfDay (t : AwareDatetime) (d : Date) :
    (t.startOfDay d).isoformat =
      String.ofList (d.isoChars ++ (['T', '0', '0', ':', '0', '0', ':', '0', '0'] ++ offsetChars t.utcoffset)) := by
  have hzero : padDigits 2 0 = ['0', '0'] := by decide
  unfold isoformat startOfDay
  dsimp only
  rw [hzero]
  rfl

/-- **Beginnings of days** have the same text when they are the same day at the same offset. -/
theorem startOfDay_isoformat_inj {t t' : AwareDatetime} {d d' : Date} :
    (t.startOfDay d).isoformat = (t'.startOfDay d').isoformat ↔ d = d' ∧ t.utcoffset = t'.utcoffset := by
  constructor
  · intro h
    rw [isoformat_startOfDay, isoformat_startOfDay] at h
    obtain ⟨hdate, h⟩ := List.append_inj (String.ofList_injective h)
      (by rw [Date.length_isoChars, Date.length_isoChars])
    exact ⟨Date.isoChars_inj hdate,
      offsetChars_inj t.utcoffset_mem t'.utcoffset_mem (List.append_cancel_left h)⟩
  · rintro ⟨rfl, h⟩
    rw [isoformat_startOfDay, isoformat_startOfDay, h]

end AwareDatetime

/-! ## Local time -/

/-- A local time zone: the offset in force at each instant, in seconds, for instants in microseconds since
1970-01-01 UTC. -/
structure LocalZone where
  utcoffset : ℤ → ℤ
  utcoffset_mem : ∀ t, (utcoffset t).natAbs < 86400

/-- The microseconds of a day. -/
def microsPerDay : ℕ := 86400000000

theorem time_of_day_mem (wall : ℤ) :
    (wall % microsPerDay).toNat / 3600000000 < 24 ∧ (wall % microsPerDay).toNat / 60000000 % 60 < 60 ∧
      (wall % microsPerDay).toNat / 1000000 % 60 < 60 ∧ (wall % microsPerDay).toNat % 1000000 < 1000000 := by
  have hlt : (wall % microsPerDay).toNat < 24 * 3600000000 := by
    unfold microsPerDay
    omega
  exact ⟨Nat.div_lt_of_lt_mul (by rwa [mul_comm] at hlt), Nat.mod_lt _ (by norm_num), Nat.mod_lt _ (by norm_num),
    Nat.mod_lt _ (by norm_num)⟩

/-- `datetime.now().astimezone()` at an instant. -/
def LocalZone.localNow (zone : LocalZone) (t : ℤ) : Option AwareDatetime :=
  let wall := t + zone.utcoffset t * 1000000
  let n := (wall % microsPerDay).toNat
  -- 719163 is the ordinal of 1970-01-01
  (Date.fromOrdinal (wall / microsPerDay + 719163).toNat).map fun date =>
    { date := date
      hour := n / 3600000000
      minute := n / 60000000 % 60
      second := n / 1000000 % 60
      microsecond := n % 1000000
      utcoffset := zone.utcoffset t
      time_mem := time_of_day_mem wall
      utcoffset_mem := zone.utcoffset_mem t }

theorem LocalZone.utcoffset_of_localNow {zone : LocalZone} {t : ℤ} {now : AwareDatetime}
    (h : zone.localNow t = some now) : now.utcoffset = zone.utcoffset t := by
  unfold LocalZone.localNow at h
  dsimp only at h
  rw [Option.map_eq_some_iff] at h
  obtain ⟨date, -, rfl⟩ := h
  rfl

end Py
