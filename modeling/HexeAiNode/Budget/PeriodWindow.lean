import HexeAiNode.Budget.ProviderLimit
import HexeAiNode.Python.Calendar

/-!
# The entry of a period

The spend of a provider with a budget is kept in one entry for each calendar month, or for each week from Monday to
Sunday.  The key of the entry is the text of the beginning of the period, which the source computes by replacing
fields of the present local time, so it carries the offset from UTC of the present and not that of the beginning of
the period.  Entries of different periods are never confused, but in one period there is an entry for every offset:
`same_entry_iff` says that the spend recorded at one instant is found at another of the same period exactly when the
local offset is the same at both.
-/

namespace HexeAiNode
namespace Budget

open Py

/-! ## The source functions -/

/-- `start` and `end` of a week, as days. -/
def weekBounds (d : Date) : Except Exc (Date × Date) := do
  let monday ← d.addDays (-d.weekday)
  let sunday ← monday.addDays 6
  .ok (monday, sunday)

/-- `replace(day=1)`. -/
def firstOfMonth (d : Date) : Date where
  year := d.year
  month := d.month
  day := 1
  year_mem := d.year_mem
  month_mem := d.month_mem
  day_mem := ⟨le_rfl, d.day_mem.1.trans d.day_mem.2⟩

theorem one_le_daysInMonth (year month : ℕ) : 1 ≤ daysInMonth year month := by
  unfold daysInMonth
  split
  · split <;> norm_num
  · split <;> norm_num

/-- `next_month`. -/
def nextMonth (d : Date) : Except Exc Date :=
  if hmonth : d.month = 12 then
    if hyear : d.year + 1 ≤ 9999 then
      .ok ⟨d.year + 1, 1, 1, ⟨Nat.le_add_left 1 d.year, hyear⟩, by decide, le_rfl, one_le_daysInMonth _ _⟩
    else .error ⟨.valueError, "year 10000 is out of range"⟩
  else
    .ok ⟨d.year, d.month + 1, 1, d.year_mem, by have := d.month_mem; omega, le_rfl, one_le_daysInMonth _ _⟩

/-- `start` and `end` of a month, as days: the end is a microsecond before the next month. -/
def monthBounds (d : Date) : Except Exc (Date × Date) := do
  let next ← nextMonth d
  let last ← next.addDays (-1)
  .ok (firstOfMonth d, last)

/-- The days of a period that begin and end it. -/
def periodBounds (period : String) (d : Date) : Except Exc (Date × Date) :=
  if period = "weekly" then weekBounds d else monthBounds d

/-- `normalized_period`. -/
def normalizedPeriod (period : String) : String :=
  if stripLower period = "" then "monthly" else stripLower period

/-- `_provider_budget_period_window`, with the present local time. -/
def providerBudgetPeriodWindow (now : AwareDatetime) (period : String) : Except Exc (String × String) := do
  let bounds ← periodBounds (normalizedPeriod period) now.date
  .ok ((now.startOfDay bounds.1).isoformat, (now.endOfDay bounds.2).isoformat)

/-- An environment with the bounds of the period that contains the present. -/
def BudgetEnv.withWindow (env : BudgetEnv) (window : String × String) : BudgetEnv :=
  { env with periodWindow := fun _ => window }

/-- `usage_key`, with the present local time. -/
def usageKeyAt (env : BudgetEnv) (now : AwareDatetime) (providerId : String) (settings : Dict) :
    Except Exc String := do
  let window ← providerBudgetPeriodWindow now (budgetPeriod settings)
  .ok (providerUsageKey (env.withWindow window) providerId settings)

/-- `_ensure_provider_budget_usage_entry`, with the present local time. -/
def ensureUsageEntryAt (env : BudgetEnv) (now : AwareDatetime) (state : BudgetState) (providerId : String)
    (settings : Dict) : Except Exc ProviderUsage := do
  let window ← providerBudgetPeriodWindow now (budgetPeriod settings)
  ensureProviderBudgetUsageEntry (env.withWindow window) state providerId settings

theorem isNonEmptyString_isoformat (now : AwareDatetime) : isNonEmptyString (.str now.isoformat) = true := by
  refine isNonEmptyString_str_iff.mpr ⟨'T', ?_, by decide⟩
  rw [AwareDatetime.isoformat, String.toList_ofList]
  exact List.mem_append_right _ List.mem_cons_self

/-- The bounds the source computes are texts that are not blank. -/
theorem windowFits_withWindow {now : AwareDatetime} {period : String} {window : String × String} (env : BudgetEnv)
    (h : providerBudgetPeriodWindow now period = .ok window) : (env.withWindow window).WindowFits := by
  obtain ⟨bounds, -, h⟩ := bind_eq_ok.mp h
  obtain rfl := Except.ok.inj h
  exact fun _ => ⟨isNonEmptyString_isoformat _, isNonEmptyString_isoformat _⟩

/-! ## Periods -/

/-- The dates are in the same week, for a weekly budget, and in the same month for any other. -/
structure SamePeriod (period : String) (d d' : Date) : Prop where
  week : period = "weekly" → d.week = d'.week
  month : period ≠ "weekly" → d.year = d'.year ∧ d.month = d'.month

/-- The period ends before the year 10000. -/
structure EndsInCalendar (period : String) (d : Date) : Prop where
  week : period = "weekly" → 7 * d.week + 7 ≤ Date.maxOrdinal
  month : period ≠ "weekly" → ¬(d.year = 9999 ∧ d.month = 12)

variable {env : BudgetEnv} {period providerId : String} {settings : Dict} {d d' : Date} {bounds bounds' : Date × Date}

theorem weekBounds_eq_ok (h : weekBounds d = .ok bounds) : bounds.1.toOrdinal = 7 * d.week + 1 := by
  obtain ⟨monday, hmonday, h⟩ := bind_eq_ok.mp h
  obtain ⟨sunday, -, h⟩ := bind_eq_ok.mp h
  obtain rfl := Except.ok.inj h
  rw [Date.addDays_eq_ok_iff] at hmonday
  have hordinal := d.monday_ordinal
  have hpos := d.toOrdinal_mem.1
  show monday.toOrdinal = _
  omega

theorem exists_weekBounds_iff : (∃ bounds, weekBounds d = .ok bounds) ↔ 7 * d.week + 7 ≤ Date.maxOrdinal := by
  have hordinal := d.monday_ordinal
  constructor
  · rintro ⟨bounds, h⟩
    obtain ⟨monday, hmonday, h⟩ := bind_eq_ok.mp h
    obtain ⟨sunday, hsunday, -⟩ := bind_eq_ok.mp h
    rw [Date.addDays_eq_ok_iff] at hmonday hsunday
    have hmem := sunday.toOrdinal_mem
    omega
  · intro h
    obtain ⟨monday, hmonday⟩ := (@Date.exists_addDays_iff d (-d.weekday)).mpr (by omega)
    have hstart := Date.addDays_eq_ok_iff.mp hmonday
    obtain ⟨sunday, hsunday⟩ := (@Date.exists_addDays_iff monday 6).mpr (by omega)
    exact ⟨(monday, sunday), bind_eq_ok.mpr ⟨monday, hmonday, bind_eq_ok.mpr ⟨sunday, hsunday, rfl⟩⟩⟩

theorem monthBounds_eq_ok (h : monthBounds d = .ok bounds) : bounds.1 = firstOfMonth d := by
  obtain ⟨next, -, h⟩ := bind_eq_ok.mp h
  obtain ⟨last, -, h⟩ := bind_eq_ok.mp h
  obtain rfl := Except.ok.inj h
  rfl

/-- The next month begins after the date. -/
theorem toOrdinal_lt_nextMonth {next : Date} (h : nextMonth d = .ok next) : d.toOrdinal < next.toOrdinal := by
  unfold nextMonth at h
  split at h
  · split at h
    · have hyear : next.year = d.year + 1 := by rw [← Except.ok.inj h]
      have hnext := next.toOrdinal_mem_year.1
      rw [hyear] at hnext
      exact lt_of_le_of_lt d.toOrdinal_mem_year.2 hnext
    · cases h
  · have hordinal : next.toOrdinal = daysBeforeYear d.year + daysOfMonths d.year d.month + 1 := by
      rw [← Except.ok.inj h]
      rfl
    rw [hordinal]
    exact Nat.lt_succ_of_le d.toOrdinal_le_month

theorem exists_monthBounds_iff : (∃ bounds, monthBounds d = .ok bounds) ↔ ¬(d.year = 9999 ∧ d.month = 12) := by
  have hyear := d.year_mem
  constructor
  · rintro ⟨bounds, h⟩ ⟨hyear, hmonth⟩
    obtain ⟨next, hnext, -⟩ := bind_eq_ok.mp h
    unfold nextMonth at hnext
    rw [dif_pos hmonth, dif_neg (by omega)] at hnext
    cases hnext
  · intro h
    obtain ⟨next, hnext⟩ : ∃ next, nextMonth d = .ok next := by
      unfold nextMonth
      by_cases hmonth : d.month = 12
      · rw [dif_pos hmonth, dif_pos (by omega)]
        exact ⟨_, rfl⟩
      · rw [dif_neg hmonth]
        exact ⟨_, rfl⟩
    have hlt := toOrdinal_lt_nextMonth hnext
    have hpos := d.toOrdinal_mem.1
    have hmem := next.toOrdinal_mem
    obtain ⟨last, hlast⟩ := (@Date.exists_addDays_iff next (-1)).mpr (by omega)
    exact ⟨(firstOfMonth d, last), bind_eq_ok.mpr ⟨next, hnext, bind_eq_ok.mpr ⟨last, hlast, rfl⟩⟩⟩

/-- A period has bounds when it ends in the calendar. -/
theorem exists_periodBounds_iff : (∃ bounds, periodBounds period d = .ok bounds) ↔ EndsInCalendar period d := by
  unfold periodBounds
  by_cases hweekly : period = "weekly"
  · rw [if_pos hweekly, exists_weekBounds_iff]
    exact ⟨fun h => ⟨fun _ => h, fun hne => absurd hweekly hne⟩, fun h => h.week hweekly⟩
  · rw [if_neg hweekly, exists_monthBounds_iff]
    exact ⟨fun h => ⟨fun heq => absurd heq hweekly, fun _ => h⟩, fun h => h.month hweekly⟩

/-- **Periods that begin on the same day** are the same. -/
theorem first_eq_iff (h : periodBounds period d = .ok bounds) (h' : periodBounds period d' = .ok bounds') :
    bounds.1 = bounds'.1 ↔ SamePeriod period d d' := by
  unfold periodBounds at h h'
  by_cases hweekly : period = "weekly"
  · rw [if_pos hweekly] at h h'
    have hfirst := weekBounds_eq_ok h
    have hfirst' := weekBounds_eq_ok h'
    have hweeks : bounds.1 = bounds'.1 ↔ d.week = d'.week := by
      rw [← Date.toOrdinal_injective.eq_iff]
      omega
    exact hweeks.trans ⟨fun heq => ⟨fun _ => heq, fun hne => absurd hweekly hne⟩, fun hsame => hsame.week hweekly⟩
  · rw [if_neg hweekly] at h h'
    have hmonths : bounds.1 = bounds'.1 ↔ d.year = d'.year ∧ d.month = d'.month := by
      rw [monthBounds_eq_ok h, monthBounds_eq_ok h', Date.ext_iff]
      exact ⟨fun heq => ⟨heq.1, heq.2.1⟩, fun heq => ⟨heq.1, heq.2, rfl⟩⟩
    exact hmonths.trans ⟨fun heq => ⟨fun hw => absurd hw hweekly, fun _ => heq⟩, fun hsame => hsame.month hweekly⟩

theorem EndsInCalendar.of_samePeriod (h : EndsInCalendar period d) (hsame : SamePeriod period d d') :
    EndsInCalendar period d' where
  week hweekly := by
    rw [← hsame.week hweekly]
    exact h.week hweekly
  month hweekly := by
    rw [← (hsame.month hweekly).1, ← (hsame.month hweekly).2]
    exact h.month hweekly

/-! ## Keys -/

section

variable {now now' : AwareDatetime} {key : String}

theorem providerBudgetPeriodWindow_eq_ok_iff {window : String × String} :
    providerBudgetPeriodWindow now period = .ok window ↔
      ∃ bounds, periodBounds (normalizedPeriod period) now.date = .ok bounds ∧
        window = ((now.startOfDay bounds.1).isoformat, (now.endOfDay bounds.2).isoformat) := by
  unfold providerBudgetPeriodWindow
  rcases periodBounds (normalizedPeriod period) now.date with e | bounds
  · exact ⟨fun h => (by cases h), fun ⟨bounds, h, _⟩ => (by cases h)⟩
  · constructor
    · intro h
      exact ⟨bounds, rfl, (Except.ok.inj h).symm⟩
    · rintro ⟨bounds', h, rfl⟩
      obtain rfl := Except.ok.inj h
      rfl

theorem providerUsageKey_withWindow (window : String × String) :
    providerUsageKey (env.withWindow window) providerId settings =
      providerId ++ ":" ++ budgetPeriod settings ++ ":" ++ window.1 := rfl

theorem usageKeyAt_eq_ok_iff : usageKeyAt env now providerId settings = .ok key ↔
    ∃ bounds, periodBounds (normalizedPeriod (budgetPeriod settings)) now.date = .ok bounds ∧
      key = providerId ++ ":" ++ budgetPeriod settings ++ ":" ++ (now.startOfDay bounds.1).isoformat := by
  unfold usageKeyAt
  constructor
  · intro h
    obtain ⟨window, hwindow, h⟩ := bind_eq_ok.mp h
    obtain ⟨bounds, hbounds, rfl⟩ := providerBudgetPeriodWindow_eq_ok_iff.mp hwindow
    rw [providerUsageKey_withWindow] at h
    exact ⟨bounds, hbounds, (Except.ok.inj h).symm⟩
  · rintro ⟨bounds, hbounds, rfl⟩
    refine bind_eq_ok.mpr ⟨_, providerBudgetPeriodWindow_eq_ok_iff.mpr ⟨bounds, hbounds, rfl⟩, ?_⟩
    rw [providerUsageKey_withWindow]

/-- **Two readings of the clock have the same key** when they are in the same period, at the same offset. -/
theorem same_key_iff : (∃ key, usageKeyAt env now providerId settings = .ok key ∧
      usageKeyAt env now' providerId settings = .ok key) ↔
    SamePeriod (normalizedPeriod (budgetPeriod settings)) now.date now'.date ∧ now.utcoffset = now'.utcoffset ∧
      EndsInCalendar (normalizedPeriod (budgetPeriod settings)) now.date := by
  constructor
  · rintro ⟨key, hkey, hkey'⟩
    obtain ⟨bounds, hbounds, hkey⟩ := usageKeyAt_eq_ok_iff.mp hkey
    obtain ⟨bounds', hbounds', hkey'⟩ := usageKeyAt_eq_ok_iff.mp hkey'
    have hstart := (String.append_right_inj _).mp (hkey.symm.trans hkey')
    obtain ⟨hfirst, hoffset⟩ := AwareDatetime.startOfDay_isoformat_inj.mp hstart
    have hsame := (first_eq_iff hbounds hbounds').mp hfirst
    have hends := exists_periodBounds_iff.mp ⟨bounds, hbounds⟩
    exact ⟨hsame, hoffset, hends⟩
  · rintro ⟨hsame, hoffset, hends⟩
    obtain ⟨bounds, hbounds⟩ := exists_periodBounds_iff.mpr hends
    obtain ⟨bounds', hbounds'⟩ := exists_periodBounds_iff.mpr (hends.of_samePeriod hsame)
    have hfirst := (first_eq_iff hbounds hbounds').mpr hsame
    refine ⟨_, usageKeyAt_eq_ok_iff.mpr ⟨bounds, hbounds, rfl⟩, usageKeyAt_eq_ok_iff.mpr ⟨bounds', hbounds', ?_⟩⟩
    rw [AwareDatetime.startOfDay_isoformat_inj.mpr ⟨hfirst, hoffset⟩]

/-- At the second reading the entry written at the first is found, whatever it holds by then. -/
def FindsEntryOf (env : BudgetEnv) (providerId : String) (settings : Dict) (now now' : AwareDatetime) : Prop :=
  ∃ key, usageKeyAt env now providerId settings = .ok key ∧ ∀ state u,
    state.providerBudgetUsage.get? key = some u → ensureUsageEntryAt env now' state providerId settings = .ok u

/-- The entry is found under its key. -/
theorem findsEntryOf_iff : FindsEntryOf env providerId settings now now' ↔
    ∃ key, usageKeyAt env now providerId settings = .ok key ∧ usageKeyAt env now' providerId settings = .ok key := by
  refine exists_congr fun key => and_congr_right fun hkey => ?_
  constructor
  · intro h
    -- an entry that a new one cannot be mistaken for
    let spent : ProviderUsage :=
      { providerId := providerId, period := "", periodStart := "", periodEnd := "", budgetLimitCents := 0
        reservedCostCents := 1, reservations := .empty, updatedAt := "" }
    have hfound := h { createBudgetState "" with providerBudgetUsage := OrderedDict.empty.set key spent } spent
      (OrderedDict.get?_set_self _ _ _)
    obtain ⟨window, hwindow, hfound⟩ := bind_eq_ok.mp hfound
    rcases ensureProviderBudgetUsageEntry_cases hfound with hget | ⟨-, -, -, -, hreserved, -⟩
    · by_cases heq : providerUsageKey (env.withWindow window) providerId settings = key
      · exact bind_eq_ok.mpr ⟨window, hwindow, congrArg Except.ok heq⟩
      · change (OrderedDict.empty.set key spent).get? _ = _ at hget
        rw [OrderedDict.get?_set_of_ne _ _ heq] at hget
        cases hget
    · cases hreserved
  · intro hkey' state u hu
    obtain ⟨window, hwindow, hkey'⟩ := bind_eq_ok.mp hkey'
    refine bind_eq_ok.mpr ⟨window, hwindow, ?_⟩
    unfold ensureProviderBudgetUsageEntry
    rw [Except.ok.inj hkey', hu]

/-- **A budget is kept for each period**: in the same period the same entry is found, and different periods have
different entries. -/
structure KeepsPeriods (env : BudgetEnv) (providerId : String) (settings : Dict) (now now' : AwareDatetime) :
    Prop where
  same : SamePeriod (normalizedPeriod (budgetPeriod settings)) now.date now'.date →
    FindsEntryOf env providerId settings now now'
  different : ¬SamePeriod (normalizedPeriod (budgetPeriod settings)) now.date now'.date →
    ∀ key, usageKeyAt env now providerId settings = .ok key → usageKeyAt env now' providerId settings ≠ .ok key

theorem keepsPeriods_iff : KeepsPeriods env providerId settings now now' ↔
    (SamePeriod (normalizedPeriod (budgetPeriod settings)) now.date now'.date →
      now.utcoffset = now'.utcoffset ∧ EndsInCalendar (normalizedPeriod (budgetPeriod settings)) now.date) := by
  constructor
  · intro h hsame
    exact (same_key_iff.mp (findsEntryOf_iff.mp (h.same hsame))).2
  · intro h
    constructor
    · intro hsame
      exact findsEntryOf_iff.mpr (same_key_iff.mpr ⟨hsame, h hsame⟩)
    · intro hdifferent key hkey hkey'
      exact hdifferent (same_key_iff.mp ⟨key, hkey, hkey'⟩).1

end

/-! ## Local time -/

/-- **When a budget is kept for each period.**  At two instants in a local time zone the same entry is found if they
are in the same period, and different ones if they are not, exactly when, being in the same period, they have the
same offset from UTC, and the period ends before the year 10000. -/
theorem same_entry_iff (zone : LocalZone) (env : BudgetEnv) (providerId : String) (settings : Dict) {t t' : ℤ}
    {now now' : AwareDatetime} (hnow : zone.localNow t = some now) (hnow' : zone.localNow t' = some now') :
    KeepsPeriods env providerId settings now now' ↔
      (SamePeriod (normalizedPeriod (budgetPeriod settings)) now.date now'.date →
        zone.utcoffset t = zone.utcoffset t' ∧
          EndsInCalendar (normalizedPeriod (budgetPeriod settings)) now.date) := by
  rw [← LocalZone.utcoffset_of_localNow hnow, ← LocalZone.utcoffset_of_localNow hnow']
  exact keepsPeriods_iff

/-- Pacific time around the summer of 2026, which begins on March 8 and ends on November 1. -/
def pacificTime : LocalZone where
  utcoffset t := if 1772964000000000 ≤ t ∧ t < 1793523600000000 then -25200 else -28800
  utcoffset_mem t := by split <;> decide

/-- The date of a reading, and its offset. -/
def readingAt (t : ℤ) : Option (ℕ × ℕ × ℕ × ℤ) :=
  (pacificTime.localNow t).map fun now => (now.date.year, now.date.month, now.date.day, now.utcoffset)

theorem exists_reading {t : ℤ} {year month day : ℕ} {utcoffset : ℤ}
    (h : readingAt t = some (year, month, day, utcoffset)) :
    ∃ now, pacificTime.localNow t = some now ∧ now.date.year = year ∧ now.date.month = month ∧
      now.utcoffset = utcoffset := by
  obtain ⟨now, hnow, h⟩ := Option.map_eq_some_iff.mp h
  obtain ⟨hyear, h⟩ := Prod.mk.inj h
  obtain ⟨hmonth, h⟩ := Prod.mk.inj h
  exact ⟨now, hnow, hyear, hmonth, (Prod.mk.inj h).2⟩

/-- March 7 at two in the afternoon. -/
theorem readingAt_march_7 : readingAt 1772920800000000 = some (2026, 3, 7, -28800) := by decide +kernel

/-- March 1 at noon. -/
theorem readingAt_march_1 : readingAt 1772395200000000 = some (2026, 3, 1, -28800) := by decide +kernel

/-- March 9, in the afternoon. -/
theorem readingAt_march_9 : readingAt 1773100000000000 = some (2026, 3, 9, -25200) := by decide +kernel

theorem normalizedPeriod_empty : normalizedPeriod (budgetPeriod []) = "monthly" := by decide +kernel

theorem same_entry_iff_march :
    ∃ now now', pacificTime.localNow 1772395200000000 = some now ∧ pacificTime.localNow 1772920800000000 = some now' ∧
      KeepsPeriods sampleEnv "openai" [] now now' := by
  obtain ⟨now, hnow, hyear, hmonth, -⟩ := exists_reading readingAt_march_1
  obtain ⟨now', hnow', -⟩ := exists_reading readingAt_march_7
  refine ⟨now, now', hnow, hnow', (same_entry_iff pacificTime sampleEnv "openai" [] hnow hnow').mpr fun _ => ?_⟩
  refine ⟨by decide, fun hweekly => ?_, fun _ => by omega⟩
  rw [normalizedPeriod_empty] at hweekly
  exact absurd hweekly (by decide)

/-- Two days after March 7 the clock was put forward, and the spend of March is not found any more. -/
theorem spend_lost_in_march :
    ¬∀ (zone : LocalZone) (env : BudgetEnv) (providerId : String) (settings : Dict) (t t' : ℤ)
      (now now' : AwareDatetime), zone.localNow t = some now → zone.localNow t' = some now' →
      KeepsPeriods env providerId settings now now' := by
  intro h
  obtain ⟨now, hnow, hyear, hmonth, hoffset⟩ := exists_reading readingAt_march_7
  obtain ⟨now', hnow', hyear', hmonth', hoffset'⟩ := exists_reading readingAt_march_9
  have hkeeps := h pacificTime sampleEnv "openai" [] _ _ now now' hnow hnow'
  have hsame : SamePeriod (normalizedPeriod (budgetPeriod [])) now.date now'.date := by
    refine ⟨fun hweekly => ?_, fun _ => ⟨hyear.trans hyear'.symm, hmonth.trans hmonth'.symm⟩⟩
    rw [normalizedPeriod_empty] at hweekly
    exact absurd hweekly (by decide)
  have hoffsets := (keepsPeriods_iff.mp hkeeps hsame).1
  rw [hoffset, hoffset'] at hoffsets
  exact absurd hoffsets (by decide)

end Budget
end HexeAiNode
