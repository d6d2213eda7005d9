import PortaPhone.Lib.IsoDateTime
/-!
# Arithmetic of dates

A date is also a number of microseconds on its wall clock, counted from the first of January of year 1: `wall`. `ofWall`
is the date of such a number, for the numbers below `endOfTime`. The operations are those of Python's `datetime`, with
the errors they raise.
-/

def daysInYear (year : Nat) : Nat := if isLeap year then 366 else 365

namespace DateTime

/-! ## Days -/

/-- `_days_before_year`. -/
def daysBeforeYear (year : Nat) : Nat :=
  let y := year - 1
  365 * y + y / 4 - y / 100 + y / 400

/-- `_days_before_month`. -/
def daysBeforeMonth (year : Nat) : Nat → Nat
  | month + 2 => daysBeforeMonth year (month + 1) + daysInMonth year (month + 1)
  | _ => 0

/-- `_ymd2ord`: the first of January of year 1 is day 1. -/
def toOrdinal (year month day : Nat) : Nat := daysBeforeYear year + daysBeforeMonth year month + day

/-- The first day of month `month` or a later one is day `n` (from 0) of what is left of the year. -/
def monthDay (year : Nat) : Nat → Nat → Nat → Nat × Nat
  | 0, month, n => (month, n + 1)
  | fuel + 1, month, n =>
    if n < daysInMonth year month then (month, n + 1) else monthDay year fuel (month + 1) (n - daysInMonth year month)

/-- `_ord2ymd`: the day `n` by the cycles of 400, 100, 4 and 1 years before it. -/
def ofOrdinal (n : Nat) : Nat × Nat × Nat :=
  let n400 := (n - 1) / 146097
  let n100 := (n - 1) % 146097 / 36524
  let n4 := (n - 1) % 146097 % 36524 / 1461
  let n1 := (n - 1) % 146097 % 36524 % 1461 / 365
  let year := 400 * n400 + 100 * n100 + 4 * n4 + n1 + 1
  -- the last day of a cycle of 4 or 400 years
  if n1 = 4 ∨ n100 = 4 then (year - 1, 12, 31)
  else (year, monthDay year 12 1 ((n - 1) % 146097 % 36524 % 1461 % 365))

theorem daysBeforeMonth_succ {month : Nat} (year : Nat) (h : 1 ≤ month) :
    daysBeforeMonth year (month + 1) = daysBeforeMonth year month + daysInMonth year month := by
  obtain ⟨m, rfl⟩ := Nat.exists_eq_add_of_le' h
  rfl

theorem daysBeforeMonth_mono (year : Nat) {month : Nat} (h : 1 ≤ month) (n : Nat) :
    daysBeforeMonth year month ≤ daysBeforeMonth year (month + n) := by
  induction n with
  | zero => exact Nat.le_refl _
  | succ n ih =>
    rw [← Nat.add_assoc, daysBeforeMonth_succ year (by omega)]
    omega

/-- The twelve months are the year. -/
theorem daysBeforeMonth_year (year : Nat) : daysBeforeMonth year 13 = daysInYear year := by
  cases hleap : isLeap year with
  | true => simp [daysBeforeMonth, daysInMonth, daysInYear, hleap]
  | false => simp [daysBeforeMonth, daysInMonth, daysInYear, hleap]

theorem daysBeforeYear_succ {year : Nat} (h : 1 ≤ year) :
    daysBeforeYear (year + 1) = daysBeforeYear year + daysInYear year := by
  obtain ⟨y, rfl⟩ := Nat.exists_eq_add_of_le' h
  have hcentury := Nat.div_le_self y 100
  simp only [daysBeforeYear, daysInYear, isLeap, Bool.and_eq_true, Bool.or_eq_true,
    decide_eq_true_eq, Nat.add_sub_cancel,
    Nat.succ_div, Nat.dvd_iff_mod_eq_zero]
  -- a year of 400 is one of 100, and that is one of 4
  by_cases h4 : (y + 1) % 4 = 0
  · by_cases h100 : (y + 1) % 100 = 0
    · by_cases h400 : (y + 1) % 400 = 0
      · simp only [h4, h100, h400, if_true, ne_eq, not_true_eq_false, or_true, and_self]
        omega
      · simp only [h4, h100, h400, if_true, if_false, ne_eq, not_true_eq_false, or_self, and_false]
        omega
    · have h400 : (y + 1) % 400 ≠ 0 := by omega
      simp only [h4, h100, h400, if_true, if_false, ne_eq, not_false_eq_true, true_or, and_self]
      omega
  · have h100 : (y + 1) % 100 ≠ 0 := by omega
    have h400 : (y + 1) % 400 ≠ 0 := by omega
    simp only [h4, h100, h400, if_false, false_and]
    omega

/-- A day of month `month` or of a later one. -/
theorem monthDay_spec (year : Nat) : ∀ fuel month n, 1 ≤ month →
    daysBeforeMonth year month + n < daysBeforeMonth year (month + fuel) →
      let date := monthDay year fuel month n
      month ≤ date.1 ∧ date.1 < month + fuel ∧ 1 ≤ date.2 ∧ date.2 ≤ daysInMonth year date.1 ∧
        daysBeforeMonth year date.1 + date.2 = daysBeforeMonth year month + n + 1 := by
  intro fuel
  induction fuel with
  | zero =>
    intro month n _ h
    rw [Nat.add_zero] at h
    omega
  | succ fuel ih =>
    intro month n hmonth h
    have hsucc := daysBeforeMonth_succ year hmonth
    by_cases hn : n < daysInMonth year month
    · simp only [monthDay, if_pos hn]
      omega
    · simp only [monthDay, if_neg hn]
      rw [show month + (fuel + 1) = month + 1 + fuel by omega] at h
      obtain ⟨hlow, hhigh, hday, hlast, hsum⟩ := ih (month + 1) (n - daysInMonth year month) (by omega) (by omega)
      exact ⟨by omega, by omega, hday, hlast, by omega⟩

/-- A date of the calendar, up to the year 9999. -/
structure IsDate (date : Nat × Nat × Nat) : Prop where
  year : 1 ≤ date.1 ∧ date.1 ≤ 9999
  month : 1 ≤ date.2.1 ∧ date.2.1 ≤ 12
  day : 1 ≤ date.2.2 ∧ date.2.2 ≤ daysInMonth date.1 date.2.1

instance (date : Nat × Nat × Nat) : Decidable (IsDate date) :=
  decidable_of_iff ((1 ≤ date.1 ∧ date.1 ≤ 9999) ∧ (1 ≤ date.2.1 ∧ date.2.1 ≤ 12) ∧
    1 ≤ date.2.2 ∧ date.2.2 ≤ daysInMonth date.1 date.2.1)
    ⟨fun h => ⟨h.1, h.2.1, h.2.2⟩, fun h => ⟨h.year, h.month, h.day⟩⟩

theorem isDate (d : DateTime) : IsDate (d.year, d.month, d.day) := ⟨d.year_range, d.month_range, d.day_range⟩

/-- The last day is `datetime.max.toordinal()`. -/
def maxOrdinal : Nat := 3652059

/-- No day of a month is past its year. -/
theorem daysBeforeMonth_le {year month day : Nat} (hmonth : 1 ≤ month ∧ month ≤ 12)
    (hday : day ≤ daysInMonth year month) :
    daysBeforeMonth year month + day ≤ daysInYear year := by
  have hsucc := daysBeforeMonth_succ year hmonth.1
  have hmono := daysBeforeMonth_mono year (show 1 ≤ month + 1 by omega) (12 - month)
  rw [show month + 1 + (12 - month) = 13 by omega, daysBeforeMonth_year] at hmono
  omega

theorem daysBeforeYear_le {year : Nat} (h : year ≤ 10000) : daysBeforeYear year ≤ maxOrdinal := by
  simp only [daysBeforeYear, maxOrdinal]
  omega

theorem toOrdinal_range {year month day : Nat} (h : IsDate (year, month, day)) :
    1 ≤ toOrdinal year month day ∧ toOrdinal year month day ≤ maxOrdinal := by
  have hyear := daysBeforeYear_succ h.year.1
  have hmonth := daysBeforeMonth_le h.month h.day.2
  have hlast := daysBeforeYear_le (show year + 1 ≤ 10000 from Nat.succ_le_succ h.year.2)
  have hday := h.day.1
  simp only at hyear hmonth hday
  rw [toOrdinal]
  omega

/-- The day `n` of a year that has it. -/
theorem isDate_of_yearDay (year n : Nat) (hyear : 1 ≤ year ∧ year ≤ 9999) (hn : n < daysInYear year) :
    IsDate (year, monthDay year 12 1 n) ∧
      toOrdinal year (monthDay year 12 1 n).1 (monthDay year 12 1 n).2 = daysBeforeYear year + n + 1 := by
  have hbefore : daysBeforeMonth year 1 + n < daysBeforeMonth year (1 + 12) := by
    rw [daysBeforeMonth_year]
    simpa [daysBeforeMonth] using hn
  obtain ⟨hlow, hhigh, hday, hlast, hsum⟩ := monthDay_spec year 12 1 n (Nat.le_refl 1) hbefore
  have hmonth : (monthDay year 12 1 n).1 ≤ 12 := Nat.le_of_lt_succ hhigh
  refine ⟨⟨hyear, ⟨hlow, hmonth⟩, hday, hlast⟩, ?_⟩
  have hfirst : daysBeforeMonth year 1 = 0 := rfl
  simp only [toOrdinal]
  omega

theorem isDate_lastDay (year : Nat) (h : 1 ≤ year ∧ year ≤ 9999) :
    IsDate (year, 12, 31) ∧ toOrdinal year 12 31 = daysBeforeYear (year + 1) := by
  have hmonths := daysBeforeMonth_year year
  have hdecember : daysInMonth year 12 = 31 := rfl
  rw [daysBeforeMonth_succ year (by omega), hdecember] at hmonths
  refine ⟨⟨h, ⟨show 1 ≤ 12 by decide, Nat.le_refl 12⟩, show 1 ≤ 31 by decide, ?_⟩, ?_⟩
  · rw [hdecember]
  · rw [daysBeforeYear_succ h.1, toOrdinal]
    omega

/-- The days before a year, by the cycles that it has. -/
theorem daysBeforeYear_cycles (n400 : Nat) {n100 n4 n1 : Nat} (h100 : n100 ≤ 3) (h4 : n4 ≤ 24) (h1 : n1 ≤ 3) :
    daysBeforeYear (400 * n400 + 100 * n100 + 4 * n4 + n1 + 1) =
      146097 * n400 + 36524 * n100 + 1461 * n4 + 365 * n1 := by
  have hfours : (400 * n400 + 100 * n100 + 4 * n4 + n1) / 4 = 100 * n400 + 25 * n100 + n4 := by omega
  have hcenturies : (400 * n400 + 100 * n100 + 4 * n4 + n1) / 100 = 4 * n400 + n100 := by omega
  have hcycles : (400 * n400 + 100 * n100 + 4 * n4 + n1) / 400 = n400 := by omega
  simp only [daysBeforeYear, Nat.add_sub_cancel, hfours, hcenturies, hcycles]
  omega

/-- **The date of a day has that day.** -/
theorem ofOrdinal_spec {n : Nat} (h : 1 ≤ n ∧ n ≤ maxOrdinal) :
    IsDate (ofOrdinal n) ∧ toOrdinal (ofOrdinal n).1 (ofOrdinal n).2.1 (ofOrdinal n).2.2 = n := by
  obtain ⟨hfirst, hlast⟩ := h
  simp only [maxOrdinal] at hlast
  simp only [ofOrdinal]
  generalize hn400 : (n - 1) / 146097 = n400
  generalize hr400 : (n - 1) % 146097 = r400
  generalize hn100 : r400 / 36524 = n100
  generalize hr100 : r400 % 36524 = r100
  generalize hn4 : r100 / 1461 = n4
  generalize hr4 : r100 % 1461 = r4
  generalize hn1 : r4 / 365 = n1
  generalize hr1 : r4 % 365 = r1
  have hn4le : n4 ≤ 24 := by omega
  have hsum : n - 1 = 146097 * n400 + 36524 * n100 + 1461 * n4 + 365 * n1 + r1 := by omega
  split
  · rename_i hcycle
    rw [Nat.add_sub_cancel]
    have hnext : daysBeforeYear (400 * n400 + 100 * n100 + 4 * n4 + n1 + 1) = n := by
      rcases hcycle with rfl | rfl
      · have hnext := daysBeforeYear_cycles n400 (show n100 ≤ 3 by omega) (show n4 + 1 ≤ 24 by omega) (Nat.zero_le 3)
        rw [show 400 * n400 + 100 * n100 + 4 * n4 + 4 = 400 * n400 + 100 * n100 + 4 * (n4 + 1) + 0 by omega, hnext]
        omega
      · have hnext := daysBeforeYear_cycles (n400 + 1) (Nat.zero_le 3) (Nat.zero_le 24) (Nat.zero_le 3)
        rw [show 400 * n400 + 100 * 4 + 4 * n4 + n1 = 400 * (n400 + 1) + 100 * 0 + 4 * 0 + 0 by omega, hnext]
        omega
    obtain ⟨hdate, hordinal⟩ := isDate_lastDay (400 * n400 + 100 * n100 + 4 * n4 + n1) (by omega)
    exact ⟨hdate, hordinal.trans hnext⟩
  · rename_i hcycle
    rw [not_or] at hcycle
    have hyear := daysBeforeYear_cycles n400 (show n100 ≤ 3 by omega) hn4le (show n1 ≤ 3 by omega)
    have hshort : 365 ≤ daysInYear (400 * n400 + 100 * n100 + 4 * n4 + n1 + 1) := by
      rw [daysInYear]
      split <;> omega
    obtain ⟨hdate, hordinal⟩ := isDate_of_yearDay (400 * n400 + 100 * n100 + 4 * n4 + n1 + 1) r1 (by omega)
      (by omega)
    exact ⟨hdate, hordinal.trans (by omega)⟩

/-! ## Microseconds -/

/-- The microseconds since the first of January of year 1, on the clock that shows the date. -/
def wall (d : DateTime) : Int :=
  (toOrdinal d.year d.month d.day - 1) * microsPerDay +
    (((d.hour * 60 + d.minute) * 60 + d.second) * 1000000 + d.microsecond)

/-- The number after that of `datetime.max`. -/
def endOfTime : Int := maxOrdinal * microsPerDay

/-- The date of a number; none where the date value is out of range. -/
def ofWall (n : Int) : Option DateTime :=
  if 0 ≤ n ∧ n < endOfTime then
    let clock := (n % microsPerDay).toNat
    ofParts (ofOrdinal ((n / microsPerDay).toNat + 1))
      (clock / 3600000000, clock / 60000000 % 60, clock / 1000000 % 60, clock % 1000000) none
  else none

theorem wall_range (d : DateTime) : 0 ≤ d.wall ∧ d.wall < endOfTime := by
  obtain ⟨hfirst, hlast⟩ := toOrdinal_range d.isDate
  obtain ⟨hhour, hminute, hsecond, hmicrosecond⟩ := d.time_range
  simp only [maxOrdinal] at hlast
  simp only [wall, endOfTime, maxOrdinal, microsPerDay, microsPerMinute]
  constructor
  · omega
  · omega

/-- **Every number below the end is that of a date.** -/
theorem ofWall_some {n : Int} (h : 0 ≤ n ∧ n < endOfTime) : ∃ d, ofWall n = some d ∧ d.wall = n ∧ d.offset = none := by
  have hday : 1 ≤ (n / microsPerDay).toNat + 1 ∧ (n / microsPerDay).toNat + 1 ≤ maxOrdinal := by
    simp only [endOfTime, maxOrdinal, microsPerDay, microsPerMinute] at h
    simp only [maxOrdinal, microsPerDay, microsPerMinute]
    omega
  obtain ⟨hdate, hordinal⟩ := ofOrdinal_spec hday
  generalize hdateOf : ofOrdinal ((n / microsPerDay).toNat + 1) = date at hdate hordinal
  obtain ⟨year, month, day⟩ := date
  generalize hclock : (n % microsPerDay).toNat = clock
  have htime : clock < 86400000000 := by
    simp only [microsPerDay, microsPerMinute] at hclock
    omega
  let d : DateTime := {
    year, month, day
    hour := clock / 3600000000
    minute := clock / 60000000 % 60
    second := clock / 1000000 % 60
    microsecond := clock % 1000000
    offset := none
    year_range := hdate.year
    month_range := hdate.month
    day_range := hdate.day
    time_range := by omega
    offset_range := by simp }
  refine ⟨d, ?_, ?_, rfl⟩
  · have hparts := ofParts_self d
    rw [ofWall, if_pos h]
    simp only [hdateOf, hclock]
    exact hparts
  · show (toOrdinal year month day - 1 : Int) * microsPerDay + _ = n
    simp only at hordinal
    rw [hordinal]
    simp only [microsPerDay, microsPerMinute] at hclock ⊢
    show _ +
        ((((clock / 3600000000 : Nat) * 60 + (clock / 60000000 % 60 : Nat)) * 60 +
        (clock / 1000000 % 60 : Nat)) * 1000000 +
      (clock % 1000000 : Nat) : Int) = n
    simp only [endOfTime, microsPerDay, microsPerMinute] at h
    omega

/-! ## Time zones -/

/-- `OverflowError` and `TypeError`. -/
inductive Error
  | overflow
  | type
deriving DecidableEq, Repr

/-- `datetime(year, month, day)`. -/
def midnight (year month day : Nat) (h : IsDate (year, month, day)) : DateTime where
  year
  month
  day
  year_range := h.year
  month_range := h.month
  day_range := h.day

/-- The microseconds in UTC; a date without an offset is one in UTC. -/
def instant (d : DateTime) : Int := d.wall - d.offset.getD 0

/-- `d.replace(tzinfo=None)`. -/
def naive (d : DateTime) : DateTime := { d with offset := none, offset_range := by simp }

/-- `d.replace(tzinfo=UTC)`. -/
def inUtc (d : DateTime) : DateTime := { d with offset := some 0, offset_range := by decide }

/-- `d.replace(microsecond=0)`. -/
def wholeSecond (d : DateTime) : DateTime :=
  { d with microsecond := 0, time_range := ⟨d.time_range.1, d.time_range.2.1, d.time_range.2.2.1, by decide⟩ }

/-- `d + delta`. -/
def add (d : DateTime) (delta : Int) : Except Error DateTime :=
  match ofWall (d.wall + delta) with
  | some r => .ok { r with offset := d.offset, offset_range := d.offset_range }
  | none => .error .overflow

/-- `d.astimezone(UTC)` of a date with this offset. -/
def toUtc (d : DateTime) (offset : Int) : Except Error DateTime := do return (← d.add (-offset)).inUtc

/-- `a - b`: a date with an offset and one without are not compared. -/
def sub (a b : DateTime) : Except Error Int :=
  if a.offset.isSome = b.offset.isSome then .ok (a.instant - b.instant) else .error .type

/-- `a < b`. -/
def before (a b : DateTime) : Except Error Bool := do return decide ((← a.sub b) < 0)

/-- `a <= b`. -/
def notAfter (a b : DateTime) : Except Error Bool := do return decide ((← a.sub b) ≤ 0)

/-- `max(a, b)`. -/
def latest (a b : DateTime) : Except Error DateTime := do return if ← a.before b then b else a

/-- `timedelta(hours=n)`: at most 999999999 days. -/
def hours (n : Nat) : Except Error Int :=
  if n * 60 * microsPerMinute < 1000000000 * microsPerDay then .ok (n * 60 * microsPerMinute) else .error .overflow

theorem hours_of_lt {n : Nat} (h : n * 60 * microsPerMinute < 1000000000 * microsPerDay) :
    hours n = .ok (n * 60 * microsPerMinute) := if_pos h

@[simp] theorem naive_wall (d : DateTime) : d.naive.wall = d.wall := rfl

theorem wholeSecond_wall (d : DateTime) : d.wholeSecond.wall = d.wall - d.microsecond := by
  simp only [wall, wholeSecond]
  omega

theorem instant_of_naive {d : DateTime} (h : d.offset = none) : d.instant = d.wall := by
  rw [instant, h]
  exact sub_zero _

/-- The microsecond is what is left of the seconds. -/
theorem microsecond_eq (d : DateTime) : (d.microsecond : Int) = d.wall % 1000000 := by
  have hmicrosecond := d.time_range.2.2.2
  simp only [wall, microsPerDay, microsPerMinute]
  omega

/-- The sum is there if it is in the range. -/
theorem add_ok {d : DateTime} {delta : Int} (h : 0 ≤ d.wall + delta ∧ d.wall + delta < endOfTime) :
    ∃ r, d.add delta = .ok r ∧ r.wall = d.wall + delta ∧ r.offset = d.offset := by
  obtain ⟨r, hr, hwall, -⟩ := ofWall_some h
  rw [add, hr]
  exact ⟨_, rfl, hwall, rfl⟩

theorem toUtc_ok {d : DateTime} {offset : Int} (h : 0 ≤ d.wall - offset ∧ d.wall - offset < endOfTime) :
    ∃ r, d.toUtc offset = .ok r ∧ r.wall = d.wall - offset := by
  have hadd : ∃ r, d.add (-offset) = .ok r ∧ r.wall = d.wall + -offset ∧ r.offset = d.offset := add_ok h
  obtain ⟨r, hr, hwall, -⟩ := hadd
  rw [toUtc, hr]
  exact ⟨_, rfl, hwall⟩

/-- The only error of a conversion. -/
theorem toUtc_error {d : DateTime} {offset : Int} {e : Error} (h : d.toUtc offset = .error e) : e = .overflow := by
  rw [toUtc, add] at h
  cases hr : ofWall (d.wall + -offset) with
  | none =>
    rw [hr] at h
    exact (Except.error.inj h).symm
  | some r =>
    rw [hr] at h
    cases h

section Naive

variable {a b : DateTime} (ha : a.offset = none) (hb : b.offset = none)
include ha hb

theorem sub_naive : a.sub b = .ok (a.wall - b.wall) := by
  rw [sub, if_pos (by rw [ha, hb]), instant_of_naive ha, instant_of_naive hb]

theorem before_naive : a.before b = .ok (decide (a.wall < b.wall)) := by
  rw [before, sub_naive ha hb]
  exact congrArg Except.ok (decide_eq_decide.2 sub_neg)

theorem notAfter_naive : a.notAfter b = .ok (decide (a.wall ≤ b.wall)) := by
  rw [notAfter, sub_naive ha hb]
  exact congrArg Except.ok (decide_eq_decide.2 sub_nonpos)

theorem latest_naive : ∃ r, a.latest b = .ok r ∧ r.offset = none ∧ r.wall = max a.wall b.wall := by
  rw [latest, before_naive ha hb]
  by_cases hlt : a.wall < b.wall
  · exact ⟨b, by simp [hlt], hb, (max_eq_right (le_of_lt hlt)).symm⟩
  · exact ⟨a, by simp [hlt], ha, (max_eq_left (not_lt.1 hlt)).symm⟩

end Naive

/-! ## Texts to the second -/

/-- `d.strftime("%Y-%m-%d %H:%M:%S")`; the platform pads a year before 1000 or not. -/
def strftime (yearText : Nat → List Char) (d : DateTime) : List Char :=
  yearText d.year ++ '-' :: (Digits.write 2 d.month ++ '-' :: (Digits.write 2 d.day ++ ' ' ::
    (Digits.write 2 d.hour ++ ':' :: (Digits.write 2 d.minute ++ ':' :: Digits.write 2 d.second))))

theorem write_inj {m n : Nat} (hm : m < 100) (hn : n < 100) (h : Digits.write 2 m = Digits.write 2 n) : m = n := by
  have hread : Digits.read 2 (Digits.write 2 m ++ []) = some (m, []) := Digits.read_write hm []
  have hread' : Digits.read 2 (Digits.write 2 n ++ []) = some (n, []) := Digits.read_write hn []
  rw [h, hread'] at hread
  exact (Prod.mk.inj (Option.some.inj hread)).1.symm

/-- Two digits and a character before the rest of a text. -/
theorem write_cons_inj {m n : Nat} {c : Char} {as bs : List Char} (hm : m < 100) (hn : n < 100)
    (h : Digits.write 2 m ++ c :: as = Digits.write 2 n ++ c :: bs) : m = n ∧ as = bs := by
  obtain ⟨hdigits, hrest⟩ := List.append_inj h rfl
  exact ⟨write_inj hm hn hdigits, (List.cons.inj hrest).2⟩

/-- Where every year has its own text, the text tells the second. -/
theorem strftime_inj {yearText : Nat → List Char} (hyear : Function.Injective yearText) {a b : DateTime}
    (h : a.strftime yearText = b.strftime yearText) : a.naive.wholeSecond = b.naive.wholeSecond := by
  have htwo : ∀ d : DateTime, d.month < 100 ∧ d.day < 100 ∧ d.hour < 100 ∧ d.minute < 100 ∧ d.second < 100 := by
    intro d
    have hmonth := d.month_range
    have hday := d.day_range
    have htime := d.time_range
    have hlast := daysInMonth_le d.year d.month
    omega
  obtain ⟨hamonth, haday, hahour, haminute, hasecond⟩ := htwo a
  obtain ⟨hbmonth, hbday, hbhour, hbminute, hbsecond⟩ := htwo b
  obtain ⟨hyears, hrest⟩ := List.append_inj' h rfl
  obtain ⟨hmonth, hrest⟩ := write_cons_inj hamonth hbmonth (List.cons.inj hrest).2
  obtain ⟨hday, hrest⟩ := write_cons_inj haday hbday hrest
  obtain ⟨hhour, hrest⟩ := write_cons_inj hahour hbhour hrest
  obtain ⟨hminute, hsecond⟩ := write_cons_inj haminute hbminute hrest
  have hyear := hyear hyears
  have hsecond := write_inj hasecond hbsecond hsecond
  simp only [naive, wholeSecond, mk.injEq]
  exact ⟨hyear, hmonth, hday, hhour, hminute, hsecond, trivial, trivial⟩

end DateTime
