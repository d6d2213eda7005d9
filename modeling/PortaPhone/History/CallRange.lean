import PortaPhone.Contacts.Account
import PortaPhone.Lib.Calendar
/-!
# The range of the call history (`portaswitch/adapter.py`)

| here | there |
| --- | --- |
| `decodeCallHistoryDefaultWindowHours` | the validator of this name (`config.py:193`) |
| `callHistoryMinDate`, `callHistoryMaxDate` | the constants of these names (`adapter.py:182`, `:185`) |
| `callHistoryRange`, `callHistoryWindowStart`, `asNaiveUtc` | `_call_history_range` (`:1860`), `_call_history_window_start` (`:1914`), `_as_naive_utc` (`:1938`) |

The range is resolved for all bounds. It starts no earlier than the floor, rounded up to the second it is sent with.
-/

namespace PortaPhone.History

/-! ## The window -/

/-- A setting before it is checked. -/
inductive RawSetting
  | missing
  | text (s : String)
  | number (n : Int)
deriving DecidableEq, Repr

def defaultCallHistoryWindowHours : Nat := 24

def callHistoryMaxWindowHours : Nat := 100 * 365 * 24

/-- Zero means no window. -/
def decodeCallHistoryDefaultWindowHours (digit : Char → Option Nat) (v : RawSetting) : Nat :=
  let iv : Option Int := match v with
    | .missing => none
    | .text s => if Contacts.strip s = "" then none else Json.intLiteral digit (Contacts.strip s)
    | .number n => some n
  match iv with
  | none => defaultCallHistoryWindowHours
  | some iv => if iv < 0 then defaultCallHistoryWindowHours else min iv.toNat callHistoryMaxWindowHours

theorem decode_le (digit : Char → Option Nat) (v : RawSetting) :
    decodeCallHistoryDefaultWindowHours digit v ≤ callHistoryMaxWindowHours := by
  have hdefault : defaultCallHistoryWindowHours ≤ callHistoryMaxWindowHours := by decide
  simp only [decodeCallHistoryDefaultWindowHours]
  split
  · exact hdefault
  · split
    · exact hdefault
    · exact min_le_right _ _

/-! ## The range -/

def callHistoryMinDate : DateTime := .midnight 1970 1 1 (by decide)

def callHistoryMaxDate : DateTime := .midnight 9000 1 1 (by decide)

/-- `datetime.max.replace(microsecond=0)`. -/
def lastSecond : DateTime :=
  { DateTime.midnight 9999 12 31 (by decide) with hour := 23, minute := 59, second := 59, time_range := by decide }

def asNaiveUtc : Option DateTime → Except DateTime.Error (Option DateTime)
  | none => .ok none
  | some value =>
    match value.offset with
    | none => .ok (some value)
    | some offset =>
      match value.toUtc offset with
      | .ok utc => .ok (some utc.naive)
      | .error .overflow => .ok (some value.naive)
      | .error e => .error e

def callHistoryWindowStart (timeTo : DateTime) (windowHours : Nat) : Except DateTime.Error DateTime :=
  if windowHours = 0 then .ok callHistoryMinDate
  else do
    let window ← DateTime.hours windowHours
    if (← timeTo.sub callHistoryMinDate) ≤ window then return callHistoryMinDate
    timeTo.add (-window)

/-- The floor, rounded up to the second. -/
def roundUp (timeFloor : DateTime) : Except DateTime.Error DateTime := do
  if timeFloor.microsecond ≠ 0 then
    if ← timeFloor.before lastSecond then return ← timeFloor.wholeSecond.add 1000000
  return timeFloor

def callHistoryRange (now : DateTime) (windowHours : Nat) (timeFrom timeTo timeFloor : Option DateTime) :
    Except DateTime.Error (DateTime × DateTime) := do
  let timeFrom ← asNaiveUtc timeFrom
  let timeTo ← asNaiveUtc timeTo
  let timeTo := timeTo.getD (if windowHours ≠ 0 then now.naive else callHistoryMaxDate)
  let timeFrom ← match timeFrom with
    | some timeFrom => pure timeFrom
    | none => callHistoryWindowStart timeTo windowHours
  match ← asNaiveUtc timeFloor with
  | none => return (timeFrom, timeTo)
  | some timeFloor => return (← timeFrom.latest (← roundUp timeFloor), timeTo)

/-! ## Bounds in UTC -/

/-- The UTC value of a bound lies in the range of dates. -/
def InRange (value : DateTime) : Prop := 0 ≤ value.instant ∧ value.instant < DateTime.endOfTime

/-- What `asNaiveUtc` makes of a bound. -/
def naiveUtc (value : DateTime) : DateTime :=
  match value.offset with
  | none => value
  | some offset =>
    match value.toUtc offset with
    | .ok utc => utc.naive
    | .error _ => value.naive

theorem asNaiveUtc_eq (value : Option DateTime) : asNaiveUtc value = .ok (value.map naiveUtc) := by
  cases value with
  | none => rfl
  | some value =>
    rw [asNaiveUtc, Option.map_some, naiveUtc]
    cases value.offset with
    | none => rfl
    | some offset =>
      cases hutc : value.toUtc offset with
      | ok utc => simp [hutc]
      | error e =>
        obtain rfl := DateTime.toUtc_error hutc
        simp [hutc]

theorem naiveUtc_offset (value : DateTime) : (naiveUtc value).offset = none := by
  rw [naiveUtc]
  split
  · assumption
  · split <;> rfl

/-- Where the shift is in the range, the bound is kept. -/
theorem naiveUtc_wall {value : DateTime} (h : InRange value) : (naiveUtc value).wall = value.instant := by
  rw [naiveUtc]
  cases hoffset : value.offset with
  | none => exact (DateTime.instant_of_naive hoffset).symm
  | some offset =>
    have hinstant : value.instant = value.wall - offset := by rw [DateTime.instant, hoffset, Option.getD_some]
    rw [InRange, hinstant] at h
    obtain ⟨utc, hutc, hwall⟩ := DateTime.toUtc_ok h
    rw [hinstant]
    simp only [hutc]
    exact hwall

/-! ## The start -/

/-- The hours of a window in microseconds. -/
def windowMicros (windowHours : Nat) : Int := windowHours * 60 * microsPerMinute

theorem hours_ok {windowHours : Nat} (h : windowHours ≤ callHistoryMaxWindowHours) :
    DateTime.hours windowHours = .ok (windowMicros windowHours) := by
  have hmax : callHistoryMaxWindowHours = 876000 := rfl
  have hdays : windowMicros windowHours < 1000000000 * microsPerDay := by
    simp only [windowMicros, microsPerDay, microsPerMinute]
    omega
  exact DateTime.hours_of_lt hdays

/-- **The default window** ends at the end of the range and starts in 1970 at the earliest. -/
theorem callHistoryWindowStart_ok {timeTo : DateTime} {windowHours : Nat} (hnaive : timeTo.offset = none)
    (h : windowHours ≤ callHistoryMaxWindowHours) :
    ∃ start, callHistoryWindowStart timeTo windowHours = .ok start ∧ start.offset = none ∧
      start.wall = if windowHours = 0 then callHistoryMinDate.wall
        else max callHistoryMinDate.wall (timeTo.wall - windowMicros windowHours) := by
  by_cases hzero : windowHours = 0
  · exact ⟨callHistoryMinDate, if_pos hzero, rfl, (if_pos hzero).symm⟩
  · have hstart : callHistoryWindowStart timeTo windowHours =
        if timeTo.wall - callHistoryMinDate.wall ≤ windowMicros windowHours then .ok callHistoryMinDate
        else timeTo.add (-windowMicros windowHours) := by
      rw [callHistoryWindowStart, if_neg hzero, hours_ok h, DateTime.sub_naive hnaive rfl]
      rfl
    rw [hstart, if_neg hzero]
    by_cases hle : timeTo.wall - callHistoryMinDate.wall ≤ windowMicros windowHours
    · exact ⟨callHistoryMinDate, if_pos hle, rfl, (max_eq_left (by omega)).symm⟩
    · have hmin := callHistoryMinDate.wall_range
      have hto := timeTo.wall_range
      have hwindow : 0 ≤ windowMicros windowHours := by
        simp only [windowMicros, microsPerMinute]
        omega
      obtain ⟨start, hadd, hwall, hoffset⟩ : ∃ r, timeTo.add (-windowMicros windowHours) = .ok r ∧
          r.wall = timeTo.wall + -windowMicros windowHours ∧ r.offset = timeTo.offset :=
            DateTime.add_ok ⟨by omega, by omega⟩
      refine ⟨start, (if_neg hle).trans hadd, hoffset.trans hnaive, ?_⟩
      rw [hwall, max_eq_right (by omega)]
      rfl

/-- The first whole second that is not earlier. -/
def ceilSecond (n : Int) : Int := (n + 999999) / 1000000 * 1000000

theorem le_ceilSecond (n : Int) : n ≤ ceilSecond n := by
  unfold ceilSecond
  omega

/-- A floor in the last second of all has no second after it. -/
theorem roundUp_ok {timeFloor : DateTime} (hnaive : timeFloor.offset = none) :
    ∃ floor, roundUp timeFloor = .ok floor ∧ floor.offset = none ∧
      (timeFloor.wall < lastSecond.wall → floor.wall = ceilSecond timeFloor.wall) := by
  have hmicrosecond := timeFloor.microsecond_eq
  have hround : roundUp timeFloor =
      if timeFloor.microsecond ≠ 0 then
        if timeFloor.wall < lastSecond.wall then timeFloor.wholeSecond.add 1000000 else .ok timeFloor
      else .ok timeFloor := by
    rw [roundUp, DateTime.before_naive hnaive rfl]
    by_cases hlast : timeFloor.wall < lastSecond.wall
    · rw [decide_eq_true hlast, if_pos hlast]
      rfl
    · rw [decide_eq_false hlast, if_neg hlast]
      rfl
  rw [hround]
  by_cases hzero : timeFloor.microsecond = 0
  · refine ⟨timeFloor, if_neg (not_not.2 hzero), hnaive, fun _ => ?_⟩
    unfold ceilSecond
    omega
  · rw [if_pos hzero]
    by_cases hlast : timeFloor.wall < lastSecond.wall
    · have hwhole := timeFloor.wholeSecond_wall
      have hrange := timeFloor.wholeSecond.wall_range
      have hend : lastSecond.wall + 1000000 = DateTime.endOfTime := by decide
      have hseconds : lastSecond.wall % 1000000 = 0 := by decide
      obtain ⟨floor, hadd, hwall, hoffset⟩ : ∃ r, timeFloor.wholeSecond.add 1000000 = .ok r ∧
          r.wall = timeFloor.wholeSecond.wall + 1000000 ∧ r.offset = none := by
        rw [← hnaive]
        exact DateTime.add_ok ⟨by omega, by omega⟩
      refine ⟨floor, (if_pos hlast).trans hadd, hoffset, fun _ => ?_⟩
      rw [hwall, hwhole]
      unfold ceilSecond
      omega
    · exact ⟨timeFloor, if_neg hlast, hnaive, fun h => absurd h hlast⟩

/-! ## The range of a request -/

/-- The end of the range. -/
def endOf (now : DateTime) (windowHours : Nat) (timeTo : Option DateTime) : DateTime :=
  (timeTo.map naiveUtc).getD (if windowHours ≠ 0 then now.naive else callHistoryMaxDate)

section Range

variable {now : DateTime} {windowHours : Nat} {timeFrom timeTo : Option DateTime}

theorem endOf_offset : (endOf now windowHours timeTo).offset = none := by
  cases timeTo with
  | some timeTo => exact naiveUtc_offset timeTo
  | none =>
    show (if windowHours ≠ 0 then now.naive else callHistoryMaxDate).offset = none
    split <;> rfl

variable (now timeFrom timeTo) in
/-- The range without a floor. -/
theorem callHistoryRange_open (h : windowHours ≤ callHistoryMaxWindowHours) :
    ∃ start, callHistoryRange now windowHours timeFrom timeTo none = .ok (start, endOf now windowHours timeTo) ∧
      start.offset = none ∧ (∀ f ∈ timeFrom, start = naiveUtc f) ∧
        (timeFrom = none → start.wall = if windowHours = 0 then callHistoryMinDate.wall
          else max callHistoryMinDate.wall ((endOf now windowHours timeTo).wall - windowMicros windowHours)) := by
  simp only [callHistoryRange, asNaiveUtc_eq]
  cases timeFrom with
  | some timeFrom =>
    refine ⟨naiveUtc timeFrom, rfl, naiveUtc_offset timeFrom, fun f hf => ?_, fun hnone => absurd hnone (by simp)⟩
    rw [Option.mem_some.1 hf]
  | none =>
    have hnaive : (endOf now windowHours timeTo).offset = none := endOf_offset
    obtain ⟨start, hstart, hoffset, hwall⟩ := callHistoryWindowStart_ok hnaive h
    refine ⟨start, ?_, hoffset, fun f hf => absurd hf (by simp), fun _ => hwall⟩
    show (callHistoryWindowStart (endOf now windowHours timeTo) windowHours >>= _) = _
    rw [hstart]
    rfl

/-- The floor comes last. -/
theorem callHistoryRange_some (timeFloor : DateTime) :
    callHistoryRange now windowHours timeFrom timeTo (some timeFloor) =
      (callHistoryRange now windowHours timeFrom timeTo none >>= fun range => do
        return (← range.1.latest (← roundUp (naiveUtc timeFloor)), range.2)) := by
  simp only [callHistoryRange, asNaiveUtc_eq]
  cases timeFrom with
  | some timeFrom => rfl
  | none =>
    show (callHistoryWindowStart (endOf now windowHours timeTo) windowHours >>= _) =
      ((callHistoryWindowStart (endOf now windowHours timeTo) windowHours >>= _) >>= _)
    cases callHistoryWindowStart (endOf now windowHours timeTo) windowHours with
    | error e => rfl
    | ok start => rfl

/-- **The floor** only ever moves the start, and later. -/
theorem callHistoryRange_floor {start finish : DateTime}
    (h : callHistoryRange now windowHours timeFrom timeTo none = .ok (start, finish)) (hnaive : start.offset = none)
    (timeFloor : DateTime) :
    ∃ start', callHistoryRange now windowHours timeFrom timeTo (some timeFloor) = .ok (start', finish) ∧
      start'.offset = none ∧ start.wall ≤ start'.wall ∧
        (InRange timeFloor → timeFloor.instant < lastSecond.instant →
          start'.wall = max start.wall (ceilSecond timeFloor.instant)) := by
  obtain ⟨floor, hfloor, hoffset, hceil⟩ := roundUp_ok (naiveUtc_offset timeFloor)
  obtain ⟨start', hlatest, hoffset', hwall⟩ := DateTime.latest_naive hnaive hoffset
  refine ⟨start', ?_, hoffset', ?_, fun hrange hlast => ?_⟩
  · rw [callHistoryRange_some, h]
    show (roundUp (naiveUtc timeFloor) >>= fun floor => start.latest floor >>= _) = _
    rw [hfloor]
    show (start.latest floor >>= _) = _
    rw [hlatest]
    rfl
  · rw [hwall]
    exact le_max_left _ _
  · have hutc := naiveUtc_wall hrange
    rw [hwall, hceil (by rw [hutc]; exact hlast), hutc]

/-- A floor that can be rounded up to a second of the calendar. -/
structure Rounds (timeFloor : DateTime) : Prop where
  inRange : InRange timeFloor
  early : timeFloor.instant < lastSecond.instant

/-- A range is the one the bounds ask for: a bound is kept as an instant, a floor only ever moves the start, and
later. -/
structure Resolves (now : DateTime) (windowHours : Nat) (timeFrom timeTo timeFloor : Option DateTime)
    (start finish : DateTime) : Prop where
  naive : start.offset = none ∧ finish.offset = none
  to_kept : ∀ t ∈ timeTo, InRange t → finish.instant = t.instant
  to_default : timeTo = none → finish = if windowHours = 0 then callHistoryMaxDate else now.naive
  from_kept : ∀ f ∈ timeFrom, InRange f → timeFloor = none → start.instant = f.instant
  from_raised : ∀ f ∈ timeFrom, InRange f → ∀ m ∈ timeFloor, Rounds m →
    start.instant = max f.instant (ceilSecond m.instant)
  floor : ∀ m ∈ timeFloor, Rounds m → m.instant ≤ start.instant ∧ m.instant ≤ start.wholeSecond.instant
  narrows : ∃ start', callHistoryRange now windowHours timeFrom timeTo none = .ok (start', finish) ∧
    start'.instant ≤ start.instant
  window : timeFrom = none → timeFloor = none → start.instant = if windowHours = 0 then callHistoryMinDate.instant
    else max callHistoryMinDate.instant (finish.instant - windowMicros windowHours)

theorem endOf_instant : ∀ t ∈ timeTo, InRange t → (endOf now windowHours timeTo).instant = t.instant := by
  rintro t rfl hrange
  show (naiveUtc t).instant = t.instant
  rw [DateTime.instant_of_naive (naiveUtc_offset t), naiveUtc_wall hrange]

theorem endOf_none :
    timeTo = none → endOf now windowHours timeTo = if windowHours = 0 then callHistoryMaxDate else now.naive := by
  rintro rfl
  show (if windowHours ≠ 0 then now.naive else callHistoryMaxDate) = _
  by_cases hzero : windowHours = 0
  · rw [if_neg (not_not.2 hzero), if_pos hzero]
  · rw [if_pos hzero, if_neg hzero]

/-- A whole second that is not after the start is not after what is sent for it. -/
theorem ceilSecond_le_wholeSecond {start : DateTime} {n : Int} (h : ceilSecond n ≤ start.wall) :
    n ≤ start.wholeSecond.wall := by
  have hmicrosecond := start.microsecond_eq
  rw [start.wholeSecond_wall]
  unfold ceilSecond at h
  omega

variable (now timeFrom timeTo) in
/-- **The range is there for all bounds.** -/
theorem callHistoryRange_resolves (timeFloor : Option DateTime) (h : windowHours ≤ callHistoryMaxWindowHours) :
    ∃ start finish, callHistoryRange now windowHours timeFrom timeTo timeFloor = .ok (start, finish) ∧
      Resolves now windowHours timeFrom timeTo timeFloor start finish := by
  obtain ⟨start, hstart, hoffset, hfrom, hwindow⟩ := callHistoryRange_open now timeFrom timeTo h
  have hfinish : (endOf now windowHours timeTo).offset = none := endOf_offset
  have hfromInstant : ∀ f ∈ timeFrom, InRange f → start.wall = f.instant := by
    intro f hf hrange
    rw [hfrom f hf, naiveUtc_wall hrange]
  have hinstant := DateTime.instant_of_naive hoffset
  cases timeFloor with
  | none =>
    exact ⟨start, _, hstart, {
      naive := ⟨hoffset, hfinish⟩
      to_kept := endOf_instant
      to_default := endOf_none
      from_kept := fun f hf hrange _ => hinstant.trans (hfromInstant f hf hrange)
      from_raised := fun _ _ _ m hm => absurd hm (by simp)
      floor := fun m hm => absurd hm (by simp)
      narrows := ⟨start, hstart, le_refl _⟩
      window := fun hnone _ => by
        rw [hinstant, hwindow hnone, DateTime.instant_of_naive hfinish]
        rfl }⟩
  | some timeFloor =>
    obtain ⟨start', hstart', hoffset', hle, hmax⟩ := callHistoryRange_floor hstart hoffset timeFloor
    have hinstant' := DateTime.instant_of_naive hoffset'
    exact ⟨start', _, hstart', {
      naive := ⟨hoffset', hfinish⟩
      to_kept := endOf_instant
      to_default := endOf_none
      from_kept := fun _ _ _ hnone => absurd hnone (by simp)
      from_raised := by
        rintro f hf hrange m hm hrounds
        obtain rfl := Option.some.inj hm
        rw [hinstant', hmax hrounds.inRange hrounds.early, hfromInstant f hf hrange]
      floor := by
        rintro m hm hrounds
        obtain rfl := Option.some.inj hm
        have hceil : ceilSecond timeFloor.instant ≤ start'.wall := by
          rw [hmax hrounds.inRange hrounds.early]
          exact le_max_right _ _
        rw [hinstant', DateTime.instant_of_naive (show start'.wholeSecond.offset = none from hoffset')]
        exact ⟨(le_ceilSecond _).trans hceil, ceilSecond_le_wholeSecond hceil⟩
      narrows := ⟨start, hstart, by rw [hinstant, hinstant']; exact hle⟩
      window := fun _ hnone => absurd hnone (by simp) }⟩

end Range

end PortaPhone.History
