import Mathlib.Tactic.Ring
/-!
# Dates with a time of day, and their RFC 3339 texts

`rfc3339` writes a date as RFC 3339 does, with the offset from UTC in whole minutes, and `ofRfc3339` reads what it
writes. `ofRfc3339_rfc3339`: a text that was written is read back, with the offset it was written with.
-/

/-! ## Digits -/

namespace Digits

def digitChar (n : Nat) : Char := Char.ofNat (48 + n)

def digit? (c : Char) : Option Nat := if 48 ≤ c.toNat ∧ c.toNat ≤ 57 then some (c.toNat - 48) else none

/-- The last `width` decimal digits of a number. -/
def write : Nat → Nat → List Char
  | 0, _ => []
  | width + 1, n => digitChar (n / 10 ^ width % 10) :: write width n

def readOnto : Nat → Nat → List Char → Option (Nat × List Char)
  | 0, n, cs => some (n, cs)
  | _ + 1, _, [] => none
  | width + 1, n, c :: cs => (digit? c).bind fun d => readOnto width (10 * n + d) cs

/-- Exactly `width` digits, and what follows them. -/
def read (width : Nat) (cs : List Char) : Option (Nat × List Char) := readOnto width 0 cs

theorem digit?_digitChar {n : Nat} (h : n < 10) : digit? (digitChar n) = some n := by
  have hall : ∀ m ∈ List.range 10, digit? (digitChar m) = some m := by decide
  exact hall n (List.mem_range.2 h)

theorem readOnto_write (width acc n : Nat) (rest : List Char) :
    readOnto width acc (write width n ++ rest) = some (acc * 10 ^ width + n % 10 ^ width, rest) := by
  induction width generalizing acc with
  | zero => simp [readOnto, write, Nat.mod_one]
  | succ width ih =>
    have hdigit : n / 10 ^ width % 10 < 10 := Nat.mod_lt _ (by decide)
    have hsplit : n % 10 ^ (width + 1) = 10 ^ width * (n / 10 ^ width % 10) + n % 10 ^ width := by
      rw [pow_succ, Nat.mod_mul, Nat.add_comm]
    simp only [write, List.cons_append, readOnto, digit?_digitChar hdigit, Option.bind_some, ih]
    congr 2
    rw [hsplit, pow_succ]
    ring

theorem read_write {width n : Nat} (h : n < 10 ^ width) (rest : List Char) :
    read width (write width n ++ rest) = some (n, rest) := by
  rw [read, readOnto_write, Nat.zero_mul, Nat.zero_add, Nat.mod_eq_of_lt h]

/-- What is no digit is not written. -/
theorem ne_of_mem_write {c : Char} (hc : digit? c = none) {width n : Nat} : ∀ x ∈ write width n, x ≠ c := by
  induction width with
  | zero => simp [write]
  | succ width ih =>
    intro x hx
    rcases List.mem_cons.1 hx with rfl | hx
    · intro heq
      have hdigit := digit?_digitChar (Nat.mod_lt (n / 10 ^ width) (show 0 < 10 by decide))
      rw [heq, hc] at hdigit
      cases hdigit
    · exact ih x hx

end Digits

/-! ## Dates -/

def isLeap (year : Nat) : Bool := year % 4 = 0 && (year % 100 ≠ 0 || year % 400 = 0)

def daysInMonth (year month : Nat) : Nat :=
  if month = 2 then if isLeap year then 29 else 28
  else if month ∈ [4, 6, 9, 11] then 30
  else 31

theorem daysInMonth_le (year month : Nat) : daysInMonth year month ≤ 31 := by
  simp only [daysInMonth]
  split <;> [split; split] <;> omega

/-- Microseconds. -/
def microsPerMinute : Int := 60000000
def microsPerDay : Int := 1440 * microsPerMinute

/-- A date and a time of day, with the offset from UTC in microseconds when it is known: Python's
`datetime`. -/
structure DateTime where
  year : Nat
  month : Nat
  day : Nat
  hour : Nat := 0
  minute : Nat := 0
  second : Nat := 0
  microsecond : Nat := 0
  offset : Option Int := none
  year_range : 1 ≤ year ∧ year ≤ 9999 := by decide
  month_range : 1 ≤ month ∧ month ≤ 12 := by decide
  day_range : 1 ≤ day ∧ day ≤ daysInMonth year month := by decide
  time_range : hour < 24 ∧ minute < 60 ∧ second < 60 ∧ microsecond < 1000000 := by decide
  offset_range : ∀ o ∈ offset, -microsPerDay < o ∧ o < microsPerDay := by decide
deriving DecidableEq, Repr

namespace DateTime

/-- The offset has no seconds, or is unknown. -/
def WholeMinutes (d : DateTime) : Prop := ∀ o ∈ d.offset, microsPerMinute ∣ o

instance (d : DateTime) : Decidable d.WholeMinutes := inferInstanceAs (Decidable (∀ o ∈ d.offset, microsPerMinute ∣ o))

/-- The constructor that checks its arguments. -/
def ofParts (date : Nat × Nat × Nat) (time : Nat × Nat × Nat × Nat) (offset : Option Int) : Option DateTime :=
  let (year, month, day) := date
  let (hour, minute, second, microsecond) := time
  if h : (1 ≤ year ∧ year ≤ 9999) ∧ (1 ≤ month ∧ month ≤ 12) ∧ (1 ≤ day ∧ day ≤ daysInMonth year month) ∧
      (hour < 24 ∧ minute < 60 ∧ second < 60 ∧ microsecond < 1000000) ∧
        ∀ o ∈ offset, -microsPerDay < o ∧ o < microsPerDay then
    some { year, month, day, hour, minute, second, microsecond, offset
           year_range := h.1, month_range := h.2.1, day_range := h.2.2.1, time_range := h.2.2.2.1
           offset_range := h.2.2.2.2 }
  else none

theorem ofParts_self (d : DateTime) :
    ofParts (d.year, d.month, d.day) (d.hour, d.minute, d.second, d.microsecond) d.offset = some d :=
  dif_pos ⟨d.year_range, d.month_range, d.day_range, d.time_range, d.offset_range⟩

/-! ## Writing -/

/-- An offset from UTC as RFC 3339 writes it. -/
structure Zone where
  negative : Bool
  hours : Fin 100
  minutes : Fin 100
deriving DecidableEq, Repr

/-- `±HH:MM`. -/
def Zone.text (z : Zone) : List Char :=
  (if z.negative then '-' else '+') :: (Digits.write 2 z.hours ++ ':' :: Digits.write 2 z.minutes)

def Zone.offset (z : Zone) : Int :=
  let minutes : Int := z.hours * 60 + z.minutes
  (if z.negative then -minutes else minutes) * microsPerMinute

/-- An offset of fewer than a hundred hours, in minutes. -/
def Zone.ofMinutes (minutes : Int) (h : minutes.natAbs < 6000) : Zone where
  negative := minutes < 0
  hours := ⟨minutes.natAbs / 60, by omega⟩
  minutes := ⟨minutes.natAbs % 60, by omega⟩

theorem Zone.offset_ofMinutes {minutes : Int} (h : minutes.natAbs < 6000) :
    (Zone.ofMinutes minutes h).offset = minutes * microsPerMinute := by
  simp only [Zone.offset, Zone.ofMinutes, decide_eq_true_eq]
  split <;> congr 1 <;> omega

def clockText (d : DateTime) : List Char :=
  Digits.write 2 d.hour ++ ':' :: (Digits.write 2 d.minute ++ ':' :: (Digits.write 2 d.second ++
    if d.microsecond = 0 then [] else '.' :: Digits.write 6 d.microsecond))

/-- The text of a date; `zone` is the offset it is written with. -/
def rfc3339 (d : DateTime) (zone : Option Zone) : List Char :=
  Digits.write 4 d.year ++ '-' :: (Digits.write 2 d.month ++ '-' :: (Digits.write 2 d.day ++ 'T' ::
    (d.clockText ++ (zone.map Zone.text).getD [])))

/-! ## Reading -/

/-- The rest after the one character. -/
def skip (c : Char) : List Char → Option (List Char)
  | [] => none
  | x :: cs => if x = c then some cs else none

/-- The fraction of a second, in six digits. -/
def readFraction : List Char → Option (Nat × List Char)
  | '.' :: cs => Digits.read 6 cs
  | cs => some (0, cs)

/-- `±HH:MM`, or nothing. -/
def readZone : List Char → Option (Option Int)
  | [] => some none
  | sign :: cs => do
    let (hours, cs) ← Digits.read 2 cs
    let (minutes, rest) ← Digits.read 2 (← skip ':' cs)
    let offset : Int := (hours * 60 + minutes) * microsPerMinute
    if rest ≠ [] then none
    else if sign = '+' then some (some offset)
    else if sign = '-' then some (some (-offset))
    else none

/-- `none` where the text is not of this format, or of no date. -/
def ofRfc3339 (cs : List Char) : Option DateTime := do
  let (year, cs) ← Digits.read 4 cs
  let (month, cs) ← Digits.read 2 (← skip '-' cs)
  let (day, cs) ← Digits.read 2 (← skip '-' cs)
  let (hour, cs) ← Digits.read 2 (← skip 'T' cs)
  let (minute, cs) ← Digits.read 2 (← skip ':' cs)
  let (second, cs) ← Digits.read 2 (← skip ':' cs)
  let (microsecond, cs) ← readFraction cs
  ofParts (year, month, day) (hour, minute, second, microsecond) (← readZone cs)

/-! ## What was written is read back -/

/-- The text of a time of day has digits, `:` and `.`. -/
theorem clockText_ne {c : Char} (hc : Digits.digit? c = none) (hsep : c ∉ [':', '.']) (d : DateTime) :
    ∀ x ∈ d.clockText, x ≠ c := by
  have hdigits : ∀ {width n : Nat}, ∀ x ∈ Digits.write width n, x ≠ c := Digits.ne_of_mem_write hc
  simp only [List.mem_cons, List.not_mem_nil, or_false, not_or] at hsep
  intro x hx
  simp only [clockText, List.mem_append, List.mem_cons] at hx
  rcases hx with hx | rfl | hx | rfl | hx | hx
  · exact hdigits x hx
  · exact Ne.symm hsep.1
  · exact hdigits x hx
  · exact Ne.symm hsep.1
  · exact hdigits x hx
  · split at hx
    · cases hx
    · rcases List.mem_cons.1 hx with rfl | hx
      · exact Ne.symm hsep.2
      · exact hdigits x hx

theorem Zone.text_ne {c : Char} (hc : Digits.digit? c = none) (hsep : c ∉ [':', '-', '+']) (z : Zone) :
    ∀ x ∈ z.text, x ≠ c := by
  have hdigits : ∀ {width n : Nat}, ∀ x ∈ Digits.write width n, x ≠ c := Digits.ne_of_mem_write hc
  simp only [List.mem_cons, List.not_mem_nil, or_false, not_or] at hsep
  intro x hx
  simp only [Zone.text, List.mem_append, List.mem_cons] at hx
  rcases hx with rfl | hx | rfl | hx
  · split
    · exact Ne.symm hsep.2.1
    · exact Ne.symm hsep.2.2
  · exact hdigits x hx
  · exact Ne.symm hsep.1
  · exact hdigits x hx

/-- The characters of the text of a date. -/
theorem rfc3339_ne {c : Char} (hc : Digits.digit? c = none) (hsep : c ∉ [':', '.', '-', '+', 'T'])
    (d : DateTime) (zone : Option Zone) : ∀ x ∈ d.rfc3339 zone, x ≠ c := by
  have hdigits : ∀ {width n : Nat}, ∀ x ∈ Digits.write width n, x ≠ c := Digits.ne_of_mem_write hc
  simp only [List.mem_cons, List.not_mem_nil, or_false, not_or] at hsep
  obtain ⟨hcolon, hdot, hdash, hplus, ht⟩ := hsep
  intro x hx
  simp only [rfc3339, List.mem_append, List.mem_cons] at hx
  rcases hx with hx | rfl | hx | rfl | hx | rfl | hx | hx
  · exact hdigits x hx
  · exact Ne.symm hdash
  · exact hdigits x hx
  · exact Ne.symm hdash
  · exact hdigits x hx
  · exact Ne.symm ht
  · exact clockText_ne hc (by simp [hcolon, hdot]) d x hx
  · cases zone with
    | none => cases hx
    | some z => exact Zone.text_ne hc (by simp [hcolon, hdash, hplus]) z x hx

@[simp] theorem skip_cons (c : Char) (cs : List Char) : skip c (c :: cs) = some cs := if_pos rfl

theorem readZone_text (zone : Option Zone) : readZone ((zone.map Zone.text).getD []) = some (zone.map Zone.offset) := by
  cases zone with
  | none => rfl
  | some z =>
    obtain ⟨negative, hours, minutes⟩ := z
    have hread := Digits.read_write (show minutes.val < 10 ^ 2 from minutes.2) []
    rw [List.append_nil] at hread
    cases negative with
    | false => simp [readZone, Zone.text, Zone.offset, Digits.read_write (show hours.val < 10 ^ 2 from hours.2), hread]
    | true =>
      simp [readZone, Zone.text, Zone.offset, Digits.read_write (show hours.val < 10 ^ 2 from hours.2), hread]
      ring

theorem head?_zone (zone : Option Zone) : ((zone.map Zone.text).getD []).head? ≠ some '.' := by
  cases zone with
  | none => simp
  | some z =>
    obtain ⟨negative, hours, minutes⟩ := z
    cases negative <;> simp [Zone.text]

theorem readFraction_write {n : Nat} (h : n < 10 ^ 6) (zone : Option Zone) :
    readFraction ((if n = 0 then [] else '.' :: Digits.write 6 n) ++ (zone.map Zone.text).getD []) =
      some (n, (zone.map Zone.text).getD []) := by
  split
  · next hzero =>
    have hhead := head?_zone zone
    rw [List.nil_append, hzero]
    unfold readFraction
    split
    · next hdot => simp [hdot] at hhead
    · rfl
  · exact Digits.read_write h _

/-- **Round trip.** The text of a date is read as the date with the offset that was written. -/
theorem ofRfc3339_rfc3339 (d : DateTime) (zone : Option Zone) :
    ofRfc3339 (d.rfc3339 zone) =
      ofParts (d.year, d.month, d.day) (d.hour, d.minute, d.second, d.microsecond) (zone.map Zone.offset) := by
  obtain ⟨hhour, hminute, hsecond, hmicro⟩ := d.time_range
  have hyear := d.year_range
  have hmonth := d.month_range
  have hday := d.day_range
  have hdays := daysInMonth_le d.year d.month
  simp only [ofRfc3339, rfc3339, clockText, List.append_assoc, List.cons_append, Option.bind_eq_bind, Option.bind_some,
    Digits.read_write (show d.year < 10 ^ 4 by omega), Digits.read_write (show d.month < 10 ^ 2 by omega),
    Digits.read_write (show d.day < 10 ^ 2 by omega), Digits.read_write (show d.hour < 10 ^ 2 by omega),
    Digits.read_write (show d.minute < 10 ^ 2 by omega), Digits.read_write (show d.second < 10 ^ 2 by omega), skip_cons,
    readFraction_write (show d.microsecond < 10 ^ 6 by omega), readZone_text]

/-- A date whose offset has no seconds is read back as it was. -/
theorem ofRfc3339_self (d : DateTime) {zone : Option Zone} (h : zone.map Zone.offset = d.offset) :
    ofRfc3339 (d.rfc3339 zone) = some d := by
  rw [ofRfc3339_rfc3339, h, ofParts_self]

/-- An offset that was written has whole minutes. -/
theorem wholeMinutes_of_ofRfc3339 {d e : DateTime} {zone : Option Zone} (h : ofRfc3339 (d.rfc3339 zone) = some e) :
    e.WholeMinutes := by
  rw [ofRfc3339_rfc3339] at h
  have hoffset : e.offset = zone.map Zone.offset := by
    simp only [ofParts] at h
    split at h
    · exact (congrArg DateTime.offset (Option.some.inj h)).symm
    · cases h
  intro o ho
  rw [hoffset, Option.mem_map] at ho
  obtain ⟨z, _, rfl⟩ := ho
  exact Dvd.intro_left _ rfl

end DateTime
