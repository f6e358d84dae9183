/-!
# Dates

A date of the proleptic Gregorian calendar, held as its distance in days from 1970-01-01. The
calendar starts on 1 January of the year -262143 and ends on 31 December of the year 262142.
`ofCivil?_civil` says that a date is read back from its year, month and day.
-/

namespace Courier

namespace Calendar

def isLeapYear (y : Int) : Bool := y % 4 == 0 && (y % 100 != 0 || y % 400 == 0)

/-- Days from 1 January of year 1 to 1 January of `y`. -/
def daysBeforeYear (y : Int) : Int := 365 * (y - 1) + (y - 1) / 4 - (y - 1) / 100 + (y - 1) / 400

def monthLengths (leap : Bool) : List Nat :=
  [31, if leap then 29 else 28, 31, 30, 31, 30, 31, 31, 30, 31, 30, 31]

/-- The distance from 1 January of year 1 to 1970-01-01. -/
def epochOffset : Int := 719162

/-- The year that holds the day at distance `n` from 1 January of year 1. -/
def yearOfDays (n : Int) : Int :=
  let guess := 400 * n / 146097 + 1
  if n < daysBeforeYear guess then guess - 1
  else if daysBeforeYear (guess + 1) ≤ n then guess + 1
  else guess

def daysIn : List Nat → Nat
  | [] => 0
  | len :: rest => len + daysIn rest

/-- Where the day at distance `n` from the start of a stretch of months falls: how many months lie
before it, and its distance from the start of its month. -/
def monthOfDays : List Nat → Nat → Nat × Nat
  | [], n => (0, n)
  | len :: rest, n =>
    if n < len then (0, n) else
      let (m, d) := monthOfDays rest (n - len)
      (m + 1, d)

end Calendar

open Calendar

structure Date where
  /-- Days since 1970-01-01. -/
  dayNumber : Int
  notBefore : -96465292 ≤ dayNumber
  notAfter : dayNumber ≤ 95026236
  deriving DecidableEq

namespace Date

def ofDayNumber? (n : Int) : Option Date :=
  if h : -96465292 ≤ n ∧ n ≤ 95026236 then some ⟨n, h.1, h.2⟩ else none

/-- -262143-01-01. -/
def first : Date := ⟨-96465292, by decide, by decide⟩

/-- +262142-12-31. -/
def last : Date := ⟨95026236, by decide, by decide⟩

def epoch : Date := ⟨0, by decide, by decide⟩

instance : Inhabited Date := ⟨epoch⟩

instance : LT Date := ⟨fun a b => a.dayNumber < b.dayNumber⟩

instance : LE Date := ⟨fun a b => a.dayNumber ≤ b.dayNumber⟩

instance : DecidableLT Date := fun a b => inferInstanceAs (Decidable (a.dayNumber < b.dayNumber))

instance : DecidableLE Date := fun a b => inferInstanceAs (Decidable (a.dayNumber ≤ b.dayNumber))

def shift? (d : Date) (n : Int) : Option Date := ofDayNumber? (d.dayNumber + n)

def next? (d : Date) : Option Date := d.shift? 1

/-- The date of a year, month and day of the month, if there is one. -/
def ofCivil? (year : Int) (month day : Nat) : Option Date :=
  match (monthLengths (isLeapYear year))[month - 1]? with
  | some len =>
    if 1 ≤ month ∧ 1 ≤ day ∧ day ≤ len then
      ofDayNumber? (daysBeforeYear year - epochOffset +
        (daysIn ((monthLengths (isLeapYear year)).take (month - 1)) + (day - 1) : Nat))
    else none
  | none => none

def year (d : Date) : Int := yearOfDays (d.dayNumber + epochOffset)

def dayOfYear (d : Date) : Nat := (d.dayNumber + epochOffset - daysBeforeYear d.year).toNat

def month (d : Date) : Nat := (monthOfDays (monthLengths (isLeapYear d.year)) d.dayOfYear).1 + 1

def day (d : Date) : Nat := (monthOfDays (monthLengths (isLeapYear d.year)) d.dayOfYear).2 + 1

@[ext] theorem ext {a b : Date} (h : a.dayNumber = b.dayNumber) : a = b := by
  cases a; cases b; cases h; rfl

theorem ofDayNumber?_dayNumber (d : Date) : ofDayNumber? d.dayNumber = some d := by
  simp [ofDayNumber?, d.notBefore, d.notAfter]

theorem dayNumber_of_ofDayNumber? {n : Int} {d : Date} (h : ofDayNumber? n = some d) :
    d.dayNumber = n := by
  unfold ofDayNumber? at h
  split at h
  · cases h; rfl
  · cases h

/-! ### Year, month and day determine the date -/

theorem daysBeforeYear_year (n : Int) :
    daysBeforeYear (yearOfDays n) ≤ n ∧ n < daysBeforeYear (yearOfDays n + 1) := by
  unfold yearOfDays daysBeforeYear
  dsimp only
  split
  · omega
  · split <;> omega

theorem daysBeforeYear_succ (y : Int) :
    daysBeforeYear (y + 1) = daysBeforeYear y + if isLeapYear y then 366 else 365 := by
  unfold daysBeforeYear isLeapYear
  by_cases h4 : y % 4 = 0 <;> by_cases h100 : y % 100 = 0 <;> by_cases h400 : y % 400 = 0 <;>
    simp [h4, h100, h400] <;> omega

theorem daysIn_monthLengths (leap : Bool) :
    daysIn (monthLengths leap) = if leap then 366 else 365 := by
  cases leap <;> rfl

theorem monthOfDays_spec (months : List Nat) (n : Nat) (h : n < daysIn months) :
    ∃ len, months[(monthOfDays months n).1]? = some len ∧ (monthOfDays months n).2 < len ∧
      daysIn (months.take (monthOfDays months n).1) + (monthOfDays months n).2 = n := by
  induction months generalizing n with
  | nil => exact absurd h (Nat.not_lt_zero n)
  | cons len rest ih =>
    rw [monthOfDays]
    split
    · next hn => exact ⟨len, by simp, hn, Nat.zero_add n⟩
    · next hn =>
      rw [daysIn] at h
      obtain ⟨l, hl, hd, hs⟩ := ih (n - len) (by omega)
      refine ⟨l, by simpa using hl, hd, ?_⟩
      simp only [List.take_succ_cons, daysIn]
      omega

theorem dayOfYear_lt (d : Date) : d.dayOfYear < daysIn (monthLengths (isLeapYear d.year)) := by
  have h := daysBeforeYear_year (d.dayNumber + epochOffset)
  rw [daysBeforeYear_succ] at h
  rw [daysIn_monthLengths, dayOfYear]
  simp only [year] at h ⊢
  split at h <;> simp_all <;> omega

theorem ofCivil?_civil (d : Date) : ofCivil? d.year d.month d.day = some d := by
  obtain ⟨len, hl, hd, hs⟩ := monthOfDays_spec _ _ d.dayOfYear_lt
  have hy := daysBeforeYear_year (d.dayNumber + epochOffset)
  simp only [ofCivil?, month, day, Nat.add_sub_cancel, hl]
  rw [if_pos ⟨by omega, by omega, by omega⟩, hs, dayOfYear]
  have : daysBeforeYear d.year - epochOffset +
      ((d.dayNumber + epochOffset - daysBeforeYear d.year).toNat : Int) = d.dayNumber := by
    have := hy.1
    simp only [year] at this ⊢
    omega
  rw [this, ofDayNumber?_dayNumber]

end Date

end Courier
