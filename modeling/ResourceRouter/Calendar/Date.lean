set_option autoImplicit false

/-!
Calendar dates and times of day, and which of them exist.
-/

namespace ResourceRouter.Calendar

/-- A moment as its fields; a layout without seconds leaves them at zero. -/
structure Fields where
  year : Int
  month : Nat
  day : Nat
  hour : Nat
  minute : Nat
  second : Nat
deriving DecidableEq, Repr

/-- The fields of no moment, to be filled in. -/
def Fields.blank : Fields := ⟨0, 0, 0, 0, 0, 0⟩

/-- Every fourth year, without the centuries that 400 does not divide. -/
def isLeap (year : Int) : Bool := year % 4 == 0 && (year % 100 != 0 || year % 400 == 0)

def daysIn (year : Int) (month : Nat) : Nat :=
  if month = 2 then if isLeap year then 29 else 28
  else if month = 4 || month = 6 || month = 9 || month = 11 then 30
  else 31

/-- The day exists, and its year is within the range of the calendar. -/
def Fields.isDate (fields : Fields) : Bool :=
  -262143 ≤ fields.year && fields.year ≤ 262142 && 1 ≤ fields.month && fields.month ≤ 12 &&
    1 ≤ fields.day && fields.day ≤ daysIn fields.year fields.month

/-- The time of day exists; a minute may have a sixty-first second. -/
def Fields.isTime (fields : Fields) : Bool :=
  fields.hour ≤ 23 && fields.minute ≤ 59 && fields.second ≤ 60

end ResourceRouter.Calendar
