import Highlight.Number.Digits

/-!
# TOML dates and times

A moment is a date, a time, or both, and then it may have an offset. Dates are
those of the calendar; a minute may have a leap second.
-/

namespace Highlight

set_option autoImplicit false

namespace Toml

/-- The number that some characters stand for if they are digits. -/
def number? (text : List Char) : Option Nat :=
  if text.all Char.isDigit then some (decimalValue text) else none

/-- Whether some characters are digits and stand for a number in a range. -/
def isBetween (least greatest : Nat) (text : List Char) : Bool :=
  (number? text).any fun n => decide (least ≤ n ∧ n ≤ greatest)

/-- Whether a year has a day more than others. -/
def isLeapYear (year : Nat) : Bool := year % 4 = 0 ∧ (year % 100 ≠ 0 ∨ year % 400 = 0)

/-- The number of days in a month. -/
def daysIn (year month : Nat) : Nat :=
  if month = 2 then (if isLeapYear year then 29 else 28)
  else if month = 4 ∨ month = 6 ∨ month = 9 ∨ month = 11 then 30
  else 31

/-- Whether a text is a date. -/
def isDate : List Char → Bool
  | [a, b, c, d, '-', e, f, '-', g, h] =>
      match number? [a, b, c, d], number? [e, f] with
      | some year, some month =>
          decide (1 ≤ month ∧ month ≤ 12) && isBetween 1 (daysIn year month) [g, h]
      | _, _ => false
  | _ => false

/-- The text behind the fraction of a second that it begins with, if it begins
with one. -/
def skipFraction : List Char → List Char
  | '.' :: c :: rest => if c.isDigit then rest.dropWhile Char.isDigit else '.' :: c :: rest
  | text => text

/-- The text behind the time that it begins with. -/
def skipTime : List Char → Option (List Char)
  | a :: b :: ':' :: c :: d :: ':' :: e :: f :: rest =>
      if isBetween 0 23 [a, b] && isBetween 0 59 [c, d] && isBetween 0 60 [e, f] then
        some (skipFraction rest)
      else none
  | _ => none

/-- Whether a text is an offset. -/
def isOffset : List Char → Bool
  | ['Z'] => true
  | ['z'] => true
  | [sign, a, b, ':', c, d] =>
      (sign == '+' || sign == '-') && isBetween 0 23 [a, b] && isBetween 0 59 [c, d]
  | _ => false

/-- Whether a text is a time. -/
def isTime (text : List Char) : Bool := skipTime text = some []

/-- Whether a text is a time, perhaps with an offset. -/
def isTimeOfDate (text : List Char) : Bool :=
  match skipTime text with
  | some rest => rest.isEmpty || isOffset rest
  | none => false

/-- Whether a text is a date and a time with a letter between them. -/
def isDateTime (text : List Char) : Bool :=
  isDate (text.take 10) &&
    match text.drop 10 with
    | c :: time => (c == 'T' || c == 't') && isTimeOfDate time
    | [] => false

end Toml

end Highlight
