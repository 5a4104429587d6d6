import Highlight.Json.Value
import Highlight.Number.Digits
import Highlight.Number.Double

/-!
# JSON numbers

A number is an optional minus sign, digits without needless leading zeros, an
optional fraction and an optional exponent. A number beyond the range of double
precision is refused. Its range is judged by as many of its leading digits as
fit into 64 bits, rounded, times the rounded power of ten.
-/

namespace Highlight

set_option autoImplicit false

namespace Json

/-- The greatest number of 64 bits. -/
def wordLimit : Nat := 0xFFFFFFFFFFFFFFFF

/-- Appends digits to a number as long as it fits into 64 bits, and counts the
digits appended. -/
def appendDigits : Nat → List Char → Nat × Nat
  | value, [] => (value, 0)
  | value, c :: rest =>
      let longer := 10 * value + digitValue c
      if wordLimit < longer then (value, 0)
      else
        let (value, count) := appendDigits longer rest
        (value, count + 1)

/-- Whether a number given by its leading digits and a power of ten is in
range. -/
def isInRange (significand : Nat) (exponent : Int) : Bool :=
  if significand = 0 ∨ exponent < 0 then true
  else if 308 < exponent then false
  else
    decide (roundToDouble significand * roundToDouble (Nat.pow 10 exponent.toNat) < doubleLimit)

/-- The digits in front of a text, and the rest. -/
def spanDigits (text : List Char) : List Char × List Char :=
  (text.takeWhile Char.isDigit, text.dropWhile Char.isDigit)

/-- Reads at least one digit. -/
def readDigits (text : List Char) : Except JsonError (List Char × List Char) :=
  match spanDigits text with
  | ([], []) => .error .cutShort
  | ([], _) => .error .malformed
  | (digits, rest) => .ok (digits, rest)

/-- Reads an exponent, if there is one, and what it adds to the power of ten. -/
def readExponent (text : List Char) : Except JsonError (Int × List Char) :=
  match text with
  | c :: rest =>
      if c = 'e' ∨ c = 'E' then do
        match rest with
        | '-' :: rest =>
            let (digits, rest) ← readDigits rest
            return (-(decimalValue digits : Int), rest)
        | '+' :: rest =>
            let (digits, rest) ← readDigits rest
            return ((decimalValue digits : Int), rest)
        | rest =>
            let (digits, rest) ← readDigits rest
            return ((decimalValue digits : Int), rest)
      else .ok (0, text)
  | [] => .ok (0, text)

/-- Reads a fraction, if there is one: its digits. -/
def readFraction (text : List Char) : Except JsonError (List Char × List Char) :=
  match text with
  | '.' :: rest => readDigits rest
  | _ => .ok ([], text)

/-- Reads the digits before the point: a zero alone, or digits that begin with
another one. -/
def readWhole (text : List Char) : Except JsonError (List Char × List Char) :=
  match text with
  | [] => .error .cutShort
  | '0' :: rest =>
      if rest.head?.any Char.isDigit then .error .malformed else .ok (['0'], rest)
  | c :: _ => if c.isDigit then .ok (spanDigits text) else .error .malformed

/-- Reads a number behind its sign, which does not matter for its range. -/
def readNumber (text : List Char) : Except JsonError (List Char) := do
  let (whole, rest) ← readWhole text
  let (fraction, rest) ← readFraction rest
  let (exponent, rest) ← readExponent rest
  let (significand, kept) := appendDigits 0 whole
  let (significand, appended) := appendDigits significand fraction
  let power : Int := ((whole.length - kept : Nat) : Int) - (appended : Int) + exponent
  if isInRange significand power then .ok rest else .error .malformed

end Json

end Highlight
