import Highlight.Number.Digits
import Highlight.Number.Double

/-!
# TOML numbers

A whole number may have a sign and must fit into 64 bits with one; without a
sign it may also be given in hexadecimal, octal or binary digits. A number with
a fraction or an exponent must not be too great for double precision, if it is
not negative. Between two digits there may be an underscore.
-/

namespace Highlight

set_option autoImplicit false

namespace Toml

/-- Whether a text consists of digits, between which there may be underscores. -/
def isDigitRow (isDigit : Char → Bool) : List Char → Bool
  | [] => false
  | [c] => isDigit c
  | c :: '_' :: rest => isDigit c && isDigitRow isDigit rest
  | c :: rest => isDigit c && isDigitRow isDigit rest

/-- Whether a text consists of decimal digits without needless leading zeros. -/
def isWhole (text : List Char) : Bool :=
  text = ['0'] || (text.head? != some '0' && isDigitRow Char.isDigit text)

/-- The digits among some characters. -/
def digitsOf (text : List Char) : List Char := text.filter (· != '_')

/-- Whether a number has a minus sign, and the text behind its sign. -/
def splitSign : List Char → Bool × List Char
  | '-' :: rest => (true, rest)
  | '+' :: rest => (false, rest)
  | text => (false, text)

/-- The base that a letter behind a zero stands for. -/
def base? (c : Char) : Option Nat :=
  if c = 'x' then some 16 else if c = 'o' then some 8 else if c = 'b' then some 2 else none

/-- The number that digits in some base stand for. -/
def valueIn (base : Nat) (digits : List Char) : Nat :=
  digits.foldl (fun n c => base * n + (hexValue? c).getD 0) 0

/-- The least number that does not fit into 64 bits with a sign. -/
def wholeLimit : Nat := 0x8000000000000000

/-- Whether a text is a whole number. -/
def isInteger (text : List Char) : Bool :=
  let decimal :=
    let (negative, digits) := splitSign text
    isWhole digits &&
      decide (decimalValue (digitsOf digits) < if negative then wholeLimit + 1 else wholeLimit)
  match text with
  | '0' :: c :: digits =>
      match base? c with
      | some base =>
          isDigitRow (fun d => (hexValue? d).any (· < base)) digits &&
            decide (valueIn base (digitsOf digits) < wholeLimit)
      | none => decimal
  | _ => decimal

/-- Whether a decimal number given by its digits and a power of ten is less than
what rounding takes to infinity. -/
def isInRange (digits : List Char) (power : Int) : Bool :=
  let digits := digits.dropWhile (· == '0')
  let magnitude : Int := digits.length + power
  if digits = [] ∨ magnitude < 309 then true
  else if 309 < magnitude then false
  else if 0 ≤ power then decide (decimalValue digits * Nat.pow 10 power.toNat < doubleLimit)
  else decide (decimalValue digits < doubleLimit * Nat.pow 10 (-power).toNat)

/-- Whether a character begins an exponent. -/
def isExponentSign (c : Char) : Bool := c == 'e' || c == 'E'

/-- Whether a text is a number with a fraction, an exponent or both, or one that
is not finite. -/
def isFloat (text : List Char) : Bool :=
  let (negative, body) := splitSign text
  let (mantissa, exponent) := body.span (!isExponentSign ·)
  let (whole, fraction) := mantissa.span (· != '.')
  let (down, digits) := splitSign exponent.tail
  let size : Int := decimalValue (digitsOf digits)
  let power := if down then -size else size
  let fractionDigits := digitsOf fraction.tail
  body = ['i', 'n', 'f'] || body = ['n', 'a', 'n'] ||
    (isWhole whole && (fraction.isEmpty || isDigitRow Char.isDigit fraction.tail) &&
      (exponent.isEmpty || isDigitRow Char.isDigit digits) &&
      !(fraction.isEmpty && exponent.isEmpty) &&
      (negative || isInRange (digitsOf whole ++ fractionDigits) (power - fractionDigits.length)))

end Toml

end Highlight
