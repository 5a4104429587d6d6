/-!
# Reading bytes as text

Bytes that are no UTF-8 can still be shown. Each longest stretch that could begin
a character, or else each single byte, that does not become one is shown as a
replacement character.
-/

namespace Highlight

set_option autoImplicit false

/-- What stands for bytes that are no character. -/
def replacement : Char := Char.ofNat 0xFFFD

/-- The beginning of a character: how many of its bytes are missing, the range of
the next one, and the bits read. -/
structure PartialChar where
  missing : Nat
  least : Nat
  greatest : Nat
  bits : Nat

/-- What the first byte of a character can be. -/
inductive FirstByte where
  | whole (c : Char)
  | start (begun : PartialChar)
  | none

/-- What a byte is as the first byte of a character. -/
def firstByte (b : Nat) : FirstByte :=
  if b < 0x80 then .whole (Char.ofNat b)
  else if b < 0xC2 then .none
  else if b < 0xE0 then .start ⟨1, 0x80, 0xBF, b - 0xC0⟩
  else if b = 0xE0 then .start ⟨2, 0xA0, 0xBF, 0⟩
  else if b = 0xED then .start ⟨2, 0x80, 0x9F, b - 0xE0⟩
  else if b < 0xF0 then .start ⟨2, 0x80, 0xBF, b - 0xE0⟩
  else if b = 0xF0 then .start ⟨3, 0x90, 0xBF, 0⟩
  else if b < 0xF4 then .start ⟨3, 0x80, 0xBF, b - 0xF0⟩
  else if b = 0xF4 then .start ⟨3, 0x80, 0x8F, b - 0xF0⟩
  else .none

/-- The characters of some bytes behind the beginning of a character. -/
def showFrom : Option PartialChar → List UInt8 → List Char
  | none, [] => []
  | some _, [] => [replacement]
  | none, b :: rest =>
      match firstByte b.toNat with
      | .whole c => c :: showFrom none rest
      | .start begun => showFrom (some begun) rest
      | .none => replacement :: showFrom none rest
  | some begun, b :: rest =>
      if begun.least ≤ b.toNat ∧ b.toNat ≤ begun.greatest then
        let bits := 64 * begun.bits + (b.toNat - 0x80)
        if begun.missing = 1 then Char.ofNat bits :: showFrom none rest
        else showFrom (some ⟨begun.missing - 1, 0x80, 0xBF, bits⟩) rest
      else
        replacement ::
          match firstByte b.toNat with
          | .whole c => c :: showFrom none rest
          | .start begun => showFrom (some begun) rest
          | .none => replacement :: showFrom none rest

/-- Some bytes as text, whatever they are. -/
def showBytes (bytes : List UInt8) : String := String.ofList (showFrom none bytes)

/-- The text that some bytes encode. -/
def textOf? (bytes : List UInt8) : Option String := String.fromUTF8? ⟨bytes.toArray⟩

end Highlight
