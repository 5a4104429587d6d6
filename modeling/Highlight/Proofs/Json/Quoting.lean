import Highlight.Json.Text

/-!
# Reading a quoted string

A character is written in one of three ways: by a letter behind a backslash
(`escape_of_mem_lettered`), by four digits, or as it stands (`escape_of_notMem_lettered`).
One step of the reader gives it back, whatever follows (`readString_escape`). So a string
between quotes is read as it was, if the reader may take a step for each character and one
for the closing quote (`readString_quoted`).
-/

namespace Highlight

set_option autoImplicit false

theorem hexValue?_smallHexDigit {value : Nat} (isDigit : value < 16) :
    hexValue? (smallHexDigit value) = some value := by
  have all : ∀ value < 16, hexValue? (smallHexDigit value) = some value := by decide
  exact all value isDigit

namespace Json

/-! ## Ways of writing a character -/

/-- The characters that are written by a letter, and their letters. -/
def lettered : List (Char × Char) :=
  [('"', '"'), ('\\', '\\'), ('\n', 'n'), ('\r', 'r'), ('\t', 't'), (Char.ofNat 0x08, 'b'),
    (Char.ofNat 0x0C, 'f')]

theorem escape_of_mem_lettered {pair : Char × Char} (member : pair ∈ lettered) :
    escape pair.1 = ['\\', pair.2] ∧ pair.2 ≠ 'u' ∧ unescape? pair.2 = some pair.1 := by
  have all : ∀ pair ∈ lettered,
      escape pair.1 = ['\\', pair.2] ∧ pair.2 ≠ 'u' ∧ unescape? pair.2 = some pair.1 := by decide
  exact all pair member

/-- All other control characters are written by digits, and the rest as it is. -/
theorem escape_of_notMem_lettered {c : Char} (notLettered : c ∉ lettered.map Prod.fst) :
    escape c =
      if c.toNat < 0x20 then
        ['\\', 'u', '0', '0', smallHexDigit (c.toNat / 16), smallHexDigit (c.toNat % 16)]
      else [c] := by
  have other : ∀ code, Char.ofNat code ∈ lettered.map Prod.fst → c.toNat ≠ code := by
    intro code member same
    refine notLettered ?_
    rw [← Char.ofNat_toNat c, same]
    exact member
  have backspace : c.toNat ≠ 0x08 := other _ (by decide)
  have formFeed : c.toNat ≠ 0x0C := other _ (by decide)
  simp only [lettered, List.map_cons, List.map_nil, List.mem_cons, not_or] at notLettered
  simp only [escape, notLettered, backspace, formFeed, if_false]

/-! ## Reading a character -/

/-- A unit of two zeros and two digits. -/
theorem readUnit_digits {high low : Nat} (isHigh : high < 16) (isLow : low < 16)
    (rest : List Char) :
    readUnit ('0' :: '0' :: smallHexDigit high :: smallHexDigit low :: rest) =
      .ok (16 * high + low, rest) := by
  have zero : hexValue? '0' = some 0 := by decide
  have size : ∀ value < 16, (smallHexDigit value).utf8Size = 1 := by decide
  have bytes : byteCount (List.take 4
      ('0' :: '0' :: smallHexDigit high :: smallHexDigit low :: rest)) = 4 := by
    simp only [List.take_succ_cons, List.take_zero, byteCount, size high isHigh, size low isLow]
    decide
  simp only [readUnit, bytes, Nat.lt_irrefl, if_false, zero, hexValue?_smallHexDigit isHigh,
    hexValue?_smallHexDigit isLow, Nat.mul_zero, Nat.zero_add]

/-- Such a unit is no surrogate. -/
theorem readUnits_digits {high low : Nat} (isHigh : high < 16) (isLow : low < 16)
    (rest : List Char) :
    readUnits ('0' :: '0' :: smallHexDigit high :: smallHexDigit low :: rest) =
      .ok (Char.ofNat (16 * high + low), rest) := by
  have notTrailing : ¬ (0xDC00 ≤ 16 * high + low ∧ 16 * high + low ≤ 0xDFFF) := by omega
  have notLeading : ¬ (0xD800 ≤ 16 * high + low ∧ 16 * high + low ≤ 0xDBFF) := by omega
  simp only [readUnits, readUnit_digits isHigh isLow, bind, Except.bind, notTrailing, notLeading,
    if_false]

section Step

variable (fuel : Nat) (read rest : List Char)

theorem readString_letter {letter c : Char} (notUnit : letter ≠ 'u')
    (isLetter : unescape? letter = some c) :
    readString (fuel + 1) read ('\\' :: letter :: rest) = readString fuel (c :: read) rest := by
  rw [readString]
  · simp only [isLetter]
  · exact notUnit

theorem readString_plain {c : Char} (notQuote : c ≠ '"') (notBackslash : c ≠ '\\')
    (printable : ¬ c.toNat < 0x20) :
    readString (fuel + 1) read (c :: rest) = readString fuel (c :: read) rest := by
  rw [readString]
  · simp only [printable, if_false]
  · exact notQuote
  · exact fun same _ => notBackslash same
  · exact fun _ same _ => notBackslash same
  · exact fun _ _ same _ => notBackslash same

/-- **One step reads one character**, whatever follows. -/
theorem readString_escape (c : Char) :
    readString (fuel + 1) read (escape c ++ rest) = readString fuel (c :: read) rest := by
  by_cases isLettered : c ∈ lettered.map Prod.fst
  · obtain ⟨pair, member, rfl⟩ := List.mem_map.1 isLettered
    obtain ⟨written, notUnit, isLetter⟩ := escape_of_mem_lettered member
    rw [written]
    exact readString_letter fuel read rest notUnit isLetter
  · rw [escape_of_notMem_lettered isLettered]
    split
    · next control =>
      have high : c.toNat / 16 < 16 := by omega
      have low : c.toNat % 16 < 16 := by omega
      have whole : Char.ofNat (16 * (c.toNat / 16) + c.toNat % 16) = c := by
        rw [Nat.div_add_mod]
        exact Char.ofNat_toNat c
      simp only [List.cons_append, List.nil_append, readString, readUnits_digits high low, whole,
        bind, Except.bind]
    · next printable =>
      refine readString_plain fuel read rest ?_ ?_ printable
      · rintro rfl
        exact isLettered (by decide)
      · rintro rfl
        exact isLettered (by decide)

end Step

/-! ## Reading a string -/

/-- The characters of a string are read one by one, up to the closing quote. -/
theorem readString_flatMap_escape {fuel : Nat} (text : List Char) (enough : text.length < fuel)
    (read rest : List Char) :
    readString fuel read (text.flatMap escape ++ '"' :: rest) =
      .ok (String.ofList (read.reverse ++ text), rest) := by
  induction text generalizing fuel read with
  | nil =>
      obtain ⟨steps, rfl⟩ := Nat.exists_eq_add_of_lt enough
      rw [List.flatMap_nil, List.nil_append, readString, List.append_nil]
  | cons c more ih =>
      obtain ⟨steps, rfl⟩ : ∃ steps, fuel = steps + 1 :=
        Nat.exists_eq_succ_of_ne_zero (Nat.ne_zero_of_lt enough)
      have later : more.length < steps := Nat.lt_of_succ_lt_succ enough
      rw [List.flatMap_cons, List.append_assoc, readString_escape, ih later, List.reverse_cons,
        List.append_assoc, List.singleton_append]

/-- A character takes at least one in writing. -/
theorem length_le_length_flatMap_escape (text : List Char) :
    text.length ≤ (text.flatMap escape).length := by
  have least : ∀ c : Char, 1 ≤ (escape c).length := by
    intro c
    by_cases isLettered : c ∈ lettered.map Prod.fst
    · obtain ⟨pair, member, rfl⟩ := List.mem_map.1 isLettered
      rw [(escape_of_mem_lettered member).1]
      exact Nat.succ_le_succ (Nat.zero_le _)
    · rw [escape_of_notMem_lettered isLettered]
      split <;> exact Nat.succ_le_succ (Nat.zero_le _)
  induction text with
  | nil => exact Nat.le_refl 0
  | cons c more ih =>
      rw [List.flatMap_cons, List.length_append, List.length_cons, Nat.add_comm]
      exact Nat.add_le_add (least c) ih

/-- **A string is read up to its closing quote** as it was written, with as many steps as
characters are left. -/
theorem readString_quoted (text : String) (rest : List Char) :
    readString ((text.toList.flatMap escape ++ '"' :: rest).length + 1) []
      (text.toList.flatMap escape ++ '"' :: rest) = .ok (text, rest) := by
  have least := length_le_length_flatMap_escape text.toList
  have enough : text.toList.length <
      (text.toList.flatMap escape ++ '"' :: rest).length + 1 := by
    rw [List.length_append, List.length_cons]
    omega
  rw [readString_flatMap_escape text.toList enough, List.reverse_nil, List.nil_append,
    String.ofList_toList]

end Json

end Highlight
