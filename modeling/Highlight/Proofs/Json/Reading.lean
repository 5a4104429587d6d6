import Highlight.Proofs.Json.Layout
import Highlight.Proofs.Json.Nesting
import Highlight.Proofs.Json.Quoting

/-!
# Reading printed JSON

A value made of strings, arrays and objects (`Json.Textual`) is read back from its print
in any layout, whatever stands behind it (`Json.Textual.readable`). The reader must be
allowed the levels of the value, and as many steps as its print has characters are
enough.

What comes next in an array or object is the end or a member behind white space
(`nextElement_first`, `nextElement_behind`, `nextField_first`, `nextField_behind`). The
members behind the first are read one by one (`readElements_print`, `readFields_print`).
-/

namespace Highlight

set_option autoImplicit false

namespace Json

/-- A value without numbers, truth values and nulls. -/
inductive Textual : Json → Prop where
  | string (text : String) : Textual (.string text)
  | array {elements : List Json} (all : ∀ value ∈ elements, Textual value) :
      Textual (.array elements)
  | object {fields : List (String × Json)} (all : ∀ field ∈ fields, Textual field.2) :
      Textual (.object fields)

/-! ## White space -/

theorem skipBlanks_append {blanks : List Char} (blank : ∀ c ∈ blanks, isBlank c = true)
    (text : List Char) : skipBlanks (blanks ++ text) = skipBlanks text :=
  List.dropWhile_append_of_pos blank

theorem skipBlanks_cons {c : Char} (solid : isBlank c = false) (text : List Char) :
    skipBlanks (c :: text) = c :: text :=
  List.dropWhile_cons_of_neg (by rw [solid]; exact Bool.false_ne_true)

/-- White space before a value does not matter. -/
theorem readValue_append {blanks : List Char} (blank : ∀ c ∈ blanks, isBlank c = true)
    (fuel levels : Nat) (text : List Char) :
    readValue fuel levels (blanks ++ text) = readValue fuel levels text := by
  cases fuel with
  | zero => rw [readValue, readValue]
  | succ fuel => rw [readValue, readValue, skipBlanks_append blank]

/-! ## The beginning of a value -/

/-- The signs with which textual values begin. -/
def openers : List Char := ['"', '[', openBrace]

theorem Textual.exists_print_eq_cons {j : Json} (textual : j.Textual) (layout : Layout)
    (level : Nat) : ∃ c ∈ openers, ∃ behind, layout.print level j = c :: behind := by
  cases textual with
  | string text => exact ⟨'"', by decide, _, by rw [Layout.print, quote]; rfl⟩
  | @array elements _ =>
      cases elements with
      | nil => exact ⟨'[', by decide, _, by rw [Layout.print]⟩
      | cons first rest => exact ⟨'[', by decide, _, by rw [Layout.print]; rfl⟩
  | @object fields _ =>
      cases fields with
      | nil => exact ⟨openBrace, by decide, _, by rw [Layout.print]⟩
      | cons field rest => exact ⟨openBrace, by decide, _, by rw [Layout.print]; rfl⟩

theorem Textual.length_print_pos {j : Json} (textual : j.Textual) (layout : Layout)
    (level : Nat) : 0 < (layout.print level j).length := by
  obtain ⟨c, _, behind, print⟩ := textual.exists_print_eq_cons layout level
  rw [print]
  exact Nat.succ_pos _

theorem solid_of_mem_openers {c : Char} (member : c ∈ openers) :
    isBlank c = false ∧ c ≠ ']' := by
  simp only [openers, List.mem_cons, List.not_mem_nil, or_false] at member
  rcases member with rfl | rfl | rfl <;> decide

/-! ## What comes next -/

section Next

variable {blanks : List Char} (blank : ∀ c ∈ blanks, isBlank c = true) (rest : List Char)
include blank

theorem nextElement_end (first : Bool) :
    nextElement first (blanks ++ ']' :: rest) = .ok (.done rest) := by
  rw [nextElement, skipBlanks_append blank, skipBlanks_cons (by decide)]
  rfl

theorem nextElement_first {c : Char} (opens : c ∈ openers) :
    nextElement true (blanks ++ c :: rest) = .ok (.member (c :: rest)) := by
  obtain ⟨solid, notEnd⟩ := solid_of_mem_openers opens
  rw [nextElement, skipBlanks_append blank, skipBlanks_cons solid]
  split
  · next none => cases none
  · next same => exact absurd (List.cons.inj same).1 notEnd
  · next same =>
    cases same
    rfl

theorem nextElement_behind {c : Char} (opens : c ∈ openers) :
    nextElement false (',' :: (blanks ++ c :: rest)) = .ok (.member (c :: rest)) := by
  obtain ⟨solid, notEnd⟩ := solid_of_mem_openers opens
  have behind : skipBlanks (blanks ++ c :: rest) = c :: rest := by
    rw [skipBlanks_append blank, skipBlanks_cons solid]
  rw [nextElement, skipBlanks_cons (by decide)]
  split
  · next none => cases none
  · next same => exact absurd (List.cons.inj same).1 (by decide)
  · next same =>
    cases same
    rw [if_neg Bool.false_ne_true, if_pos rfl, behind]
    split
    · next none => cases none
    · next same => exact absurd (List.cons.inj same).1 notEnd
    · rfl

theorem nextField_end (first : Bool) :
    nextField first (blanks ++ closeBrace :: rest) = .ok (.done rest) := by
  rw [nextField, skipBlanks_append blank, skipBlanks_cons (by decide)]
  exact if_pos rfl

theorem nextField_first : nextField true (blanks ++ '"' :: rest) = .ok (.member rest) := by
  have notEnd : '"' ≠ closeBrace := by decide
  rw [nextField, skipBlanks_append blank, skipBlanks_cons (by decide)]
  simp only [notEnd, if_false, if_true]

theorem nextField_behind :
    nextField false (',' :: (blanks ++ '"' :: rest)) = .ok (.member rest) := by
  have notEnd : ',' ≠ closeBrace := by decide
  have solid : isBlank '"' = false := by decide
  rw [nextField, skipBlanks_cons (by decide)]
  simp only [notEnd, skipBlanks_append blank, skipBlanks_cons solid, Bool.false_eq_true, if_false,
    if_true]

end Next

section Next

variable {value : Json} (textual : value.Textual) (layout : Layout) (level : Nat)
  (rest : List Char)
include textual

theorem Textual.nextElement_first :
    nextElement true (layout.gap level ++ (layout.print level value ++ rest)) =
      .ok (.member (layout.print level value ++ rest)) := by
  obtain ⟨c, opens, behind, print⟩ := textual.exists_print_eq_cons layout level
  rw [print]
  exact Json.nextElement_first (layout.blankGap level) _ opens

theorem Textual.nextElement_behind :
    nextElement false (',' :: (layout.gap level ++ (layout.print level value ++ rest))) =
      .ok (.member (layout.print level value ++ rest)) := by
  obtain ⟨c, opens, behind, print⟩ := textual.exists_print_eq_cons layout level
  rw [print]
  exact Json.nextElement_behind (layout.blankGap level) _ opens

end Next

/-! ## Members one by one -/

section Steps

variable {fuel levels : Nat} {first : Bool} {text inner behind rest : List Char}

theorem readElements_done {read : List Json} (next : nextElement first text = .ok (.done rest)) :
    readElements (fuel + 1) levels first read text = .ok (read.reverse, rest) := by
  rw [readElements, next]
  rfl

theorem readElements_member {read : List Json} {value : Json}
    (next : nextElement first text = .ok (.member inner))
    (isRead : readValue fuel levels inner = .ok (value, behind)) :
    readElements (fuel + 1) levels first read text =
      readElements fuel levels false (value :: read) behind := by
  rw [readElements]
  simp only [next, isRead, bind, Except.bind]

theorem readFields_done {read : List (String × Json)}
    (next : nextField first text = .ok (.done rest)) :
    readFields (fuel + 1) levels first read text = .ok (read.reverse, rest) := by
  rw [readFields, next]
  rfl

/-- The name of a field is read up to its closing quote, then the colon, then the
value. -/
theorem readFields_member {read : List (String × Json)} {name : String} {value : Json}
    (next : nextField first text =
      .ok (.member (name.toList.flatMap escape ++ '"' :: ':' :: inner)))
    (isRead : readValue fuel levels inner = .ok (value, behind)) :
    readFields (fuel + 1) levels first read text =
      readFields fuel levels false ((name, value) :: read) behind := by
  have colon : readColon (':' :: inner) = .ok inner := by
    rw [readColon, skipBlanks_cons (by decide)]
    rfl
  rw [readFields]
  simp only [next, readString_quoted name (':' :: inner), colon, isRead, bind, Except.bind]

end Steps

/-! ## Values -/

variable (layout : Layout)

/-- A value is read back from its print, whatever stands behind. -/
def Readable (value : Json) : Prop :=
  ∀ (level fuel levels : Nat) (rest : List Char), (layout.print level value).length ≤ fuel →
    value.levels ≤ levels →
      readValue fuel levels (layout.print level value ++ rest) = .ok (value, rest)

variable {layout}

theorem readable_string (text : String) : Readable layout (.string text) := by
  intro level fuel levels rest enough _
  rw [Layout.print, quote, List.cons_append, List.length_cons] at enough
  obtain ⟨steps, rfl⟩ := Nat.exists_eq_add_of_le' (Nat.le_of_add_left_le enough)
  have notBrace : '"' ≠ openBrace := by decide
  rw [Layout.print, quote, List.cons_append, List.cons_append, List.append_assoc,
    List.singleton_append, readValue, skipBlanks_cons (by decide)]
  split
  · next same => exact absurd (List.cons.inj same).1 (by decide)
  · next same =>
    cases same
    rw [if_neg notBrace, readScalar, readString_quoted]
    rfl
  · next none => cases none

theorem quote_append (text : String) (rest : List Char) :
    quote text ++ rest = '"' :: (text.toList.flatMap escape ++ '"' :: rest) := by
  simp only [quote, List.cons_append, List.append_assoc, List.nil_append]

/-- The elements behind the first are read up to the end of the array. -/
theorem readElements_print {elements : List Json}
    (textual : ∀ value ∈ elements, value.Textual)
    (readable : ∀ value ∈ elements, Readable layout value) (level : Nat) {fuel levels : Nat}
    (read : List Json) (rest : List Char)
    (enough : (layout.printElements level elements).length ≤ fuel)
    (within : ∀ value ∈ elements, value.levels ≤ levels) :
    readElements fuel levels false read (layout.printElements level elements ++ rest) =
      .ok (read.reverse ++ elements, rest) := by
  induction elements generalizing fuel read with
  | nil =>
      rw [Layout.printElements, List.length_append, List.length_singleton] at enough
      obtain ⟨steps, rfl⟩ := Nat.exists_eq_add_of_le' (Nat.le_of_add_left_le enough)
      have next := nextElement_end (layout.blankGap level) rest false
      rw [Layout.printElements, List.append_assoc, List.singleton_append,
        readElements_done next, List.append_nil]
  | cons value others ih =>
      obtain ⟨textualHere, textualLater⟩ := List.forall_mem_cons.1 textual
      obtain ⟨readableHere, readableLater⟩ := List.forall_mem_cons.1 readable
      obtain ⟨withinHere, withinLater⟩ := List.forall_mem_cons.1 within
      rw [Layout.printElements, List.length_append, List.length_append, List.length_cons] at enough
      obtain ⟨steps, rfl⟩ : ∃ steps, fuel = steps + 1 := Nat.exists_eq_add_of_le' (by omega)
      have next := textualHere.nextElement_behind layout (level + 1)
        (layout.printElements level others ++ rest)
      have isRead := readableHere (level + 1) steps levels
        (layout.printElements level others ++ rest) (by omega) withinHere
      have later := ih textualLater readableLater (value :: read)
        (by omega : (layout.printElements level others).length ≤ steps) withinLater
      simp only [Layout.printElements, List.cons_append, List.append_assoc]
      rw [readElements_member next isRead, later, List.reverse_cons, List.append_assoc,
        List.singleton_append]

/-- The fields behind the first are read up to the end of the object. -/
theorem readFields_print {fields : List (String × Json)}
    (readable : ∀ field ∈ fields, Readable layout field.2) (level : Nat) {fuel levels : Nat}
    (read : List (String × Json)) (rest : List Char)
    (enough : (layout.printFields level fields).length ≤ fuel)
    (within : ∀ field ∈ fields, field.2.levels ≤ levels) :
    readFields fuel levels false read (layout.printFields level fields ++ rest) =
      .ok (read.reverse ++ fields, rest) := by
  induction fields generalizing fuel read with
  | nil =>
      rw [Layout.printFields, List.length_append, List.length_singleton] at enough
      obtain ⟨steps, rfl⟩ := Nat.exists_eq_add_of_le' (Nat.le_of_add_left_le enough)
      have next := nextField_end (layout.blankGap level) rest false
      rw [Layout.printFields, List.append_assoc, List.singleton_append, readFields_done next,
        List.append_nil]
  | cons field others ih =>
      obtain ⟨name, value⟩ := field
      obtain ⟨readableHere, readableLater⟩ := List.forall_mem_cons.1 readable
      obtain ⟨withinHere, withinLater⟩ := List.forall_mem_cons.1 within
      simp only [Layout.printFields, List.length_append, List.length_cons] at enough
      obtain ⟨steps, rfl⟩ : ∃ steps, fuel = steps + 1 := Nat.exists_eq_add_of_le' (by omega)
      have next := nextField_behind (layout.blankGap (level + 1))
        (name.toList.flatMap escape ++ '"' :: ':' :: (layout.space ++
          (layout.print (level + 1) value ++ (layout.printFields level others ++ rest))))
      have short : (layout.print (level + 1) value).length ≤ steps := by omega
      have isRead := readableHere (level + 1) steps levels
        (layout.printFields level others ++ rest) short withinHere
      rw [← readValue_append layout.blankSpace] at isRead
      have later := ih readableLater ((name, value) :: read)
        (by omega : (layout.printFields level others).length ≤ steps) withinLater
      simp only [Layout.printFields, List.cons_append, List.append_assoc, quote_append]
      rw [readFields_member next isRead, later, List.reverse_cons, List.append_assoc,
        List.singleton_append]

/-- An array is read element by element. -/
theorem readable_array {elements : List Json} (textual : ∀ value ∈ elements, value.Textual)
    (readable : ∀ value ∈ elements, Readable layout value) :
    Readable layout (.array elements) := by
  intro level fuel levels rest enough within
  obtain ⟨deeper, rfl⟩ : ∃ deeper, levels = deeper + 1 :=
    Nat.exists_eq_add_of_le' (Nat.le_of_add_left_le within)
  have inside := levelsOfElements_le_iff.1 (Nat.le_of_succ_le_succ within)
  have isArray : ∀ (steps : Nat) (behind : List Char),
      readElements steps deeper true [] behind = .ok (elements, rest) →
      readValue (steps + 1) (deeper + 1) ('[' :: behind) = .ok (.array elements, rest) := by
    intro steps behind areRead
    rw [readValue, skipBlanks_cons (by decide)]
    simp only [areRead, bind, Except.bind, pure, Except.pure]
  cases elements with
  | nil =>
      obtain ⟨steps, rfl⟩ := Nat.exists_eq_add_of_le' enough
      have noBlanks : ∀ c ∈ ([] : List Char), isBlank c = true := List.forall_mem_nil _
      rw [Layout.print]
      exact isArray (steps + 1) (']' :: rest)
        (readElements_done (nextElement_end noBlanks rest true))
  | cons value others =>
      obtain ⟨textualHere, textualLater⟩ := List.forall_mem_cons.1 textual
      obtain ⟨readableHere, readableLater⟩ := List.forall_mem_cons.1 readable
      obtain ⟨insideHere, insideLater⟩ := List.forall_mem_cons.1 inside
      simp only [Layout.print, List.length_append, List.length_cons] at enough
      have present := textualHere.length_print_pos layout (level + 1)
      have closed := layout.length_printElements_pos level others
      obtain ⟨steps, rfl⟩ : ∃ steps, fuel = steps + 2 := Nat.exists_eq_add_of_le' (by omega)
      have next := textualHere.nextElement_first layout (level + 1)
        (layout.printElements level others ++ rest)
      have isRead := readableHere (level + 1) steps deeper
        (layout.printElements level others ++ rest) (by omega) insideHere
      have later := readElements_print textualLater readableLater level [value] rest
        (by omega : (layout.printElements level others).length ≤ steps) insideLater
      simp only [Layout.print, List.cons_append, List.append_assoc]
      refine isArray (steps + 1) _ ?_
      rw [readElements_member next isRead, later]
      rfl

/-- An object is read field by field. -/
theorem readable_object {fields : List (String × Json)}
    (readable : ∀ field ∈ fields, Readable layout field.2) :
    Readable layout (.object fields) := by
  intro level fuel levels rest enough within
  obtain ⟨deeper, rfl⟩ : ∃ deeper, levels = deeper + 1 :=
    Nat.exists_eq_add_of_le' (Nat.le_of_add_left_le within)
  have inside := levelsOfFields_le_iff.1 (Nat.le_of_succ_le_succ within)
  have isObject : ∀ (steps : Nat) (behind : List Char),
      readFields steps deeper true [] behind = .ok (fields, rest) →
      readValue (steps + 1) (deeper + 1) (openBrace :: behind) = .ok (.object fields, rest) := by
    intro steps behind areRead
    have notBracket : openBrace ≠ '[' := by decide
    rw [readValue, skipBlanks_cons (by decide)]
    split
    · next same => exact absurd (List.cons.inj same).1 notBracket
    · next same =>
      cases same
      simp only [if_true, areRead, bind, Except.bind, pure, Except.pure]
    · next none => cases none
  cases fields with
  | nil =>
      obtain ⟨steps, rfl⟩ := Nat.exists_eq_add_of_le' enough
      have noBlanks : ∀ c ∈ ([] : List Char), isBlank c = true := List.forall_mem_nil _
      rw [Layout.print]
      exact isObject (steps + 1) (closeBrace :: rest)
        (readFields_done (nextField_end noBlanks rest true))
  | cons field others =>
      obtain ⟨name, value⟩ := field
      obtain ⟨readableHere, readableLater⟩ := List.forall_mem_cons.1 readable
      obtain ⟨insideHere, insideLater⟩ := List.forall_mem_cons.1 inside
      simp only [Layout.print, List.length_append, List.length_cons] at enough
      have closed := layout.length_printFields_pos level others
      obtain ⟨steps, rfl⟩ : ∃ steps, fuel = steps + 2 := Nat.exists_eq_add_of_le' (by omega)
      have next := nextField_first (layout.blankGap (level + 1))
        (name.toList.flatMap escape ++ '"' :: ':' :: (layout.space ++
          (layout.print (level + 1) value ++ (layout.printFields level others ++ rest))))
      have short : (layout.print (level + 1) value).length ≤ steps := by omega
      have isRead := readableHere (level + 1) steps deeper
        (layout.printFields level others ++ rest) short insideHere
      rw [← readValue_append layout.blankSpace] at isRead
      have later := readFields_print readableLater level [(name, value)] rest
        (by omega : (layout.printFields level others).length ≤ steps) insideLater
      simp only [Layout.print, List.cons_append, List.append_assoc, quote_append]
      refine isObject (steps + 1) _ ?_
      rw [readFields_member next isRead, later]
      rfl

/-- **A textual value is read back from its print**, in any layout. -/
theorem Textual.readable {value : Json} (textual : value.Textual) (layout : Layout) :
    Readable layout value := by
  induction textual with
  | string text => exact readable_string text
  | array all ih => exact readable_array all ih
  | object all ih => exact readable_object ih

end Json

end Highlight
