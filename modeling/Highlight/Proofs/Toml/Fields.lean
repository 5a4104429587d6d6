import Highlight.Proofs.Toml.Quoting
import Highlight.Toml.Read

/-!
# Reading a list of fields

A field is a line with a key that needs no quotes and a value. Whatever table has been read
before it, if the key is not in it, one step of the reader adds the field at its end
(`readPair_line`). So a list of fields with different keys is read as the table of these
fields (`readLines_fields`), also behind a comment (`parse_document`).

A text without carriage returns is its own normal form, unless a byte order mark begins it.
-/

namespace Highlight

set_option autoImplicit false

namespace Toml

/-! ## Normal forms -/

theorem breaks_eq_self {text : List Char} (noReturn : '\r' ∉ text) :
    normalize.breaks text = text := by
  induction text with
  | nil => rfl
  | cons c rest ih =>
      have notReturn : c ≠ '\r' := fun same => noReturn (same ▸ List.mem_cons_self)
      have later := ih fun member => noReturn (List.mem_cons_of_mem c member)
      simp only [normalize.breaks, notReturn, false_and, if_false, later]

theorem normalize_eq_self {text : List Char} (noReturn : '\r' ∉ text)
    (noMark : text.head? ≠ some byteOrderMark) : normalize text = text := by
  rw [normalize, if_neg noMark, breaks_eq_self noReturn]

/-! ## Tables -/

section Tables

variable {key : String} {entries : Entries}

theorem get?_eq_none (fresh : key ∉ entries.map Prod.fst) : get? key entries = none := by
  induction entries with
  | nil => rfl
  | cons entry rest ih =>
      rw [List.map_cons, List.mem_cons, not_or] at fresh
      rw [get?, if_neg (Ne.symm fresh.1), ih fresh.2]

/-- A new key is added at the end. -/
theorem set_eq_append (fresh : key ∉ entries.map Prod.fst) (node : Node) :
    set key node entries = entries ++ [(key, node)] := by
  induction entries with
  | nil => rfl
  | cons entry rest ih =>
      rw [List.map_cons, List.mem_cons, not_or] at fresh
      rw [set, if_neg (Ne.symm fresh.1), ih fresh.2, List.cons_append]

theorem put_eq_append (fresh : key ∉ entries.map Prod.fst) (value : Value) :
    put entries [key] value = some (entries ++ [(key, .value value)]) := by
  simp only [put, get?_eq_none fresh, set_eq_append fresh]

end Tables

/-! ## Keys -/

theorem ne_of_isKeyChar {c d : Char} (isKey : isKeyChar c = true) (other : isKeyChar d = false) :
    c ≠ d := by
  rintro rfl
  rw [isKey] at other
  cases other

/-- A key that needs no quotes. -/
structure IsBare (key : List Char) : Prop where
  nonempty : key ≠ []
  chars : ∀ c ∈ key, isKeyChar c = true

namespace IsBare

variable {key : List Char} (bare : IsBare key) (rest : List Char)

include bare

theorem exists_head : ∃ first more, key = first :: more ∧ isKeyChar first = true := by
  obtain ⟨first, more, rfl⟩ := List.exists_cons_of_ne_nil bare.nonempty
  exact ⟨first, more, rfl, bare.chars first List.mem_cons_self⟩

theorem skipBlanks_append : skipBlanks (key ++ rest) = key ++ rest := by
  obtain ⟨first, more, rfl, isKey⟩ := bare.exists_head
  have notBlank : ¬ isBlank first = true := by
    simp only [isBlank, Bool.or_eq_true, beq_iff_eq, not_or]
    exact ⟨ne_of_isKeyChar isKey (by decide), ne_of_isKeyChar isKey (by decide)⟩
  rw [List.cons_append, skipBlanks, List.dropWhile_cons_of_neg notBlank]

/-- A bare key is read up to the blank behind it. -/
theorem readKeyPart_append :
    readKeyPart (key ++ ' ' :: rest) = some (String.ofList key, ' ' :: rest) := by
  have blank : ¬ isKeyChar ' ' = true := by decide
  have taken : (key ++ ' ' :: rest).takeWhile isKeyChar = key := by
    rw [List.takeWhile_append_of_pos bare.chars, List.takeWhile_cons_of_neg blank,
      List.append_nil]
  have dropped : (key ++ ' ' :: rest).dropWhile isKeyChar = ' ' :: rest := by
    rw [List.dropWhile_append_of_pos bare.chars, List.dropWhile_cons_of_neg blank]
  obtain ⟨first, more, rfl, isKey⟩ := bare.exists_head
  have notQuote : ¬ (first = '"' ∨ first = '\'') :=
    not_or.2 ⟨ne_of_isKeyChar isKey (by decide), ne_of_isKeyChar isKey (by decide)⟩
  rw [List.cons_append] at taken dropped ⊢
  simp only [readKeyPart, notQuote, if_false, isKey, if_true, taken, dropped]

/-- A bare key and the sign behind it. -/
theorem readAssigned_append :
    readAssigned (key ++ ' ' :: '=' :: rest) = some ([String.ofList key], skipBlanks rest) := by
  have afterBlank : skipBlanks (' ' :: '=' :: rest) = '=' :: rest := rfl
  simp only [readAssigned, readKey, readKeyParts, bare.skipBlanks_append, bare.readKeyPart_append,
    bind, Option.bind, afterBlank, pure]
  rfl

end IsBare

/-! ## Lines -/

/-- What one step over the lines of a text does at a line that is no header. -/
theorem readLines_of_skipBlanks {text behind : List Char} {c : Char}
    (begins : skipBlanks text = c :: behind) (noHeader : c ≠ '[') (fuel : Nat)
    (progress : Progress) :
    readLines (fuel + 1) progress text =
      if c = '#' ∨ c = '\n' then (endLine (c :: behind)).bind (readLines fuel progress)
      else (readPair progress (c :: behind)).bind fun (progress, rest) =>
        readLines fuel progress rest := by
  simp only [readLines, begins]
  split
  · next same => cases same
  · next same => exact absurd (List.cons.inj same).1 noHeader
  · next same => exact absurd (List.cons.inj same).1 noHeader
  · next same =>
    cases same
    rfl

/-- A comment on a line of its own is passed over. -/
theorem readLines_comment {comment : List Char} (printing : ∀ c ∈ comment, isPrinting c = true)
    (fuel : Nat) (progress : Progress) (rest : List Char) :
    readLines (fuel + 1) progress ('#' :: comment ++ '\n' :: rest) =
      readLines fuel progress rest := by
  have lineBreak : ¬ isPrinting '\n' = true := by decide
  have dropped : (comment ++ '\n' :: rest).dropWhile isPrinting = '\n' :: rest := by
    rw [List.dropWhile_append_of_pos printing, List.dropWhile_cons_of_neg lineBreak]
  have kept : ∀ text, skipBlanks ('#' :: text) = '#' :: text := fun _ => rfl
  have ended : endLine ('#' :: (comment ++ '\n' :: rest)) = some rest := by
    simp only [endLine, kept, skipComment, dropped]
  rw [List.cons_append, readLines_of_skipBlanks (kept _) (by decide), if_pos (.inl rfl), ended,
    Option.bind_some]

/-! ## Fields -/

/-- A spelling of a value: the reader takes it for the value at the end of every line. It
does not begin with a blank, and it has no control characters in it but line breaks. -/
structure Value.Spelled (value : Value) (written : List Char) : Prop where
  reads : ∀ fuel levels rest,
    readValue (fuel + 1) levels (written ++ '\n' :: rest) = some (value, '\n' :: rest)
  head : ∃ first more, written = first :: more ∧ isBlank first = false
  printing : ∀ c ∈ written, isPrinting c = true ∨ c = '\n'

/-- A line that gives a value under a key without quotes. -/
structure Field where
  key : String
  value : Value
  written : List Char
  bare : IsBare key.toList
  spelled : value.Spelled written

namespace Field

/-- The line as it is written. -/
def line (field : Field) : List Char :=
  field.key.toList ++ [' ', '=', ' '] ++ field.written ++ ['\n']

/-- What the line adds to a table. -/
def entry (field : Field) : String × Node := (field.key, .value field.value)

theorem line_ne_nil (field : Field) : field.line ≠ [] :=
  List.append_ne_nil_of_right_ne_nil _ (List.cons_ne_nil _ _)

theorem notMem_return_line (field : Field) : '\r' ∉ field.line := by
  simp only [line, List.mem_append, not_or]
  refine ⟨⟨⟨fun inKey => ?_, by decide⟩, fun inValue => ?_⟩, by decide⟩
  · exact absurd (field.bare.chars _ inKey) (by decide)
  · exact absurd (field.spelled.printing _ inValue) (by decide)

/-- The reader comes to the value of a line. -/
theorem readAssigned_line (field : Field) (rest : List Char) :
    readAssigned (field.line ++ rest) = some ([field.key], field.written ++ '\n' :: rest) := by
  obtain ⟨first, more, isWritten, notBlank⟩ := field.spelled.head
  have afterBlank : skipBlanks (' ' :: (field.written ++ '\n' :: rest)) =
      field.written ++ '\n' :: rest := by
    have blank : isBlank ' ' = true := rfl
    rw [isWritten, List.cons_append, skipBlanks, List.dropWhile_cons_of_pos blank,
      List.dropWhile_cons_of_neg (by rw [notBlank]; exact Bool.false_ne_true)]
  have assigned := field.bare.readAssigned_append (' ' :: (field.written ++ '\n' :: rest))
  rw [afterBlank, String.ofList_toList] at assigned
  rw [← assigned]
  simp only [line, List.append_assoc, List.cons_append, List.nil_append]

/-- **One step adds a field**, if its key is new. -/
theorem readPair_line (field : Field) {entries : Entries}
    (fresh : field.key ∉ entries.map Prod.fst) (rest : List Char) :
    readPair ⟨entries, []⟩ (field.line ++ rest) = some (⟨entries ++ [field.entry], []⟩, rest) := by
  have ended : endLine ('\n' :: rest) = some rest := rfl
  simp only [readPair, field.readAssigned_line, field.spelled.reads, update,
    put_eq_append fresh, ended, bind, Option.bind, pure]
  rfl

/-- So does one step over the lines of a text. -/
theorem readLines_line (field : Field) {entries : Entries}
    (fresh : field.key ∉ entries.map Prod.fst) (fuel : Nat) (rest : List Char) :
    readLines (fuel + 1) ⟨entries, []⟩ (field.line ++ rest) =
      readLines fuel ⟨entries ++ [field.entry], []⟩ rest := by
  have step := field.readPair_line fresh rest
  obtain ⟨first, more, isKey, isKeyChar⟩ := field.bare.exists_head
  have kept : skipBlanks (field.line ++ rest) = field.line ++ rest := by
    simp only [line, List.append_assoc]
    exact field.bare.skipBlanks_append _
  have noHeader : first ≠ '[' := ne_of_isKeyChar isKeyChar (by decide)
  have other : ¬ (first = '#' ∨ first = '\n') :=
    not_or.2 ⟨ne_of_isKeyChar isKeyChar (by decide), ne_of_isKeyChar isKeyChar (by decide)⟩
  obtain ⟨behind, isLine⟩ : ∃ behind, field.line ++ rest = first :: behind := by
    simp only [line, isKey, List.cons_append]
    exact ⟨_, rfl⟩
  rw [isLine] at kept step ⊢
  rw [readLines_of_skipBlanks kept noHeader, if_neg other, step, Option.bind_some]

end Field

/-! ## Texts -/

/-- **A list of fields with different keys is read as their table**, behind what has been read
before. -/
theorem readLines_fields (fields : List Field) {fuel : Nat} (enough : fields.length ≤ fuel)
    {entries : Entries} (distinct : (entries.map Prod.fst ++ fields.map Field.key).Nodup) :
    readLines fuel ⟨entries, []⟩ (fields.flatMap Field.line) =
      some ⟨entries ++ fields.map Field.entry, []⟩ := by
  induction fields generalizing fuel entries with
  | nil =>
      rw [List.flatMap_nil, List.map_nil, List.append_nil]
      cases fuel <;> rfl
  | cons field rest ih =>
      obtain ⟨steps, rfl⟩ : ∃ steps, fuel = steps + 1 :=
        Nat.exists_eq_succ_of_ne_zero (Nat.ne_zero_of_lt enough)
      have later : rest.length ≤ steps := Nat.le_of_succ_le_succ enough
      have fresh : field.key ∉ entries.map Prod.fst := fun member =>
        (List.nodup_append.1 distinct).2.2 _ member _ List.mem_cons_self rfl
      rw [List.flatMap_cons, field.readLines_line fresh, ih later]
      · rw [List.append_assoc, List.map_cons, List.singleton_append]
      · rw [List.map_append, List.append_assoc]
        exact distinct

theorem length_le_length_flatMap_line (fields : List Field) :
    fields.length ≤ (fields.flatMap Field.line).length := by
  induction fields with
  | nil => exact Nat.le_refl 0
  | cons field rest ih =>
      have positive := List.length_pos_iff.2 field.line_ne_nil
      rw [List.flatMap_cons, List.length_append, List.length_cons]
      omega

/-- **A text of a comment and fields is read as the table of the fields.** -/
theorem parse_document {comment : List Char} (printing : ∀ c ∈ comment, isPrinting c = true)
    {fields : List Field} (distinct : (fields.map Field.key).Nodup) :
    parse (String.ofList ('#' :: comment ++ '\n' :: fields.flatMap Field.line)) =
      some (fields.map Field.entry) := by
  have noReturn : '\r' ∉ '#' :: comment ++ '\n' :: fields.flatMap Field.line := by
    simp only [List.cons_append, List.mem_cons, List.mem_append, List.mem_flatMap, not_or]
    refine ⟨by decide, fun inComment => ?_, by decide, ?_⟩
    · exact absurd (printing _ inComment) (by decide)
    · rintro ⟨field, -, inField⟩
      exact field.notMem_return_line inField
  have noMark : ('#' :: comment ++ '\n' :: fields.flatMap Field.line).head? ≠
      some byteOrderMark := fun same => absurd (Option.some.inj same) (by decide)
  obtain ⟨fuel, isFuel⟩ : ∃ fuel,
      ('#' :: comment ++ '\n' :: fields.flatMap Field.line).length = fuel + 1 := ⟨_, rfl⟩
  have enough : fields.length ≤ fuel := by
    have := length_le_length_flatMap_line fields
    simp only [List.cons_append, List.length_cons, List.length_append] at isFuel
    omega
  simp only [parse, String.toList_ofList, normalize_eq_self noReturn noMark]
  have read : readLines fuel ⟨[], []⟩ (fields.flatMap Field.line) =
      some ⟨fields.map Field.entry, []⟩ := readLines_fields fields enough distinct
  rw [isFuel, readLines_comment printing, read, Option.map_some]

end Toml

end Highlight
