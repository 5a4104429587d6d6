import Highlight.Proofs.Toml.Fields
import Highlight.Settings.File

/-!
# Settings are read as they were written

A settings file is a comment and five fields with different keys, of which each gives one of
the settings (`print_eq`). Its text is therefore read as a table with these settings in it,
whatever characters are in their strings (`parse_print`). Neither the bytes of the file nor
what stood there before get in the way: settings that have been saved are found again
(`ofFile_of_save_eq_ok`).
-/

namespace Highlight

set_option autoImplicit false

/-! ## The bytes of a text -/

theorem toList_loop_eq (bytes : ByteArray) (position : Nat) (read : List UInt8) :
    ByteArray.toList.loop bytes position read =
      read.reverse ++ bytes.data.toList.drop position := by
  fun_induction ByteArray.toList.loop bytes position read with
  | case1 position read inside ih =>
      have inside' : position < bytes.data.toList.length := inside
      have found : bytes.get! position = bytes.data[position] :=
        getElem!_pos bytes.data position inside
      rw [ih, List.drop_eq_getElem_cons inside', List.reverse_cons, List.append_assoc,
        List.singleton_append, found, Array.getElem_toList]
  | case2 position read outside =>
      have none : bytes.data.toList.length ≤ position := Nat.le_of_not_lt outside
      rw [List.drop_eq_nil_of_le none, List.append_nil]

/-- The bytes that encode a text are read as this text. -/
theorem textOf?_toUTF8 (text : String) : textOf? text.toUTF8.toList = some text := by
  have bytes : text.toUTF8.toList.toArray = text.toUTF8.data := by
    rw [ByteArray.toList, toList_loop_eq]
    rfl
  have isText : text.toUTF8.IsValidUTF8 := text.isValidUTF8
  rw [textOf?, bytes, String.fromUTF8?, dif_pos isText]
  rfl

/-! ## Fields -/

namespace Settings

open Toml

/-- A truth value is read as it was written. -/
theorem spelled_truthText (truth : Bool) : (Value.truth truth).Spelled (truthText truth) where
  reads := by
    intro fuel levels rest
    cases truth <;> rfl
  head := by cases truth <;> exact ⟨_, _, rfl, rfl⟩
  printing := by
    have all : (truthText truth).all isPrinting = true := by cases truth <;> decide
    intro c member
    exact .inl (List.all_eq_true.1 all c member)

/-- A string is read as it was written. -/
theorem spelled_writeText (text : String) : (Value.text text).Spelled (writeText text.toList) where
  reads := by
    intro fuel levels rest
    have ends : ∀ form : Form, ('\n' :: rest).head? ≠ some form.quote := by
      intro form same
      cases form <;> cases same
    have read := readText_writeText text.toList ends
    obtain ⟨form, more, isWritten⟩ := exists_writeText_eq text.toList
    rw [String.ofList_toList, isWritten, List.cons_append] at read
    rw [isWritten, List.cons_append]
    cases form <;> exact congrArg (Option.map _) read
  head := by
    obtain ⟨form, more, isWritten⟩ := exists_writeText_eq text.toList
    refine ⟨form.quote, more, isWritten, ?_⟩
    cases form <;> rfl
  printing := printing_writeText text.toList

/-- The field for a truth value. -/
def truthField (key : String) (bare : IsBare key.toList) (truth : Bool) : Field where
  key := key
  value := .truth truth
  written := truthText truth
  bare := bare
  spelled := spelled_truthText truth

/-- The field for a string. -/
def textField (key : String) (bare : IsBare key.toList) (text : String) : Field where
  key := key
  value := .text text
  written := writeText text.toList
  bare := bare
  spelled := spelled_writeText text

/-- The keys of all settings. -/
def keys : List String := [perLineKey, grammarKey, codeKindKey, classPrefixKey, cachedKey]

/-- No setting needs quotes around its key. -/
theorem bare_keys : ∀ key ∈ keys, IsBare key.toList := by
  have chars : ∀ key ∈ keys, key.toList ≠ [] ∧ key.toList.all isKeyChar = true := by decide
  intro key member
  obtain ⟨nonempty, all⟩ := chars key member
  exact ⟨nonempty, List.all_eq_true.1 all⟩

/-- The fields of a settings file. -/
def fields (s : Settings) : List Field :=
  [truthField perLineKey (bare_keys _ (by decide)) s.perLine,
    textField grammarKey (bare_keys _ (by decide)) s.grammar,
    textField codeKindKey (bare_keys _ (by decide)) s.codeKind,
    textField classPrefixKey (bare_keys _ (by decide)) s.classPrefix,
    truthField cachedKey (bare_keys _ (by decide)) s.cached]

/-- A settings file is a comment and its fields. -/
theorem print_eq (s : Settings) :
    s.print = String.ofList
      ('#' :: " decor configuration".toList ++ '\n' :: s.fields.flatMap Field.line) := by
  have first : heading.toList = '#' :: " decor configuration".toList ++ ['\n'] := by decide
  simp only [print, first, fields, List.flatMap_cons, List.flatMap_nil, List.append_assoc,
    List.singleton_append, List.append_nil]
  rfl

/-- The table of the fields gives the settings. -/
theorem ofEntries_fields (s : Settings) : ofEntries (s.fields.map Field.entry) = .ok s := by
  rfl

/-- **Settings are read as they were written.** -/
theorem parse_print (s : Settings) : parse s.print = .ok s := by
  have distinct : (s.fields.map Field.key).Nodup := by
    change keys.Nodup
    decide
  have comment : " decor configuration".toList.all isPrinting = true := by decide
  rw [parse, print_eq, parse_document (List.all_eq_true.1 comment) distinct]
  exact ofEntries_fields s

/-! ## Files -/

/-- A file to which settings are written holds them. -/
theorem ofFile_ofText_print (s : Settings) : ofFile (some (.ofText s.print)) = s := by
  have text : FileEntry.textOf (some (.ofText s.print)) = .ok s.print := by
    simp only [FileEntry.textOf, FileEntry.ofText, FileEntry.text, textOf?_toUTF8]
  simp only [ofFile, text, parse_print]

/-- Settings are saved at every place but a directory. -/
theorem save_eq_ok (s : Settings) {place : Option FileEntry}
    (notDirectory : place ≠ some .directory) : s.save place = .ok (.ofText s.print) := by
  unfold save
  split
  · exact absurd rfl notDirectory
  · rfl

/-- **Saved settings are found again.** -/
theorem ofFile_of_save_eq_ok {s : Settings} {place : Option FileEntry} {entry : FileEntry}
    (saved : s.save place = .ok entry) : ofFile (some entry) = s := by
  have notDirectory : place ≠ some .directory := by
    rintro rfl
    cases saved
  rw [save_eq_ok s notDirectory] at saved
  cases saved
  exact s.ofFile_ofText_print

end Settings

end Highlight
