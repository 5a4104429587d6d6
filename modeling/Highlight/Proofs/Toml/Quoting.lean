import Highlight.Toml.Text
import Mathlib.Tactic.SplitIfs

/-!
# Reading a written string

Between its quotes a string is a row of signs and of bare quotes, of which fewer stand in
a row than close the string (`Form.Spells`). Whether the string is written with escapes
(`spells_escapeAll`) or as it stands (`spells_self`), it is such a row. One step of the
reader takes a sign for its character (`Form.Sign`).

At a bare quote the reader looks ahead. If no more than bare quotes are left of the string,
they stand in one row with the closing quotes and are read together with them. If a sign
is left, the row is too short to close the string (`Spells.quotes`). So the reader comes to
the end of the string with the text that was written (`Spells.readBody_append`), and a
written string is read as it was, whatever its form is (`readText_writeText`).
-/

namespace Highlight

set_option autoImplicit false

theorem hexValue?_capitalHexDigit {value : Nat} (isDigit : value < 16) :
    hexValue? (capitalHexDigit value) = some value := by
  have all : ∀ value < 16, hexValue? (capitalHexDigit value) = some value := by decide
  exact all value isDigit

namespace Toml

/-! ## Fences -/

namespace Form

variable (form : Form)

theorem length_fence : form.fence.length = if form.hasLines then 3 else 1 := by
  rw [fence, List.length_replicate]

theorem fence_eq_cons : form.fence = form.quote :: form.fence.tail := by
  cases form <;> rfl

theorem length_fence_pos : 0 < form.fence.length := by
  cases form <;> decide

/-- A row of quotes with a fence behind it is a longer row of quotes. -/
theorem replicate_append_fence (count : Nat) :
    List.replicate count form.quote ++ form.fence =
      List.replicate (count + form.fence.length) form.quote := by
  rw [fence, List.length_replicate, List.replicate_append_replicate]

end Form

/-! ## Rows of quotes -/

theorem leadingQuotes_cons_self (quote : Char) (text : List Char) :
    leadingQuotes quote (quote :: text) = leadingQuotes quote text + 1 := by
  simp only [leadingQuotes, List.takeWhile_cons, beq_self_eq_true, if_true, List.length_cons]

theorem leadingQuotes_eq_zero {quote : Char} {text : List Char}
    (ends : text.head? ≠ some quote) : leadingQuotes quote text = 0 := by
  cases text with
  | nil => rfl
  | cons first more =>
      have notQuote : (first == quote) = false :=
        beq_eq_false_iff_ne.2 fun same => ends (congrArg some same)
      simp only [leadingQuotes, List.takeWhile_cons, notQuote, Bool.false_eq_true, if_false,
        List.length_nil]

theorem leadingQuotes_replicate_append {quote : Char} {rest : List Char}
    (ends : rest.head? ≠ some quote) (count : Nat) :
    leadingQuotes quote (List.replicate count quote ++ rest) = count := by
  induction count with
  | zero => exact leadingQuotes_eq_zero ends
  | succ count ih =>
      rw [List.replicate_succ, List.cons_append, leadingQuotes_cons_self, ih]

section Close

variable {form : Form} {rest : List Char}

/-- Fewer quotes than close a string stand right before the closing ones. All of them are
read at once. -/
theorem close?_replicate_append_fence (ends : rest.head? ≠ some form.quote) {count : Nat}
    (few : count < form.fence.length) :
    close? form (List.replicate count form.quote ++ (form.fence ++ rest)) =
      some (List.replicate count form.quote, rest) := by
  rw [← List.append_assoc, form.replicate_append_fence]
  by_cases hasLines : form.hasLines
  · simp only [form.length_fence, hasLines, if_true] at few ⊢
    have all : min 5 (count + 3) = count + 3 := Nat.min_eq_right (by omega)
    have enough : ¬ count + 3 < 3 := by omega
    have dropped : (List.replicate (count + 3) form.quote ++ rest).drop (count + 3) = rest :=
      List.drop_left' List.length_replicate
    simp only [close?, hasLines, if_true, leadingQuotes_replicate_append ends, all, enough,
      if_false, Nat.add_sub_cancel, dropped]
  · simp only [form.length_fence, hasLines, Bool.false_eq_true, if_false, Nat.lt_one_iff] at few ⊢
    subst few
    simp only [close?, hasLines, Bool.false_eq_true, if_false]
    rfl

/-- A row of quotes that is too short closes nothing. -/
theorem close?_eq_none {text : List Char}
    (few : leadingQuotes form.quote (form.quote :: text) < form.fence.length) :
    close? form (form.quote :: text) = none := by
  rw [form.length_fence] at few
  by_cases hasLines : form.hasLines
  · simp only [hasLines, if_true] at few
    have short : min 5 (leadingQuotes form.quote (form.quote :: text)) < 3 :=
      Nat.lt_of_le_of_lt (Nat.min_le_right _ _) few
    simp only [close?, hasLines, if_true, short]
  · simp only [hasLines, Bool.false_eq_true, if_false, leadingQuotes_cons_self] at few
    omega

theorem readBody_of_close?_eq_some {text : List Char} {found : List Char × List Char}
    (closes : close? form (form.quote :: text) = some found) :
    readBody form .text (form.quote :: text) = some found := by
  simp only [readBody, Before.skips, Bool.false_eq_true, if_false, if_true, closes]

theorem readBody_of_close?_eq_none {text : List Char}
    (open' : close? form (form.quote :: text) = none) :
    readBody form .text (form.quote :: text) =
      (readBody form .text text).map fun (s, after) => (form.quote :: s, after) := by
  simp only [readBody, Before.skips, Bool.false_eq_true, if_false, if_true, open']

end Close

/-! ## Signs -/

/-- A spelling that stands for a character between the quotes, wherever it does: the reader
takes it for that character, and it does not begin with a quote. It is printing, unless it
is a line break that stands for itself. -/
structure Form.Sign (form : Form) (c : Char) (written : List Char) : Prop where
  reads : ∀ rest, readBody form .text (written ++ rest) =
    (readBody form .text rest).map fun (s, after) => (c :: s, after)
  head : ∃ first more, written = first :: more ∧ first ≠ form.quote
  printing : ∀ d ∈ written, isPrinting d = true ∨ d = '\n' ∧ c = '\n'

section Sign

variable {form : Form} {c : Char}

/-- A character that stands for itself. -/
theorem sign_plain (notQuote : c ≠ form.quote) (notBackslash : form.hasEscapes = true → c ≠ '\\')
    (plain : isPrinting c = true ∨ form.hasLines = true ∧ c = '\n') : form.Sign c [c] where
  reads := by
    intro rest
    have notEscape : (form.hasEscapes && c == '\\') = false := by simpa using notBackslash
    have isPlain : (isPrinting c || (form.hasLines && c == '\n')) = true := by simpa using plain
    simp only [List.singleton_append, readBody, Before.skips, Bool.false_eq_true, if_false,
      notQuote, notEscape, isPlain, if_true]
  head := ⟨c, [], rfl, notQuote⟩
  printing := by
    intro d member
    rw [List.mem_singleton.1 member]
    exact plain.imp_right fun isLineBreak => ⟨isLineBreak.2, isLineBreak.2⟩

theorem isPrinting_of_le (large : 256 ≤ c.toNat) : isPrinting c = true := by
  have blank : ' '.toNat ≤ c.toNat := Nat.le_trans (by decide) large
  have least : ' ' ≤ c := Char.le_def.2 (UInt32.le_iff_toNat_le.2 blank)
  have notDelete : c.toNat ≠ 0x7F := by omega
  simp only [isPrinting, least, decide_true, bne_iff_ne.2 notDelete, Bool.and_self, Bool.or_true]

/-- Control characters have a code of two digits. -/
theorem toNat_lt_of_isControl (control : isControl c = true) : c.toNat < 256 := by
  refine Nat.lt_of_not_le fun large => ?_
  simp only [isControl, isPrinting_of_le large, Bool.not_true, Bool.false_and,
    Bool.false_eq_true] at control

variable (hasEscapes : form.hasEscapes = true)
include hasEscapes

theorem quote_of_hasEscapes : form.quote = '"' := by
  cases form <;> first | rfl | cases hasEscapes

theorem backslash_ne_quote : '\\' ≠ form.quote := by
  rw [quote_of_hasEscapes hasEscapes]
  decide

theorem readBody_backslash (rest : List Char) :
    readBody form .text ('\\' :: rest) = readBody form .backslash rest := by
  simp only [readBody, Before.skips, Bool.false_eq_true, if_false, backslash_ne_quote hasEscapes,
    hasEscapes, beq_self_eq_true, Bool.and_self, if_true]

/-- A character that a letter behind a backslash stands for. -/
theorem sign_letter {letter : Char} (isLetter : unescape? letter = some c)
    (printing : isPrinting letter = true) : form.Sign c ['\\', letter] where
  reads := by
    intro rest
    rw [List.cons_append, List.singleton_append, readBody_backslash hasEscapes, readBody,
      isLetter]
  head := ⟨'\\', [letter], rfl, backslash_ne_quote hasEscapes⟩
  printing := by
    intro d member
    rcases List.mem_cons.1 member with rfl | member
    · exact .inl (by decide)
    · exact .inl (List.mem_singleton.1 member ▸ printing)

/-- A character below 256, by two digits. -/
theorem sign_digits (small : c.toNat < 256) :
    form.Sign c
      ['\\', 'u', '0', '0', capitalHexDigit (c.toNat / 16), capitalHexDigit (c.toNat % 16)] where
  reads := by
    intro rest
    have noLetter : unescape? 'u' = none := rfl
    have unit : escapeDigits? 'u' = some 4 := rfl
    have zero : hexValue? '0' = some 0 := rfl
    have high := hexValue?_capitalHexDigit (Nat.div_lt_of_lt_mul small : c.toNat / 16 < 16)
    have low := hexValue?_capitalHexDigit (Nat.mod_lt c.toNat (by decide : 16 > 0))
    have whole : 16 * (c.toNat / 16) + c.toNat % 16 = c.toNat := Nat.div_add_mod _ _
    have valid : c.toNat.isValidChar := c.valid
    simp only [List.cons_append, List.nil_append, readBody_backslash hasEscapes, readBody, noLetter,
      unit, zero, high, low, Nat.mul_zero, Nat.zero_add, whole, valid, if_true, Char.ofNat_toNat,
      Nat.reduceSub, if_false, Nat.reduceEqDiff]
  head := ⟨'\\', _, rfl, backslash_ne_quote hasEscapes⟩
  printing := by
    have digit : ∀ value < 16, isPrinting (capitalHexDigit value) = true := by decide
    have high := digit (c.toNat / 16) (Nat.div_lt_of_lt_mul small)
    have low := digit (c.toNat % 16) (Nat.mod_lt _ (by decide))
    intro d member
    simp only [List.mem_cons, List.not_mem_nil, or_false] at member
    rcases member with rfl | rfl | rfl | rfl | rfl | rfl
    · exact .inl rfl
    · exact .inl rfl
    · exact .inl rfl
    · exact .inl rfl
    · exact .inl high
    · exact .inl low

/-- **A character is spelled by its escape**, whatever it is. -/
theorem sign_escape (notQuote : c ≠ '"') : form.Sign c (escape form c) := by
  have notQuote : c ≠ form.quote := by rwa [quote_of_hasEscapes hasEscapes]
  unfold escape
  split_ifs with backslash tab lineBreak lineFeed carriageReturn backspace formFeed control
  · subst backslash
    exact sign_letter hasEscapes rfl rfl
  · subst tab
    exact sign_letter hasEscapes rfl rfl
  · rw [← lineBreak.1]
    exact sign_plain notQuote (fun _ => backslash) (.inr lineBreak.symm)
  · subst lineFeed
    exact sign_letter hasEscapes rfl rfl
  · subst carriageReturn
    exact sign_letter hasEscapes rfl rfl
  · refine sign_letter hasEscapes ?_ rfl
    rw [← Char.ofNat_toNat c, backspace]
    rfl
  · refine sign_letter hasEscapes ?_ rfl
    rw [← Char.ofNat_toNat c, formFeed]
    rfl
  · exact sign_digits hasEscapes (toNat_lt_of_isControl control)
  · refine sign_plain notQuote (fun _ => backslash) (.inl ?_)
    simpa [isControl, lineFeed] using control

end Sign

/-! ## Spellings -/

/-- The characters between the quotes of a form that spell a text, if a number of bare
quotes stand just before them. With these, bare quotes never stand in a row as long as a
fence. -/
inductive Form.Spells (form : Form) : Nat → List Char → List Char → Prop
  | nil {before : Nat} (few : before < form.fence.length) : Spells form before [] []
  | quote {before : Nat} {text written : List Char} (rest : Spells form (before + 1) text written) :
      Spells form before (form.quote :: text) (form.quote :: written)
  | sign {before : Nat} {c : Char} {text sign written : List Char}
      (few : before < form.fence.length) (isSign : form.Sign c sign)
      (rest : Spells form 0 text written) :
      Spells form before (c :: text) (sign ++ written)

section Spelling

variable {form : Form} {before : Nat} {text written : List Char}

/-- Without escapes a text that suits the form is spelled by itself. -/
theorem spells_self (noEscapes : form.hasEscapes = false)
    (plain : ∀ c ∈ text, isPrinting c = true ∨ form.hasLines = true ∧ c = '\n')
    (few : longestRow form.quote before text < form.fence.length) :
    form.Spells before text text := by
  induction text generalizing before with
  | nil => exact .nil few
  | cons c rest ih =>
      have later := fun d member => plain d (List.mem_cons_of_mem c member)
      rw [longestRow] at few
      split at few
      · next isQuote =>
        subst isQuote
        exact .quote (ih later few)
      · next notQuote =>
        have notBackslash : form.hasEscapes = true → c ≠ '\\' := by simp [noEscapes]
        have isSign := sign_plain notQuote notBackslash (plain c List.mem_cons_self)
        exact .sign (Nat.lt_of_le_of_lt (Nat.le_max_left _ _) few) isSign
          (ih later (Nat.lt_of_le_of_lt (Nat.le_max_right _ _) few))

/-- With escapes every text is spelled by its signs and, as long as they are few, bare
quotes. -/
theorem spells_escapeAll (hasEscapes : form.hasEscapes = true) (text : List Char)
    (few : before < form.fence.length) :
    form.Spells before text (escapeAll form before text) := by
  induction text generalizing before with
  | nil => exact .nil few
  | cons c rest ih =>
      rw [escapeAll]
      split_ifs with isQuote full
      · subst isQuote
        exact .sign few (sign_letter hasEscapes rfl rfl) (ih form.length_fence_pos)
      · rw [isQuote, ← quote_of_hasEscapes hasEscapes]
        exact .quote (ih (Nat.lt_of_le_of_ne few full))
      · exact .sign few (sign_escape hasEscapes isQuote) (ih form.length_fence_pos)

namespace Form.Spells

theorem printing (spells : form.Spells before text written) :
    ∀ d ∈ written, isPrinting d = true ∨ d = '\n' ∧ '\n' ∈ text := by
  induction spells with
  | nil => exact fun d none => absurd none List.not_mem_nil
  | quote _ ih =>
      intro d member
      rcases List.mem_cons.1 member with rfl | member
      · exact .inl (by cases form <;> rfl)
      · exact (ih d member).imp_right (And.imp_right (List.mem_cons_of_mem _))
  | sign _ isSign _ ih =>
      intro d member
      rcases List.mem_append.1 member with member | member
      · refine (isSign.printing d member).imp_right (And.imp_right ?_)
        rintro rfl
        exact List.mem_cons_self
      · exact (ih d member).imp_right (And.imp_right (List.mem_cons_of_mem _))

theorem few (spells : form.Spells before text written) : before < form.fence.length := by
  induction spells with
  | nil few => exact few
  | quote _ ih => exact Nat.lt_of_succ_lt ih
  | sign few => exact few

/-- **What the reader sees at a quote**: either all that is left are bare quotes, and they
are fewer than close a string, or the row of quotes is too short to close the string,
whatever follows. -/
theorem quotes (spells : form.Spells before text written) :
    (∃ count, before + count < form.fence.length ∧ text = List.replicate count form.quote ∧
        written = List.replicate count form.quote) ∨
      ∀ rest, before + leadingQuotes form.quote (written ++ rest) < form.fence.length := by
  induction spells with
  | nil few => exact .inl ⟨0, few, rfl, rfl⟩
  | quote _ ih =>
      rcases ih with ⟨count, few, sameText, sameWritten⟩ | few
      · refine .inl ⟨count + 1, ?_, ?_, ?_⟩
        · omega
        · rw [sameText, List.replicate_succ]
        · rw [sameWritten, List.replicate_succ]
      · refine .inr fun rest => ?_
        have := few rest
        rw [List.cons_append, leadingQuotes_cons_self]
        omega
  | sign few isSign _ _ =>
      obtain ⟨first, more, rfl, notQuote⟩ := isSign.head
      refine .inr fun rest => ?_
      rw [leadingQuotes_eq_zero]
      · exact few
      · exact fun same => notQuote (Option.some.inj same)

/-- **The reader gives a spelled text back**, and what stands behind the closing quotes. -/
theorem readBody_append (spells : form.Spells before text written) {rest : List Char}
    (ends : rest.head? ≠ some form.quote) :
    readBody form .text (written ++ (form.fence ++ rest)) = some (text, rest) := by
  induction spells with
  | nil =>
      have closes := close?_replicate_append_fence ends form.length_fence_pos
      rw [List.replicate_zero, List.nil_append, form.fence_eq_cons, List.cons_append] at closes
      rw [List.nil_append, form.fence_eq_cons, List.cons_append]
      exact readBody_of_close?_eq_some closes
  | quote inner ih =>
      rcases inner.quotes with ⟨count, few, sameText, sameWritten⟩ | few
      · have fewer : count + 1 < form.fence.length := by omega
        have closes := close?_replicate_append_fence ends fewer
        rw [sameText, sameWritten]
        exact readBody_of_close?_eq_some closes
      · have short := few (form.fence ++ rest)
        rw [List.cons_append, readBody_of_close?_eq_none, ih]
        · rfl
        · refine close?_eq_none ?_
          rw [leadingQuotes_cons_self]
          omega
  | sign _ isSign _ ih =>
      rw [List.append_assoc, isSign.reads, ih]
      rfl

/-- A string only begins with a line break if its text has one. -/
theorem lineBreak_mem (spells : form.Spells before text written) {rest : List Char}
    (isHead : (written ++ (form.fence ++ rest)).head? = some '\n') : '\n' ∈ text := by
  cases written with
  | nil =>
      rw [List.nil_append, form.fence_eq_cons, List.cons_append, List.head?_cons] at isHead
      cases form <;> cases isHead
  | cons first more =>
      cases Option.some.inj isHead
      rcases spells.printing '\n' List.mem_cons_self with printing | ⟨-, member⟩
      · cases printing
      · exact member

/-- Behind a fence of one quote a string does not begin with two further ones. -/
theorem not_isPrefix (spells : form.Spells before text written) (short : form.hasLines = false)
    {rest : List Char} (ends : rest.head? ≠ some form.quote) :
    ¬ [form.quote, form.quote] <+: written ++ (form.fence ++ rest) := by
  have single : form.fence = [form.quote] := by
    rw [Form.fence, short]
    rfl
  cases spells with
  | nil =>
      rw [single]
      rintro ⟨more, same⟩
      have behind : form.quote :: more = rest := (List.cons.inj same).2
      exact ends (behind ▸ rfl)
  | quote inner =>
      have := inner.few
      rw [single, List.length_singleton] at this
      omega
  | sign _ isSign _ =>
      obtain ⟨first, _, rfl, notQuote⟩ := isSign.head
      rintro ⟨more, same⟩
      exact notQuote (List.cons.inj same).1.symm

end Form.Spells

end Spelling

/-! ## Strings -/

section Suits

variable {form : Form} {text : List Char} (suits : form.suits text = true)

include suits

/-- A text that suits a form has no control characters, and line breaks only where there
may be some. -/
theorem plain_of_suits {c : Char} (member : c ∈ text) :
    isPrinting c = true ∨ form.hasLines = true ∧ c = '\n' := by
  simp only [Form.suits, Bool.and_eq_true, Bool.or_eq_true, Bool.not_eq_true', List.any_eq_false,
    List.contains_eq_mem, decide_eq_false_iff_not] at suits
  obtain ⟨⟨⟨noControl, -⟩, lines⟩, -⟩ := suits
  by_cases printing : isPrinting c = true
  · exact .inl printing
  · have isLineBreak : c = '\n' := by
      simpa [isControl, printing] using noControl c member
    refine .inr ⟨lines.resolve_right fun none => none ?_, isLineBreak⟩
    rwa [← isLineBreak]

theorem longestRow_of_suits : longestRow form.quote 0 text < form.fence.length := by
  simp only [Form.suits, Bool.and_eq_true] at suits
  exact of_decide_eq_true suits.2

end Suits

/-- A form without escapes is only taken for a text that suits it. -/
theorem suits_of (text : List Char) :
    (Form.of text).hasEscapes = true ∨ (Form.of text).suits text = true := by
  unfold Form.of
  split_ifs with basic literal basicLines literalLines
  · exact .inl rfl
  · exact .inr literal
  · exact .inl rfl
  · exact .inr literalLines
  · exact .inl rfl
  · exact .inl rfl

/-- The line break that is written behind the opening quotes of a text with line breaks. -/
def Form.lead (form : Form) (text : List Char) : List Char :=
  if form.hasLines && text.contains '\n' then ['\n'] else []

/-- What stands between the quotes of a written string spells the text. -/
theorem exists_spells (text : List Char) :
    ∃ written, (Form.of text).Spells 0 text written ∧
      writeText text = (Form.of text).fence ++
        ((Form.of text).lead text ++ (written ++ (Form.of text).fence)) := by
  by_cases hasEscapes : (Form.of text).hasEscapes = true
  · refine ⟨_, spells_escapeAll hasEscapes text (Form.of text).length_fence_pos, ?_⟩
    simp only [writeText, writeIn, Form.lead, hasEscapes, if_true, List.append_assoc]
  · have suits := (suits_of text).resolve_left hasEscapes
    have noEscapes : (Form.of text).hasEscapes = false := by simpa using hasEscapes
    refine ⟨text, spells_self noEscapes (fun c => plain_of_suits suits)
      (longestRow_of_suits suits), ?_⟩
    simp only [writeText, writeIn, Form.lead, noEscapes, Bool.false_eq_true, if_false,
      List.append_assoc]

/-- A string is read in its form as the text that it spells. -/
theorem readIn_append {form : Form} {text written rest : List Char}
    (spells : form.Spells 0 text written) (ends : rest.head? ≠ some form.quote) :
    readIn form (form.lead text ++ (written ++ (form.fence ++ rest))) =
      some (String.ofList text, rest) := by
  have body := spells.readBody_append ends
  by_cases broken : (form.hasLines && text.contains '\n') = true
  · have lead : form.lead text = ['\n'] := if_pos broken
    have hasLines : form.hasLines = true := (Bool.and_eq_true_iff.1 broken).1
    simp only [readIn, lead, List.singleton_append, List.head?_cons, List.tail_cons, hasLines,
      beq_self_eq_true, Bool.and_self, if_true, body, Option.map_some]
  · have lead : form.lead text = [] := if_neg broken
    have kept : ¬ (form.hasLines && (written ++ (form.fence ++ rest)).head? == some '\n') =
        true := by
      intro skipped
      obtain ⟨hasLines, isHead⟩ := Bool.and_eq_true_iff.1 skipped
      have inText := spells.lineBreak_mem (beq_iff_eq.1 isHead)
      refine broken ?_
      simp only [hasLines, List.contains_eq_mem, inText, decide_true, Bool.and_self]
    simp only [readIn, lead, List.nil_append, kept, if_false, body, Option.map_some,
      Bool.false_eq_true]

/-- A string with a fence of three is recognized by it. -/
theorem readText_of_hasLines {form : Form} (hasLines : form.hasLines = true) (text : List Char) :
    readText (form.fence ++ text) = readIn form text := by
  cases form <;> first | rfl | cases hasLines

/-- A string with a fence of one is recognized by it, unless two further quotes follow. -/
theorem readText_of_short {form : Form} (short : form.hasLines = false) {text : List Char}
    (notFence : ¬ [form.quote, form.quote] <+: text) :
    readText (form.fence ++ text) = readIn form text := by
  cases form with
  | basic =>
      change readText ('"' :: text) = readIn .basic text
      unfold readText
      split
      · next rest same =>
        cases same
        exact absurd ⟨rest, rfl⟩ notFence
      · next same => cases same
      · rfl
  | literal =>
      change readText ('\'' :: text) = readIn .literal text
      unfold readText
      split
      · next same => cases same
      · next rest same =>
        cases same
        exact absurd ⟨rest, rfl⟩ notFence
      · rfl
  | basicLines => cases short
  | literalLines => cases short

/-- **A written string is read as it was**, whatever is in it, if no quote stands behind
it. -/
theorem readText_writeText (text : List Char) {rest : List Char}
    (ends : ∀ form : Form, rest.head? ≠ some form.quote) :
    readText (writeText text ++ rest) = some (String.ofList text, rest) := by
  obtain ⟨written, spells, isWritten⟩ := exists_spells text
  generalize Form.of text = form at spells isWritten
  rw [isWritten, ← readIn_append spells (ends form)]
  simp only [List.append_assoc]
  cases hasLines : form.hasLines with
  | true => exact readText_of_hasLines hasLines _
  | false =>
      have lead : form.lead text = [] := by simp only [Form.lead, hasLines, Bool.false_and]; rfl
      rw [lead]
      exact readText_of_short hasLines (spells.not_isPrefix hasLines (ends form))

example :
    readText (writeText "it's \"so\"".toList ++ ['\n']) = some ("it's \"so\"", ['\n']) := by
  decide

/-- A written string begins with a quote. -/
theorem exists_writeText_eq (text : List Char) :
    ∃ (form : Form) (more : List Char), writeText text = form.quote :: more := by
  obtain ⟨written, -, isWritten⟩ := exists_spells text
  rw [(Form.of text).fence_eq_cons, List.cons_append] at isWritten
  exact ⟨_, _, isWritten⟩

/-- A written string has no control characters in it but line breaks. -/
theorem printing_writeText (text : List Char) :
    ∀ c ∈ writeText text, isPrinting c = true ∨ c = '\n' := by
  obtain ⟨written, spells, isWritten⟩ := exists_spells text
  generalize Form.of text = form at spells isWritten
  have fence : form.fence.all isPrinting = true := by cases form <;> decide
  have ofFence := List.all_eq_true.1 fence
  intro c member
  simp only [isWritten, List.mem_append] at member
  rcases member with opening | lead | inner | closing
  · exact .inl (ofFence c opening)
  · simp only [Form.lead, List.mem_ite_nil_right, List.mem_singleton] at lead
    exact .inr lead.2
  · exact (spells.printing c inner).imp_right And.left
  · exact .inl (ofFence c closing)

end Toml

end Highlight
