import Highlight.Language.All
import Highlight.Proofs.Language.TemplateRun
import Highlight.Proofs.Language.TripleQuoteRun
import Mathlib.Data.List.Infix

/-!
# A comment behind a string

The languages with strings in double quotes and with comments to the end of the line
(`Language.Commented`) claim comments before strings, and a string that begins earlier takes over
the part of a comment that lies in it. What it does not take over becomes plain text, to which the
rules for comments are not applied again. So a string with the sign of a comment in it costs a
comment behind it, and so does the beginning of a string of the longer kind that a language may
have, if such a string goes on into the comment.

`Language.Commented.tokenize_eq_tokens_iff` says exactly when a string, a space and a comment become
these three tokens. Both conditions are read off what is in the string and in the comment
(`Language.Commented.EndsInComment`, `Language.Commented.Overrun`).
-/

namespace Highlight

set_option autoImplicit false

namespace Language

open Pattern Piece

/-- The languages with strings in double quotes and comments to the end of the line. -/
inductive Commented where
  | javaScript
  | rust
  | cLang
  | python
  | toml
deriving DecidableEq

namespace Commented

/-! ## The rules in their order -/

/-- The grammar of a language. -/
def grammar : Commented → Grammar
  | javaScript => JavaScript.grammar
  | rust => Rust.grammar
  | cLang => C.grammar
  | python => Python.grammar
  | toml => Toml.grammar

/-- The sign that a comment to the end of the line begins with. -/
def sign : Commented → String
  | javaScript | rust | cLang => "//"
  | python | toml => "#"

/-- The rule for enclosed comments. -/
def blockRule : Rule := ⟨"comment", blockComment, true, none, none⟩

/-- The rule for comments to the end of the line. -/
def lineRule (sign : String) : Rule := ⟨"comment", lineComment sign, true, none, none⟩

/-- The rules for comments, which come first. -/
def comments : Commented → List Rule
  | javaScript | rust | cLang => [blockRule, lineRule "//"]
  | python | toml => [lineRule "#"]

/-- The rule for strings of a longer kind, if it comes before the one for other strings. -/
def longString? : Commented → Option Rule
  | javaScript => some ⟨"template-string", JavaScript.template, true, none,
      some JavaScript.templateRules⟩
  | python => some ⟨"triple-quoted-string", Python.tripleQuoted, true, some "string", none⟩
  | rust | cLang | toml => none

/-- The rules in front of the one for strings that find something at the beginning of a line
only. -/
def lineRules : Commented → List Rule
  | cLang => [⟨"macro", C.directive, true, some "property", some C.directiveRules⟩]
  | toml => [⟨"table", Toml.header, true, some "class-name", none⟩,
      ⟨"key", Toml.key, true, some "property", none⟩]
  | javaScript | rust | python => []

/-- What strings look like. -/
def stringPattern : Commented → Pattern
  | javaScript => JavaScript.string
  | rust => Rust.string
  | cLang => quoted '"'
  | python => Python.string
  | toml => Toml.string

/-- The rule for strings. -/
def stringRule (l : Commented) : Rule := ⟨"string", l.stringPattern, true, none, none⟩

/-- The rules behind the one for strings. -/
def otherRules : Commented → List Rule
  | javaScript => JavaScript.rules.drop 4
  | rust => Rust.rules.drop 3
  | cLang => C.rules.drop 4
  | python => Python.rules.drop 3
  | toml => Toml.rules.drop 4

theorem rules_grammar (l : Commented) : l.grammar.rules =
    (l.comments ++ l.longString?.toList) ++
      (l.lineRules ++ [l.stringRule]) ++ l.otherRules := by
  cases l <;> rfl

/-! ## The text and its tokens -/

/-- A string, a space and a comment. -/
def text (l : Commented) (b c : String) : String := "\"" ++ b ++ "\" " ++ l.sign ++ c

/-- The characters of the text. -/
def characters (l : Commented) (b c : String) : Array Char := charactersOf (l.text b c)

/-- Where the string stands. -/
def stringSpan (b : String) : Span := ⟨0, b.length + 2⟩

/-- Where the space stands. -/
def spaceSpan (b : String) : Span := ⟨b.length + 2, b.length + 3⟩

/-- Where the comment stands. -/
def commentSpan (l : Commented) (b c : String) : Span := ⟨b.length + 3, (l.characters b c).size⟩

/-- The tokens of a string, a space and a comment. -/
def tokens (l : Commented) (b c : String) : List Token :=
  [.leaf "string" none ("\"" ++ b ++ "\""), .literal " ", .leaf "comment" none (l.sign ++ c)]

/-- The pieces of a string, a space and a comment. -/
def pieces (l : Commented) (b c : String) : List Piece :=
  [.token (stringSpan b) (.leaf "string" none ("\"" ++ b ++ "\"")), .plain (spaceSpan b),
    .token (l.commentSpan b c) (.leaf "comment" none (l.sign ++ c))]

/-- The comment as a piece. -/
def commentPiece (l : Commented) (b c : String) : Piece :=
  .token (l.commentSpan b c) (.leaf "comment" none (l.sign ++ c))

/-- What the rules for comments make of the text. -/
def uncommented (l : Commented) (b c : String) : List Piece :=
  Rule.applyAll l.comments (l.characters b c) (Piece.start (l.characters b c))

/-- A text that is read for comments only ends in one. -/
def EndsInComment : Commented → String → Prop
  | javaScript, b | rust, b | cLang, b => endsInComment false b.toList = true
  | python, b | toml, b => '#' ∈ b.toList

instance : (l : Commented) → (b : String) → Decidable (l.EndsInComment b)
  | javaScript, b | rust, b | cLang, b =>
      inferInstanceAs (Decidable (endsInComment false b.toList = true))
  | python, b | toml, b => inferInstanceAs (Decidable ('#' ∈ b.toList))

/-- The quote of strings of a longer kind, other than double quotes. -/
def longQuote? : Commented → Option (List Char)
  | javaScript => some [backtick]
  | python => some ['\'', '\'', '\'']
  | rust | cLang | toml => none

/-- What is recognized before strings are: comments and strings of a longer kind. -/
def claiming (l : Commented) : Grammar :=
  { l.grammar with rules := l.comments ++ l.longString?.toList }

/-- A string of a longer kind that begins in the string goes on into the comment. -/
def Overrun : Commented → String → String → Prop
  | javaScript, b, c => templateRunsOn ("\" //".toList ++ c.toList) 0 .outside b.toList = true
  | python, b, c => endsInTripleQuotes false b.toList = true ∧ "'''".toList <:+: c.toList
  | rust, _, _ | cLang, _, _ | toml, _, _ => False

instance : (l : Commented) → (b c : String) → Decidable (l.Overrun b c)
  | javaScript, b, c => inferInstanceAs
      (Decidable (templateRunsOn ("\" //".toList ++ c.toList) 0 .outside b.toList = true))
  | python, b, c => inferInstanceAs
      (Decidable (endsInTripleQuotes false b.toList = true ∧ "'''".toList <:+: c.toList))
  | rust, _, _ | cLang, _, _ | toml, _, _ => inferInstanceAs (Decidable False)

/-- Without strings of a longer kind none goes on into the comment. -/
theorem not_overrun {l : Commented} {b c : String} (without : l.longString? = none) :
    ¬ l.Overrun b c := by
  cases l with
  | javaScript => cases without
  | python => cases without
  | rust => exact id
  | cLang => exact id
  | toml => exact id

/-! ## The shape of the text -/

/-- A string in double quotes on one line, without a backslash. -/
def IsBody (b : String) : Prop := ∀ x ∈ b.toList, x ∉ ['\\', '"', '\r', '\n']

instance (b : String) : Decidable (IsBody b) := List.decidableBAll _ b.toList

section Shape

variable {l : Commented} {b c : String}

theorem toList_text (l : Commented) (b c : String) : (l.text b c).toList =
    ['"'] ++ (b.toList ++ (['"', ' '] ++ (l.sign.toList ++ c.toList))) := by
  have quote : "\"".toList = ['"'] := rfl
  have behind : "\" ".toList = ['"', ' '] := rfl
  simp only [text, String.toList_append, quote, behind, List.append_assoc]

theorem standAt_characters (l : Commented) (b c : String) :
    StandAt (l.characters b c) ['"'] 0 ∧ StandAt (l.characters b c) b.toList 1 ∧
      StandAt (l.characters b c) (['"', ' '] ++ (l.sign.toList ++ c.toList)) (b.length + 1) := by
  have all := standAt_toArray [] (l.text b c).toList
  rwa [List.nil_append, toList_text, standAt_append_iff, standAt_append_iff, String.length_toList,
    ← toList_text, List.length_nil, List.length_singleton, Nat.zero_add, Nat.add_comm 1] at all

theorem size_characters (l : Commented) (b c : String) :
    b.length + 1 + (['"', ' '] ++ (l.sign.toList ++ c.toList)).length =
      (l.characters b c).size := by
  simp only [characters, charactersOf, List.size_toArray, toList_text, List.length_append,
    String.length_toList, List.length_singleton]
  omega

/-- The string has as many characters as its quotes are apart. -/
theorem length_body (b : String) : 1 + b.toList.length = b.length + 1 := by
  rw [String.length_toList, Nat.add_comm]

/-- The text is a string with a comment behind it. -/
theorem shape (plain : IsBody b) (line : '\n' ∉ c.toList) :
    StringThenComment (l.characters b c) l.sign.toList (b.length + 1) := by
  obtain ⟨opens, body, behind⟩ := standAt_characters l b c
  obtain ⟨ends, rest⟩ := standAt_append_iff.1 behind
  have sign := (standAt_append_iff.1 rest).1
  refine ⟨opens.1, by omega, fun i low high => ?_, ends.1, ends.2.1, sign, fun i present => ?_⟩
  · have inside : i - 1 < b.toList.length := by rw [String.length_toList]; omega
    have here := body.getElem? inside
    rw [Nat.add_sub_cancel' low, List.getElem?_eq_getElem inside] at here
    exact ⟨_, here, plain _ (List.getElem_mem inside)⟩
  · have member : '\n' ∈ (l.text b c).toList := by
      rw [characters, charactersOf, List.getElem?_toArray] at present
      exact List.mem_of_getElem? present
    have signs : '\n' ∉ l.sign.toList := by cases l <;> decide
    simp only [toList_text, List.mem_append, signs, line, or_false] at member
    rcases member with quote | inBody | quote
    · exact absurd quote (by decide)
    · exact plain _ inBody (by decide)
    · exact absurd quote (by decide)

theorem text_span {whole before middle after : List Char} {span : Span}
    (parts : whole = before ++ (middle ++ after)) (low : span.start = before.length)
    (high : span.stop = before.length + middle.length) :
    span.text whole.toArray = String.ofList middle := by
  rw [Span.text, stringOf, Span.slice, low, high, parts]
  simp [List.extract]

theorem text_stringSpan : (stringSpan b).text (l.characters b c) = "\"" ++ b ++ "\"" := by
  have parts : (l.text b c).toList =
      [] ++ (("\"" ++ b ++ "\"").toList ++ ' ' :: (l.sign.toList ++ c.toList)) := by
    have quote : "\"".toList = ['"'] := rfl
    simp [toList_text, quote]
  rw [characters, charactersOf, text_span parts rfl, String.ofList_toList]
  have quote : "\"".length = 1 := rfl
  rw [String.length_toList, String.length_append, String.length_append, quote, stringSpan]
  simp only [List.length_nil]
  omega

theorem text_spaceSpan : (spaceSpan b).text (l.characters b c) = " " := by
  have parts : (l.text b c).toList =
      ('"' :: b.toList ++ ['"']) ++ ([' '] ++ (l.sign.toList ++ c.toList)) := by
    simp [toList_text]
  have length : ('"' :: b.toList ++ ['"']).length = b.length + 2 := by simp [← String.length_toList]
  exact (text_span parts length.symm (congrArg (· + 1) length.symm)).trans rfl

theorem text_commentSpan : (l.commentSpan b c).text (l.characters b c) = l.sign ++ c := by
  have parts : (l.text b c).toList =
      ('"' :: b.toList ++ ['"', ' ']) ++ ((l.sign ++ c).toList ++ []) := by
    simp [toList_text]
  rw [characters, charactersOf, text_span parts, String.ofList_toList]
  · simp [commentSpan, ← String.length_toList]
  · simp only [commentSpan, characters, charactersOf, List.size_toArray, parts, List.append_nil,
      List.length_append]

end Shape

/-! ## What the rules find -/

/-- The rules for comments are greedy and begin neither with a quote nor with a space. -/
theorem comments_are {l : Commented} {rule : Rule} (member : rule ∈ l.comments) :
    rule.category = "comment" ∧ rule.greedy = true ∧ rule.pattern.hasToken = false ∧
      rule.pattern.rejects '"' = true ∧ rule.pattern.rejects ' ' = true := by
  revert rule
  cases l <;> decide +kernel

/-- The rule for strings of a longer kind is greedy and does not begin with a space. -/
theorem longString_is {l : Commented} {rule : Rule} (isLong : l.longString? = some rule) :
    rule.category ≠ "comment" ∧ rule.greedy = true ∧ rule.pattern.hasToken = false ∧
      rule.pattern.rejects ' ' = true := by
  cases l <;> cases isLong <;> decide +kernel

/-- The rules for lines are greedy and do not begin with a quote. -/
theorem lineRules_are {l : Commented} {rule : Rule} (member : rule ∈ l.lineRules) :
    rule.category ≠ "comment" ∧ rule.greedy = true ∧
      rule.pattern.firstAssertion? = some .lineStart ∧ rule.pattern.rejects '"' = true := by
  revert rule
  cases l <;> decide +kernel

/-- The rules behind the one for strings find nothing in the space. -/
theorem otherRules_are {l : Commented} {rule : Rule} (member : rule ∈ l.otherRules) :
    rule.category ≠ "comment" ∧
      if rule.greedy then rule.pattern.rejects ' ' = true
      else rule.pattern.find #[' '] 0 = none := by
  revert rule
  cases l <;> decide +kernel

/-! ## What is found where a string begins -/

section Begins

variable {l : Commented} {text : Array Char} {close other : Nat}
  (begins : BeginsWithString text close)
include begins

theorem spanning_reaches_iff : Rust.spanning.Reaches text 0 other ↔ other = close + 1 := by
  refine reaches_enclosed_iff (by decide) (by decide) (by decide) begins.opens begins.low
    (fun i low high => ?_) begins.closes
  obtain ⟨x, present, allowed⟩ := begins.body i low high
  refine ⟨x, present, fun member => allowed ?_⟩
  exact List.mem_append_left ['\r', '\n'] member

/-- In either kind of quotes, the string reaches its end and nothing else. -/
theorem eitherQuoted_reaches_iff :
    (choice [quoted '"', quoted '\'']).Reaches text 0 other ↔ other = close + 1 := by
  rw [reaches_choice_iff, begins.quoted_reaches_iff]
  exact or_iff_left (not_reaches_of_rejects (p := quoted '\'') (by decide) begins.opens)

/-- **The string reaches its end and nothing else.** -/
theorem stringPattern_reaches_iff : l.stringPattern.Reaches text 0 other ↔ other = close + 1 := by
  cases l with
  | javaScript => exact eitherQuoted_reaches_iff begins
  | rust =>
      refine (or_iff_right (not_reaches_of_rejects rfl begins.opens)).trans ?_
      refine (reaches_cat_of_avoids_iff (by decide) begins.opens
        (reaches_opt_iff.2 (Or.inr rfl))).trans ?_
      exact spanning_reaches_iff begins
  | cLang => exact begins.quoted_reaches_iff
  | python =>
      refine (reaches_cat_of_avoids_iff rfl begins.opens
        (reaches_opt_iff.2 (Or.inr rfl))).trans ?_
      exact eitherQuoted_reaches_iff begins
  | toml =>
      refine (or_iff_right ?_).trans ((or_iff_right ?_).trans ((or_iff_right ?_).trans ?_))
      · rintro ⟨_, ⟨_, first, _⟩, _⟩
        exact begins.not_standAt_tripleQuote (reaches_literal_iff.1 first).1
      · exact not_reaches_of_rejects rfl begins.opens
      · exact not_reaches_of_rejects rfl begins.opens
      · exact begins.quoted_reaches_iff

/-- The rule for strings finds the string. -/
theorem stringPattern_tokenAt : l.stringPattern.tokenAt text 0 = some ⟨0, close + 1⟩ := by
  have noToken : l.stringPattern.hasToken = false := by cases l <;> rfl
  exact tokenAt_of_unique noToken (Nat.succ_pos _) fun _ => stringPattern_reaches_iff begins

/-- A string in triple quotes does not begin where one in double quotes does. -/
theorem not_tripleQuoted_reaches : ¬ Python.tripleQuoted.Reaches text 0 other := by
  rintro ⟨start, letters, quotes⟩
  obtain rfl : start = 0 := Nat.le_zero.1
    (letters.le_of_avoids (c := '"') rfl begins.opens (Nat.le_refl _))
  rcases quotes with ⟨_, ⟨_, first, _⟩, _⟩ | ⟨_, ⟨_, first, _⟩, _⟩
  · exact begins.not_standAt_tripleQuote (reaches_literal_iff.1 first).1
  · have stand := (reaches_literal_iff.1 first).1
    exact absurd (Option.some.inj (begins.opens.symm.trans stand.1)) (by decide)

/-- A string of a longer kind does not begin where the string does. -/
theorem not_longString_reaches {rule : Rule} (isLong : l.longString? = some rule) :
    ¬ rule.pattern.Reaches text 0 other := by
  cases l with
  | javaScript =>
      cases isLong
      exact not_reaches_of_rejects rfl begins.opens
  | python =>
      cases isLong
      exact not_tripleQuoted_reaches begins
  | rust => cases isLong
  | cLang => cases isLong
  | toml => cases isLong

end Begins

/-! ## What is found in front of a comment -/

section Found

variable {l : Commented} {b c : String} (plain : IsBody b) (line : '\n' ∉ c.toList)
include plain line

theorem comment_mem_slashes_iff (isSign : l.sign = "//") :
    l.commentPiece b c ∈ Rule.applyAll [blockRule, lineRule "//"] (l.characters b c)
        (Piece.start (l.characters b c)) ↔
      endsInComment false b.toList = false := by
  have form : StringThenComment (l.characters b c) "//".toList (b.length + 1) :=
    isSign ▸ shape plain line
  rw [commentPiece, ← text_commentSpan]
  exact form.comment_mem_slashes_iff blockRule.token (lineRule "//").token
    (standAt_characters l b c).2.1 (length_body b)

theorem comment_mem_sign_iff (isSign : l.sign = "#") :
    l.commentPiece b c ∈ Rule.applyAll [lineRule "#"] (l.characters b c)
        (Piece.start (l.characters b c)) ↔
      '#' ∉ b.toList := by
  have form : StringThenComment (l.characters b c) "#".toList (b.length + 1) :=
    isSign ▸ shape plain line
  rw [commentPiece, ← text_commentSpan]
  exact form.comment_mem_sign_iff (lineRule "#").token (by decide) (by decide) rfl
    (standAt_characters l b c).2.1 (length_body b)

/-- **The comment is recognized at first** exactly if the string does not end in a comment. -/
theorem comment_mem_iff :
    l.commentPiece b c ∈ l.uncommented b c ↔ ¬ l.EndsInComment b := by
  cases l with
  | javaScript =>
      exact (comment_mem_slashes_iff plain line rfl).trans (Bool.not_eq_true _).symm.to_iff
  | rust => exact (comment_mem_slashes_iff plain line rfl).trans (Bool.not_eq_true _).symm.to_iff
  | cLang => exact (comment_mem_slashes_iff plain line rfl).trans (Bool.not_eq_true _).symm.to_iff
  | python => exact comment_mem_sign_iff plain line rfl
  | toml => exact comment_mem_sign_iff plain line rfl

/-- **A string of a longer kind goes on into a comment that has been recognized** exactly if that is
read off the string and the comment. -/
theorem runsOver_iff {rule : Rule} (isLong : l.longString? = some rule)
    (closed : ¬ l.EndsInComment b) :
    RunsOver rule.pattern rule.token (l.characters b c) (l.uncommented b c) (b.length + 3) ↔
      l.Overrun b c := by
  obtain ⟨_, body, behind⟩ := standAt_characters l b c
  have size := size_characters l b c
  cases l with
  | javaScript =>
      cases isLong
      exact (shape plain line).runsOver_commentPieces_iff body (length_body b) behind size
        (eq_false_of_ne_true closed)
  | python =>
      cases isLong
      have length : (['"', ' '] ++ (python.sign.toList ++ c.toList)).length =
          c.toList.length + 3 := rfl
      rw [length, Nat.add_comm _ 3, ← Nat.add_assoc] at size
      exact (shape plain line).runsOver_row_iff body (length_body b) behind.2.2.2 size closed
  | rust => cases isLong
  | cLang => cases isLong
  | toml => cases isLong

/-- The rules for lines find nothing. -/
theorem lineRules_find {rule : Rule} (member : rule ∈ l.lineRules) (place : Nat) :
    rule.pattern.tokenAt (l.characters b c) place = none := by
  have form := shape (l := l) plain line
  obtain ⟨_, _, lineStart, rejects⟩ := lineRules_are member
  by_cases inside : place < (l.characters b c).size
  · refine tokenAt_eq_none fun next reaches => ?_
    rcases Nat.eq_zero_or_pos place with rfl | low
    · exact not_reaches_of_rejects rejects form.opens reaches
    · have before := Array.getElem?_eq_getElem (Nat.lt_of_le_of_lt (Nat.sub_le place 1) inside)
      have holds := reaches.holds lineStart
      simp only [Assertion.holds, Assertion.charBefore, Nat.ne_of_gt low, if_false, before,
        Assertion.holdsBetween, Option.isNone_some, Bool.false_or, beq_iff_eq] at holds
      exact form.line _ (before.trans holds)
  · exact tokenAt_of_size_le (Nat.not_lt.1 inside)

/-- The rule for strings finds the string, and nothing at the space. -/
theorem string_found :
    l.stringPattern.tokenAt (l.characters b c) 0 = some (stringSpan b) ∧
      l.stringPattern.tokenAt (l.characters b c) (b.length + 2) = none := by
  have form := shape (l := l) plain line
  have rejects : l.stringPattern.rejects ' ' = true := by cases l <;> rfl
  exact ⟨stringPattern_tokenAt form.beginsWithString,
    tokenAt_eq_none fun _ => not_reaches_of_rejects rejects form.space⟩

end Found

/-! ## What is left for the strings -/

section Claimed

variable {l : Commented} {b c : String} (plain : IsBody b) (line : '\n' ∉ c.toList)

/-- What comments and strings of a longer kind leave. -/
theorem pieces_claiming (l : Commented) (b c : String) : l.claiming.pieces (l.characters b c) =
    Rule.applyAll l.longString?.toList (l.characters b c) (l.uncommented b c) :=
  Rule.applyAll_append _ _ _ _

/-- A token that is left was found by one of these rules. -/
theorem reaches_of_claimed {span : Span} {t : Token}
    (member : Piece.token span t ∈ l.claiming.pieces (l.characters b c)) :
    ∃ rule ∈ l.comments ++ l.longString?.toList,
      rule.pattern.Reaches (l.characters b c) span.start span.stop := by
  obtain ⟨rule, among, finds, _⟩ :=
    ((l.claiming.tiles_pieces _).made_of_mem member).exists_rule
  obtain ⟨greedy, noToken⟩ : rule.greedy = true ∧ rule.pattern.hasToken = false := by
    rcases List.mem_append.1 among with isComment | isLong
    · exact ⟨(comments_are isComment).2.1, (comments_are isComment).2.2.1⟩
    · have isLong := longString_is (Option.mem_toList.1 isLong)
      exact ⟨isLong.2.1, isLong.2.2.1⟩
  rw [Rule.Finds, if_pos greedy] at finds
  obtain ⟨place, found⟩ := finds
  obtain ⟨first, _, at', _⟩ := find_eq_some_iff.1 found
  obtain ⟨rfl, reaches⟩ := reaches_of_tokenAt noToken at'
  exact ⟨rule, among, reaches⟩

/-- The rules for strings make no comment. -/
theorem uncommented_of_claimed
    (member : l.commentPiece b c ∈ l.claiming.pieces (l.characters b c)) :
    l.commentPiece b c ∈ l.uncommented b c := by
  have tiles : Piece.Tiles (Token.Carved l.claiming.rules (l.characters b c)) 0
      (l.uncommented b c) (l.characters b c).size :=
    Rule.tiles_applyAll l.comments (fun _ => List.mem_append_left _) (fun rule _ => rule.makes)
      (Piece.tiles_start _)
  rw [pieces_claiming] at member
  refine Rule.token_mem_of_mem_applyAll (fun _ => List.mem_append_right _) tiles
    (fun rule isLong same => ?_) member
  exact (longString_is (Option.mem_toList.1 isLong)).1 (Option.some.inj same).symm

/-- The comment is left if it is among the tokens in the end. -/
theorem claimed_of_tokenize (same : l.grammar.tokenize (l.text b c) = l.tokens b c) :
    l.commentPiece b c ∈ l.claiming.pieces (l.characters b c) := by
  have placed : (⟨l.commentSpan b c, .leaf "comment" none (l.sign ++ c)⟩ : PlacedToken) ∈
      Token.placed 0 (l.grammar.tokenize (l.text b c)) := by
    have quote : "\"".length = 1 := rfl
    have space : " ".length = 1 := rfl
    have behind : "\" ".length = 2 := rfl
    have start : 0 + ("\"" ++ b ++ "\"").length + " ".length = b.length + 3 := by
      simp only [String.length_append, quote, space]
      omega
    have stop : b.length + 3 + (l.sign ++ c).length = (l.characters b c).size := by
      simp only [characters, charactersOf, List.size_toArray, String.length_toList, text,
        String.length_append, quote, behind]
      omega
    simp only [same, tokens, Token.placed, Token.length, start, stop]
    exact List.mem_cons_of_mem _ (List.mem_cons_of_mem _ List.mem_cons_self)
  have there := Grammar.piece_of_typed placed (Option.some_ne_none _)
  rw [Grammar.pieces, l.rules_grammar, List.append_assoc, Rule.applyAll_append] at there
  have among {rule : Rule} (member : rule ∈ l.claiming.rules ∨
      rule ∈ l.lineRules ++ [l.stringRule] ++ l.otherRules) : rule ∈ l.grammar.rules := by
    rw [l.rules_grammar, List.append_assoc]
    exact List.mem_append.2 member
  have tiles : Piece.Tiles (Token.Carved l.grammar.rules (l.characters b c)) 0
      (l.claiming.pieces (l.characters b c)) (l.characters b c).size :=
    Rule.tiles_applyAll l.claiming.rules (fun _ member => among (Or.inl member))
      (fun rule _ => rule.makes) (Piece.tiles_start _)
  refine Rule.token_mem_of_mem_applyAll (fun _ member => among (Or.inr member)) tiles
    (fun rule member isComment => ?_) there
  have noComment : rule.category ≠ "comment" := by
    rcases List.mem_append.1 member with member | isOther
    · rcases List.mem_append.1 member with isLine | isString
      · exact (lineRules_are isLine).1
      · have isName : rule.category = "string" :=
          congrArg Rule.category (List.mem_singleton.1 isString)
        rw [isName]
        decide
    · exact (otherRules_are isOther).1
  exact noComment (Option.some.inj isComment).symm

include plain line

/-- **The comment is left** exactly if it was recognized at first and no string of a longer kind
goes on into it. -/
theorem comment_claimed_iff : l.commentPiece b c ∈ l.claiming.pieces (l.characters b c) ↔
    ¬ l.EndsInComment b ∧ ¬ l.Overrun b c := by
  have recognized := comment_mem_iff (l := l) plain line
  have kept (closed : ¬ l.EndsInComment b) :
      l.commentPiece b c ∈ l.claiming.pieces (l.characters b c) ↔ ¬ l.Overrun b c := by
    rw [pieces_claiming]
    cases isLong : l.longString? with
    | none => exact iff_of_true (recognized.2 closed) (not_overrun isLong)
    | some rule =>
        have tiles : Piece.Tiles (fun _ _ => True) 0 (l.uncommented b c)
            (l.characters b c).size :=
          Rule.tiles_applyAll_of_makes l.comments (fun _ _ _ _ => trivial) (Piece.tiles_start _)
        rw [← runsOver_iff plain line isLong closed]
        simp only [Option.toList_some, Rule.applyAll, (longString_is isLong).2.1, if_true]
        exact tiles.kept_iff (recognized.2 closed)
  constructor
  · intro left
    have closed := recognized.1 (uncommented_of_claimed left)
    exact ⟨closed, (kept closed).1 left⟩
  · rintro ⟨closed, free⟩
    exact (kept closed).2 free

/-- No token begins where the string does, and none where the space does. -/
theorem start_of_claimed {span : Span} {t : Token}
    (member : Piece.token span t ∈ l.claiming.pieces (l.characters b c)) :
    span.start ≠ 0 ∧ span.start ≠ b.length + 2 := by
  have form := shape (l := l) plain line
  obtain ⟨rule, among, reaches⟩ := reaches_of_claimed member
  rcases List.mem_append.1 among with isComment | isLong
  · obtain ⟨_, _, _, quote, space⟩ := comments_are isComment
    exact ⟨fun start => not_reaches_of_rejects quote form.opens (start ▸ reaches),
      fun start => not_reaches_of_rejects space form.space (start ▸ reaches)⟩
  · have isLong := Option.mem_toList.1 isLong
    exact ⟨fun start => not_longString_reaches form.beginsWithString isLong (start ▸ reaches),
      fun start => not_reaches_of_rejects (longString_is isLong).2.2.2 form.space
        (start ▸ reaches)⟩

/-- The rules for lines and for strings, applied to what is left. -/
theorem applyAll_strings
    (left : l.commentPiece b c ∈ l.claiming.pieces (l.characters b c)) :
    Rule.applyAll (l.lineRules ++ [l.stringRule]) (l.characters b c)
      (l.claiming.pieces (l.characters b c)) = l.pieces b c := by
  have lines : Rule.applyAll l.lineRules (l.characters b c) (l.claiming.pieces (l.characters b c)) =
      l.claiming.pieces (l.characters b c) := by
    refine Rule.applyAll_eq_self fun rule member => ?_
    rw [if_pos (lineRules_are member).2.1]
    exact fun place _ => lineRules_find plain line member place
  have found := string_found (l := l) plain line
  have strings : carveGreedy l.stringPattern l.stringRule.token (l.characters b c)
      (l.claiming.pieces (l.characters b c)) =
        [.token (stringSpan b) (l.stringRule.token ((stringSpan b).slice (l.characters b c))),
          .plain (spaceSpan b), .token (l.commentSpan b c) (.leaf "comment" none (l.sign ++ c))] :=
    (l.claiming.tiles_pieces (l.characters b c)).carveGreedy_eq left
      (fun _ _ => start_of_claimed plain line) found.1 found.2
  rw [Rule.applyAll_append, lines, pieces, ← text_stringSpan (l := l) (c := c)]
  exact strings

/-- The rules behind the one for strings change nothing any more. -/
theorem applyAll_otherRules :
    Rule.applyAll l.otherRules (l.characters b c) (l.pieces b c) = l.pieces b c := by
  have form := shape (l := l) plain line
  refine Rule.applyAll_eq_self fun rule member => ?_
  have quiet := (otherRules_are member).2
  split
  · next greedy =>
    rw [if_pos greedy] at quiet
    intro place isPlain
    rw [pieces, plainAt_token_cons, plainAt_plain_cons, plainAt_token_cons,
      or_iff_left not_plainAt_nil, spaceSpan] at isPlain
    obtain rfl : place = b.length + 2 := Nat.le_antisymm (Nat.le_of_lt_succ isPlain.2) isPlain.1
    exact tokenAt_eq_none fun _ => not_reaches_of_rejects quiet form.space
  · next alone =>
    rw [if_neg alone] at quiet
    intro span isPlain
    obtain rfl : span = spaceSpan b := by simpa [pieces] using isPlain
    have slice : (spaceSpan b).slice (l.characters b c) = #[' '] :=
      (charactersOf_stringOf _).symm.trans (congrArg charactersOf text_spaceSpan)
    rw [slice, quiet]

/-- **The comment that is left stays**, and the string and the space in front of it become what they
should. -/
theorem pieces_of_claimed
    (left : l.commentPiece b c ∈ l.claiming.pieces (l.characters b c)) :
    l.grammar.pieces (l.characters b c) = l.pieces b c := by
  rw [Grammar.pieces, l.rules_grammar, Rule.applyAll_append, Rule.applyAll_append]
  exact (congrArg _ (applyAll_strings plain line left)).trans (applyAll_otherRules plain line)

end Claimed

/-- The three tokens come out exactly if the comment is recognized and not overrun. -/
theorem tokenize_eq_tokens_iff {l : Commented} {b c : String} (plain : IsBody b)
    (line : '\n' ∉ c.toList) :
    l.grammar.tokenize (l.text b c) = l.tokens b c ↔ ¬ l.EndsInComment b ∧ ¬ l.Overrun b c := by
  rw [← comment_claimed_iff plain line]
  refine ⟨claimed_of_tokenize, fun left => ?_⟩
  have same : l.grammar.tokenize (l.text b c) =
      (l.grammar.pieces (l.characters b c)).map (toToken (l.characters b c)) := rfl
  rw [same, pieces_of_claimed plain line left, pieces, tokens]
  simp only [List.map_cons, List.map_nil, toToken, text_spaceSpan]

/-- **A string of a longer kind that goes on into the comment begins with its own quote** in the
string. -/
theorem longQuote_of_overrun {l : Commented} {b c : String} (overrun : l.Overrun b c) :
    ∃ quote, l.longQuote? = some quote ∧ quote <:+: b.toList := by
  cases l with
  | javaScript =>
      exact ⟨_, rfl, (List.singleton_infix_iff _ _).2 (backtick_mem_of_templateRunsOn overrun)⟩
  | python =>
      have changes : endsInTripleQuotes false b.toList ≠ false := ne_false_of_eq_true overrun.1
      exact ⟨_, rfl, isInfix_of_endsInTripleQuotes changes⟩
  | rust => exact overrun.elim
  | cLang => exact overrun.elim
  | toml => exact overrun.elim

/-- A template literal begins in the string, but not in a comment there. -/
example : javaScript.Overrun "`" "`" ∧ ¬ javaScript.Overrun "/* ` */" "`" := by decide

/-- **When a comment behind a string is a comment.** A string in double quotes, a space and a
comment to the end of the line become these three tokens exactly if the string, read for comments
only, does not end in one, and no string of a longer kind goes on into the comment. The latter
begins with its own quote in the string. -/
theorem tokenize_string_and_comment (l : Commented) (b c : String)
    (plain : ∀ x ∈ b.toList, x ∉ ['\\', '"', '\r', '\n']) (line : '\n' ∉ c.toList) :
    (l.grammar.tokenize (l.text b c) = l.tokens b c ↔ ¬ l.EndsInComment b ∧ ¬ l.Overrun b c) ∧
      (l.Overrun b c → ∃ quote, l.longQuote? = some quote ∧ quote <:+: b.toList) :=
  ⟨tokenize_eq_tokens_iff plain line, longQuote_of_overrun⟩

/-- A comment that is closed in the string costs nothing, and neither does any quote in the
comment behind it. -/
theorem tokenize_string_with_closed_comment :
    javaScript.grammar.tokenize (javaScript.text "/* ' */" "\" ' //") =
      javaScript.tokens "/* ' */" "\" ' //" := by
  have plain : IsBody "/* ' */" := by decide
  obtain ⟨exactly, longQuote⟩ :=
    tokenize_string_and_comment javaScript "/* ' */" "\" ' //" plain (by decide)
  have closed : ¬ javaScript.EndsInComment "/* ' */" := by decide
  refine exactly.2 (And.intro closed (mt longQuote ?_))
  rintro ⟨quote, isQuote, isInfix⟩
  obtain rfl : [backtick] = quote := Option.some.inj isQuote
  exact absurd (isInfix.subset List.mem_cons_self) (by decide)

/-- The sign of a comment in the string costs the comment behind it. -/
theorem tokenize_string_with_sign :
    javaScript.grammar.tokenize (javaScript.text "//" "c") ≠ javaScript.tokens "//" "c" :=
  fun same => absurd ((tokenize_eq_tokens_iff (by decide) (by decide)).1 same).1 (by decide)

end Commented

end Language

end Highlight
