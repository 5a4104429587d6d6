import Highlight.Proofs.Language.CommentBehindString

/-!
# A string or a comment alone

A string in double quotes becomes one token, and so does a comment to the end of the line,
whatever signs of comments and whatever other quotes are in it
(`Language.Commented.tokenize_alone`). The rules that come before may claim parts of it, but they
find nothing that begins where the text does (`Language.Commented.tokenAt_before_string`,
`Language.Commented.tokenAt_before_comment`), and the rule for the string or the comment takes the
whole text.
-/

namespace Highlight

set_option autoImplicit false

namespace Language

open Pattern

namespace Commented

variable {l : Commented}

/-! ## Strings -/

theorem isQuoted_alone (b : String) :
    IsQuoted (charactersOf ("\"" ++ b ++ "\"")) '"' b.toList :=
  isQuoted (by decide) b

/-- A text that is a string begins with it. -/
theorem beginsWithString_alone {b : String} (plain : IsBody b) :
    BeginsWithString (charactersOf ("\"" ++ b ++ "\"")) (b.toList.length + 1) := by
  have shape := isQuoted_alone b
  refine ⟨shape.opens, Nat.succ_pos _, fun i low high => ?_, shape.closes, ?_⟩
  · obtain ⟨c, member, present⟩ := shape.exists_mem low high
    exact ⟨c, present, plain c member⟩
  · rw [Array.getElem?_eq_none (Nat.le_of_eq shape.size)]
    exact (Option.some_ne_none _).symm

/-- **No rule that comes before the one for strings finds anything where the string begins.** -/
theorem tokenAt_before_string {text : Array Char} {close : Nat}
    (begins : BeginsWithString text close) {rule : Rule}
    (before : rule ∈ l.comments ++ l.longString?.toList ++ l.lineRules) :
    rule.greedy = true ∧ rule.pattern.tokenAt text 0 = none := by
  rcases List.mem_append.1 before with claiming | isLine
  · rcases List.mem_append.1 claiming with isComment | isLong
    · obtain ⟨_, greedy, _, rejects, _⟩ := comments_are isComment
      exact ⟨greedy, tokenAt_eq_none fun _ => not_reaches_of_rejects rejects begins.opens⟩
    · have isLong := Option.mem_toList.1 isLong
      exact ⟨(longString_is isLong).2.1,
        tokenAt_eq_none fun _ => not_longString_reaches begins isLong⟩
  · obtain ⟨_, greedy, _, rejects⟩ := lineRules_are isLine
    exact ⟨greedy, tokenAt_eq_none fun _ => not_reaches_of_rejects rejects begins.opens⟩

theorem tokenize_string {b : String} (plain : IsBody b) :
    l.grammar.tokenize ("\"" ++ b ++ "\"") = [.leaf "string" none ("\"" ++ b ++ "\"")] := by
  have begins := beginsWithString_alone plain
  have rules : l.grammar.rules =
      (l.comments ++ l.longString?.toList ++ l.lineRules) ++ l.stringRule :: l.otherRules := by
    simp only [l.rules_grammar, List.append_assoc, List.singleton_append]
  have found := stringPattern_tokenAt (l := l) begins
  rw [← (isQuoted_alone b).size] at found
  rw [Grammar.tokenize_whole rules (fun _ => tokenAt_before_string begins) rfl found, stringRule,
    Rule.token, Rule.tokenInside, stringOf_charactersOf]

/-! ## Comments -/

/-- The rule for comments to the end of the line is the last one for comments. -/
theorem comments_eq (l : Commented) : ∃ before, l.comments = before ++ [lineRule l.sign] ∧
    ∀ rule ∈ before, rule = blockRule ∧ l.sign = "//" := by
  cases l with
  | javaScript => exact ⟨[blockRule], rfl, fun _ member => ⟨List.mem_singleton.1 member, rfl⟩⟩
  | rust => exact ⟨[blockRule], rfl, fun _ member => ⟨List.mem_singleton.1 member, rfl⟩⟩
  | cLang => exact ⟨[blockRule], rfl, fun _ member => ⟨List.mem_singleton.1 member, rfl⟩⟩
  | python => exact ⟨[], rfl, fun _ member => absurd member List.not_mem_nil⟩
  | toml => exact ⟨[], rfl, fun _ member => absurd member List.not_mem_nil⟩

/-- **An enclosed comment does not begin where one to the end of the line does.** -/
theorem tokenAt_before_comment {text : Array Char} (slashes : StandAt text "//".toList 0) :
    blockRule.pattern.tokenAt text 0 = none := by
  refine tokenAt_eq_none fun _ reaches => ?_
  have star := (StringThenComment.standAt_two_iff.1 (reaches_enclosedComment_iff.1 reaches).1).2
  have slash := (StringThenComment.standAt_two_iff.1 slashes).2
  exact absurd (Option.some.inj (star.symm.trans slash)) (by decide)

theorem tokenize_comment {c : String} (line : '\n' ∉ c.toList) :
    l.grammar.tokenize (l.sign ++ c) = [.leaf "comment" none (l.sign ++ c)] := by
  have proper : 0 < l.sign.toList.length := by cases l <;> decide
  have signs : '\n' ∉ l.sign.toList := by cases l <;> decide
  have stand : StandAt (charactersOf (l.sign ++ c)) l.sign.toList 0 := by
    have all := standAt_toArray [] (l.sign ++ c).toList
    rw [List.nil_append, String.toList_append, standAt_append_iff, ← String.toList_append] at all
    exact all.1
  have oneLine (i : Nat) : (charactersOf (l.sign ++ c))[i]? ≠ some '\n' := by
    intro present
    rw [charactersOf, List.getElem?_toArray] at present
    have member := List.mem_of_getElem? present
    rw [String.toList_append, List.mem_append] at member
    exact member.elim signs line
  have found : (lineRule l.sign).pattern.tokenAt (charactersOf (l.sign ++ c)) 0 =
      some ⟨0, (charactersOf (l.sign ++ c)).size⟩ := by
    refine tokenAt_lineComment proper stand (stand.le_size proper) (Nat.le_refl _)
      (fun i _ _ => oneLine i) fun x present => ?_
    rw [Array.getElem?_eq_none (Nat.le_refl _)] at present
    cases present
  obtain ⟨before, comments, isBlock⟩ := comments_eq l
  have rules : l.grammar.rules = before ++ lineRule l.sign ::
      (l.longString?.toList ++ (l.lineRules ++ [l.stringRule]) ++ l.otherRules) := by
    simp only [l.rules_grammar, comments, List.append_assoc, List.cons_append, List.nil_append]
  rw [Grammar.tokenize_whole rules (fun rule member => ?_) rfl found, lineRule, Rule.token,
    Rule.tokenInside, stringOf_charactersOf]
  obtain ⟨rfl, slashes⟩ := isBlock rule member
  exact ⟨rfl, tokenAt_before_comment (slashes ▸ stand)⟩

/-- **A string or a comment alone is one token.** A string in double quotes without a quote, a
backslash or a line break in it becomes the token of a string, and a comment of one line becomes
the token of a comment, whatever else is in them. -/
theorem tokenize_alone (l : Commented) :
    (∀ b : String, (∀ x ∈ b.toList, x ∉ ['\\', '"', '\r', '\n']) →
        l.grammar.tokenize ("\"" ++ b ++ "\"") = [.leaf "string" none ("\"" ++ b ++ "\"")]) ∧
      ∀ c : String, '\n' ∉ c.toList →
        l.grammar.tokenize (l.sign ++ c) = [.leaf "comment" none (l.sign ++ c)] :=
  ⟨fun _ plain => tokenize_string plain, fun _ line => tokenize_comment line⟩

/-- A comment in a string, and an enclosed comment that begins within the sign of another. -/
theorem tokenize_alone_javaScript :
    javaScript.grammar.tokenize "\"`/* // '\"" = [.leaf "string" none "\"`/* // '\""] ∧
      javaScript.grammar.tokenize "//* \" */ x" = [.leaf "comment" none "//* \" */ x"] := by
  have plain : IsBody "`/* // '" := by decide
  exact ⟨(tokenize_alone javaScript).1 "`/* // '" plain,
    (tokenize_alone javaScript).2 "* \" */ x" (by decide)⟩

end Commented

end Language

end Highlight
