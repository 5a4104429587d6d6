import Highlight.Language.Markup
import Highlight.Proofs.Language.Enclosing

/-!
# What a tag is made of

The pattern for a tag and the rules for its inside describe names, attributes and values in
different words. The pattern takes a name as long as neither white space nor one of several signs
comes, and the rules take it as long as neither white space nor a bracket or a slash comes. Both
stop at the same place, as what the pattern lets follow is a border for the rules too (`Border`).

Behind the name a tag is read from the left as the rules will find it (`Rest`): by characters that
no rule for values or brackets looks at, by whole values, and by the closing bracket at the end.
This is shown from the right, one attribute after the other (`Rest.of_attribute`). There is one case
in which the rules find another value than the pattern has taken, which is a value without quotes
in front of a closing bracket with a slash: the value that is found holds the slash
(`Rest.exists_end_of_bare`). A bracket is left all the same, so the tag is read to its end
(`exists_isTag`).
-/

namespace Highlight

set_option autoImplicit false

namespace Language

namespace Markup

open Pattern

variable {text : Array Char} {i stop next : Nat} {c : Char} {but : List Char}

/-! ## Characters -/

/-- All characters but white space and those of a list. -/
def solidSet (but : List Char) : CharSet := .compl (.union .whiteSpace (.ofList but))

/-- All characters but those that end a name and the equals sign. -/
def quietSet : CharSet := .compl (.ofList ['>', '/', '='])

theorem contains_whiteSpace : CharSet.whiteSpace.contains c = true ↔ isWhiteSpace c = true :=
  Iff.rfl

theorem contains_solidSet :
    (solidSet but).contains c = true ↔ isWhiteSpace c = false ∧ c ∉ but := by
  have space : CharSet.whiteSpace.contains c = isWhiteSpace c := rfl
  rw [solidSet, CharSet.contains_compl, CharSet.contains_union, CharSet.contains_ofList, space,
    Bool.not_eq_true', Bool.or_eq_false_iff, decide_eq_false_iff_not]

theorem contains_quietSet : quietSet.contains c = true ↔ c ∉ ['>', '/', '='] := by
  rw [quietSet, CharSet.contains_compl, CharSet.contains_ofList, Bool.not_eq_true',
    decide_eq_false_iff_not]

theorem not_solid_of_whiteSpace (blank : CharSet.whiteSpace.StandsAt text i) :
    ¬ (solidSet but).StandsAt text i := by
  intro stands
  obtain ⟨c, present, member⟩ := CharSet.standsAt_iff_exists.1 stands
  have space := (CharSet.standsAt_iff present).1 blank
  rw [contains_whiteSpace, (contains_solidSet.1 member).1] at space
  cases space

theorem not_solid_of_mem (present : text[i]? = some c) (member : c ∈ but) :
    ¬ (solidSet but).StandsAt text i := by
  rw [CharSet.standsAt_iff present, contains_solidSet]
  exact fun solid => solid.2 member

theorem solid_of_subset {more : List Char} (subset : but ⊆ more)
    (stands : (solidSet more).StandsAt text i) : (solidSet but).StandsAt text i := by
  obtain ⟨c, present, member⟩ := CharSet.standsAt_iff_exists.1 stands
  obtain ⟨noSpace, others⟩ := contains_solidSet.1 member
  exact CharSet.standsAt_iff_exists.2
    ⟨c, present, contains_solidSet.2 ⟨noSpace, fun inBut => others (subset inBut)⟩⟩

/-- A character stands at a place that neither ends a name nor is an equals sign. -/
def Quiet (text : Array Char) (place : Nat) : Prop := quietSet.StandsAt text place

/-- A name can go no further at a place. -/
def Border (text : Array Char) (place : Nat) : Prop :=
  ¬ (solidSet ['>', '/']).StandsAt text place

theorem Quiet.notMem (quiet : Quiet text i) (present : text[i]? = some c) :
    c ∉ ['>', '/', '='] :=
  contains_quietSet.1 ((CharSet.standsAt_iff present).1 quiet)

theorem quiet_of_whiteSpace (blank : CharSet.whiteSpace.StandsAt text i) : Quiet text i := by
  obtain ⟨c, present, member⟩ := CharSet.standsAt_iff_exists.1 blank
  refine CharSet.standsAt_iff_exists.2 ⟨c, present, contains_quietSet.2 fun sign => ?_⟩
  have signs : ∀ c ∈ ['>', '/', '='], isWhiteSpace c = false := by
    simp only [List.forall_mem_cons]
    exact ⟨rfl, rfl, rfl, List.forall_mem_nil _⟩
  rw [contains_whiteSpace, signs c sign] at member
  cases member

theorem quiet_of_solid (stands : (solidSet ['>', '/', '=']).StandsAt text i) : Quiet text i := by
  obtain ⟨c, present, member⟩ := CharSet.standsAt_iff_exists.1 stands
  exact CharSet.standsAt_iff_exists.2
    ⟨c, present, contains_quietSet.2 (contains_solidSet.1 member).2⟩

/-! ## Brackets -/

theorem opening_reaches_iff :
    opening.Reaches text i next ↔
      text[i]? = some '<' ∧ ((text[i + 1]? = some '/' ∧ next = i + 2) ∨ next = i + 1) := by
  constructor
  · rintro ⟨_, bracket, slash | none⟩
    · obtain ⟨rfl, isBracket⟩ := reaches_char_iff.1 bracket
      obtain ⟨rfl, isSlash⟩ := reaches_char_iff.1 slash
      exact ⟨isBracket, Or.inl ⟨isSlash, rfl⟩⟩
    · obtain ⟨rfl, isBracket⟩ := reaches_char_iff.1 bracket
      exact ⟨isBracket, Or.inr none⟩
  · rintro ⟨isBracket, ⟨isSlash, rfl⟩ | rfl⟩
    · exact ⟨i + 1, reaches_char_iff.2 ⟨rfl, isBracket⟩, Or.inl (reaches_char_iff.2 ⟨rfl, isSlash⟩)⟩
    · exact ⟨i + 1, reaches_char_iff.2 ⟨rfl, isBracket⟩, Or.inr rfl⟩

theorem closing_reaches_iff :
    closing.Reaches text i next ↔
      (text[i]? = some '/' ∧ text[i + 1]? = some '>' ∧ next = i + 2) ∨
        (text[i]? = some '>' ∧ next = i + 1) := by
  constructor
  · rintro ⟨between, slash | none, bracket⟩
    · obtain ⟨rfl, isSlash⟩ := reaches_char_iff.1 slash
      obtain ⟨rfl, isBracket⟩ := reaches_char_iff.1 bracket
      exact Or.inl ⟨isSlash, isBracket, rfl⟩
    · obtain rfl : between = i := none
      obtain ⟨rfl, isBracket⟩ := reaches_char_iff.1 bracket
      exact Or.inr ⟨isBracket, rfl⟩
  · rintro (⟨isSlash, isBracket, rfl⟩ | ⟨isBracket, rfl⟩)
    · exact ⟨i + 1, Or.inl (reaches_char_iff.2 ⟨rfl, isSlash⟩),
        reaches_char_iff.2 ⟨rfl, isBracket⟩⟩
    · exact ⟨i, Or.inr rfl, reaches_char_iff.2 ⟨rfl, isBracket⟩⟩

theorem closing_unique (closes : closing.Reaches text i stop) :
    closing.Reaches text i next ↔ next = stop := by
  refine ⟨fun reaches => ?_, fun same => same ▸ closes⟩
  rcases closing_reaches_iff.1 closes with ⟨slash, _, rfl⟩ | ⟨bracket, rfl⟩
  · rcases closing_reaches_iff.1 reaches with ⟨_, _, rfl⟩ | ⟨bracket, _⟩
    · rfl
    · cases slash.symm.trans bracket
  · rcases closing_reaches_iff.1 reaches with ⟨slash, _, _⟩ | ⟨_, rfl⟩
    · cases slash.symm.trans bracket
    · rfl

/-- A closing bracket is no place where a name goes on. -/
theorem border_of_closing (closes : closing.Reaches text i stop) : Border text i := by
  rcases closing_reaches_iff.1 closes with ⟨slash, _⟩ | ⟨bracket, _⟩
  · exact not_solid_of_mem slash (by decide)
  · exact not_solid_of_mem bracket (by decide)

/-- No closing bracket begins at a quiet place. -/
theorem Quiet.tokenAt_closing (quiet : Quiet text i) : closing.tokenAt text i = none := by
  apply tokenAt_eq_none
  intro next reaches
  rcases closing_reaches_iff.1 reaches with ⟨slash, _⟩ | ⟨bracket, _⟩
  · exact quiet.notMem slash (by decide)
  · exact quiet.notMem bracket (by decide)

/-! ## Values -/

/-- The value of an attribute with the equals sign in front of it. -/
def attrValue : Pattern := char '=' ++ blanks ++ value

theorem equals_of_attrValue (reaches : attrValue.Reaches text i next) : text[i]? = some '=' := by
  obtain ⟨_, ⟨_, first, _⟩, _⟩ := reaches
  exact (reaches_char_iff.1 first).2

/-- No value begins at a place without an equals sign. -/
theorem tokenAt_attrValue_eq_none (other : text[i]? ≠ some '=') :
    attrValue.tokenAt text i = none :=
  tokenAt_eq_none fun _ reaches => other (equals_of_attrValue reaches)

theorem Quiet.tokenAt_attrValue (quiet : Quiet text i) : attrValue.tokenAt text i = none :=
  tokenAt_attrValue_eq_none fun sign => quiet.notMem sign (by decide)

theorem opens_of_enclosed {quote : Char} (reaches : (enclosed quote).Reaches text i stop) :
    text[i]? = some quote ∧ i < stop := by
  obtain ⟨last, ⟨_, opens, body⟩, closes⟩ := reaches
  obtain ⟨rfl, present⟩ := reaches_char_iff.1 opens
  obtain ⟨rfl, _⟩ := reaches_char_iff.1 closes
  exact ⟨present, Nat.lt_of_lt_of_le body.1 (Nat.le_succ last)⟩

/-- A quoted value ends at the first quote. -/
theorem enclosed_unique {quote : Char} (reaches : (enclosed quote).Reaches text i stop) :
    (enclosed quote).Reaches text i next ↔ next = stop := by
  refine ⟨fun other => ?_, fun same => same ▸ reaches⟩
  have noQuote {place : Nat} (present : text[place]? = some quote) :
      ¬ (CharSet.compl (.ofList [quote])).StandsAt text place := by
    rw [CharSet.standsAt_iff present, CharSet.contains_compl, CharSet.contains_ofList,
      Bool.not_eq_true', decide_eq_false_iff_not]
    exact fun notMember => notMember List.mem_cons_self
  obtain ⟨last, ⟨_, first, body⟩, closes⟩ := reaches
  obtain ⟨last', ⟨_, first', body'⟩, closes'⟩ := other
  obtain ⟨rfl, _⟩ := reaches_char_iff.1 first
  obtain ⟨rfl, _⟩ := reaches_char_iff.1 first'
  obtain ⟨rfl, isQuote⟩ := reaches_char_iff.1 closes
  obtain ⟨rfl, isQuote'⟩ := reaches_char_iff.1 closes'
  rw [Reaches.run_unique body (noQuote isQuote) body' (noQuote isQuote')]

/-- A value does not begin with white space. -/
theorem not_whiteSpace_of_value (reaches : value.Reaches text i stop) :
    ¬ CharSet.whiteSpace.StandsAt text i := by
  have quoted {quote : Char} (noSpace : isWhiteSpace quote = false)
      (reaches : (enclosed quote).Reaches text i stop) :
      ¬ CharSet.whiteSpace.StandsAt text i := by
    rw [CharSet.standsAt_iff (opens_of_enclosed reaches).1, contains_whiteSpace, noSpace]
    exact Bool.false_ne_true
  rcases reaches with double | single | ⟨_, ⟨_, first⟩, _⟩
  · exact quoted (by decide) double
  · exact quoted (by decide) single
  · exact fun blank => not_solid_of_whiteSpace blank first

/-- The characters of a value without quotes. -/
def bareSet : CharSet := solidSet ['\'', '"', '>', '=']

/-! ## What is left of a tag -/

/-- What is left of a tag from a place on, as the rules for its inside read it: the closing
bracket at the end of the text, or a quiet character, or the value of an attribute. -/
inductive Rest (text : Array Char) : Nat → Prop where
  | bracket {i : Nat} (closes : closing.Reaches text i text.size) : Rest text i
  | character {i : Nat} (quiet : Quiet text i) (later : Rest text (i + 1)) : Rest text i
  | assigned {i stop : Nat} (found : attrValue.tokenAt text i = some ⟨i, stop⟩)
      (later : Rest text stop) : Rest text i

/-- Quiet characters in front of the rest of a tag. -/
theorem Rest.of_quiet (low : i ≤ stop) (quiet : ∀ j, i ≤ j → j < stop → Quiet text j)
    (later : Rest text stop) : Rest text i := by
  induction low with
  | refl => exact later
  | @step stop low ih =>
      apply ih (fun j after before => quiet j after (Nat.lt_succ_of_lt before))
      exact .character (quiet stop low (Nat.lt_succ_self stop)) later

/-- A slash that is left of a tag is that of the closing bracket. -/
theorem Rest.bracket_of_slash (rest : Rest text i) (slash : text[i]? = some '/') :
    text[i + 1]? = some '>' ∧ text.size = i + 2 := by
  cases rest with
  | bracket closes =>
      rcases closing_reaches_iff.1 closes with ⟨_, bracket, size⟩ | ⟨bracket, _⟩
      · exact ⟨bracket, size⟩
      · cases slash.symm.trans bracket
  | character quiet later => exact absurd (by decide) (quiet.notMem slash)
  | assigned found later =>
      have equals := equals_of_attrValue (reaches_of_tokenAt rfl found).2
      cases slash.symm.trans equals

section Behind

variable (rest : Rest text stop) (border : Border text stop)
include rest border

/-- A value without quotes goes on behind its end only over the slash of the closing bracket. -/
theorem Rest.exists_end_of_bare (inside : stop ≤ text.size) :
    ∃ e, stop ≤ e ∧ e ≤ text.size ∧ (∀ j, stop ≤ j → j < e → bareSet.StandsAt text j) ∧
      ¬ bareSet.StandsAt text e ∧ Rest text e := by
  by_cases more : bareSet.StandsAt text stop
  · obtain ⟨c, present, member⟩ := CharSet.standsAt_iff_exists.1 more
    obtain ⟨noSpace, others⟩ := contains_solidSet.1 member
    have isSlash : c = '/' := by
      have ends : c ∈ ['>', '/'] := by
        refine Classical.not_not.1 fun other => border ?_
        exact (CharSet.standsAt_iff present).2 (contains_solidSet.2 ⟨noSpace, other⟩)
      simp only [List.mem_cons, List.not_mem_nil, or_false, not_or] at others ends
      exact ends.resolve_left others.2.2.1
    subst isSlash
    obtain ⟨bracket, size⟩ := rest.bracket_of_slash present
    refine ⟨stop + 1, Nat.le_succ stop, by omega, fun j low high => ?_, ?_, ?_⟩
    · obtain rfl : j = stop := by omega
      exact more
    · exact not_solid_of_mem bracket (by decide)
    · exact .bracket (closing_reaches_iff.2 (Or.inr ⟨bracket, size⟩))
  · exact ⟨stop, Nat.le_refl stop, inside, fun j low high => by omega, more, rest⟩

/-- **What is left of a tag behind a value is left behind the value that is found**, which may
hold the slash of the closing bracket. -/
theorem Rest.exists_head_of_value (reaches : value.Reaches text i stop) :
    ∃ e, (advance text value [⟨i, none⟩]).head? = some ⟨e, none⟩ ∧ i < e ∧ Rest text e := by
  have parts : value = alt (enclosed '"') (alt (enclosed '\'') (many1 (one bareSet))) := rfl
  have notQuoted {quote : Char} (other : text[i]? ≠ some quote) :
      (advance text (enclosed quote) [⟨i, none⟩]).head? = none :=
    head?_advance_eq_none fun _ reaches => other (opens_of_enclosed reaches).1
  have isQuoted {quote : Char} (reaches : (enclosed quote).Reaches text i stop) :
      (advance text (enclosed quote) [⟨i, none⟩]).head? = some ⟨stop, none⟩ :=
    head?_advance_of_unique (a := ⟨i, none⟩) rfl fun _ => enclosed_unique reaches
  rcases reaches with double | single | bare
  · refine ⟨stop, ?_, (opens_of_enclosed double).2, rest⟩
    rw [parts, head?_advance_alt, isQuoted double, Option.some_or]
  · have opens := opens_of_enclosed single
    refine ⟨stop, ?_, opens.2, rest⟩
    have noDouble : text[i]? ≠ some '"' := by
      rw [opens.1]
      decide
    rw [parts, head?_advance_alt, notQuoted noDouble, Option.none_or, head?_advance_alt,
      isQuoted single, Option.some_or]
  · obtain ⟨proper, inside, body⟩ := reaches_many1_iff.1 bare
    have first : bareSet.StandsAt text i := body i (Nat.le_refl i) proper
    have noQuote {quote : Char} (isQuote : quote ∈ ['\'', '"', '>', '=']) :
        text[i]? ≠ some quote := fun present => not_solid_of_mem present isQuote first
    obtain ⟨e, further, within, more, ends, later⟩ := rest.exists_end_of_bare border inside
    refine ⟨e, ?_, Nat.lt_of_lt_of_le proper further, later⟩
    have single : (advance text (one bareSet) [⟨i, none⟩]).head? = some ⟨i + 1, none⟩ :=
      head?_advance_of_unique (a := ⟨i, none⟩) rfl fun _ => and_iff_left first
    have run : (advance text (many1 (one bareSet)) [⟨i, none⟩]).head? = some ⟨e, none⟩ := by
      apply head?_advance_cat_run single (Nat.lt_of_lt_of_le proper further) within _ ends
      intro j after before
      rcases Nat.lt_or_ge j stop with early | late
      · exact body j (Nat.le_of_succ_le after) early
      · exact more j late before
    rw [parts, head?_advance_alt, notQuoted (noQuote (by decide)), Option.none_or,
      head?_advance_alt, notQuoted (noQuote (by decide)), Option.none_or, run]

/-- The value of an attribute in front of the rest of a tag. -/
theorem Rest.of_attrValue (reaches : attrValue.Reaches text i stop) : Rest text i := by
  obtain ⟨first, ⟨_, equals, low, inside, space⟩, isValue⟩ := reaches
  obtain ⟨rfl, present⟩ := reaches_char_iff.1 equals
  obtain ⟨e, found, proper, later⟩ := rest.exists_head_of_value border isValue
  have one (next : Nat) : (char '=').Reaches text i next ↔ next = i + 1 := by
    rw [reaches_char_iff]
    exact and_iff_left present
  have sign : (advance text (char '=') [⟨i, none⟩]).head? = some ⟨i + 1, none⟩ :=
    head?_advance_of_unique (a := ⟨i, none⟩) rfl one
  have blank : (advance text (char '=' ++ blanks) [⟨i, none⟩]).head? = some ⟨first, none⟩ :=
    head?_advance_cat_run sign low inside space (not_whiteSpace_of_value isValue)
  have head : (advance text attrValue [⟨i, none⟩]).head? = some ⟨e, none⟩ :=
    head?_advance_cat_alt blank found
  exact .assigned (tokenAt_eq rfl head (Nat.lt_trans low proper)) later

/-- An attribute of a tag, with the white space in front of it. -/
def tagAttribute : Pattern :=
  someBlanks ++ many1 (solid ['>', '/', '=']) ++ opt (blanks ++ char '=' ++ blanks ++ value)

/-- **An attribute in front of the rest of a tag** leaves more of the tag. -/
theorem Rest.of_attribute (reaches : tagAttribute.Reaches text i stop) :
    Rest text i ∧ Border text i := by
  obtain ⟨named, ⟨begins, space, name⟩, ends⟩ := reaches
  obtain ⟨low, _, blank⟩ := reaches_many1_iff.1 space
  obtain ⟨low', _, solid'⟩ := reaches_many1_iff.1 name
  refine ⟨?_, not_solid_of_whiteSpace (blank i (Nat.le_refl i) low)⟩
  have quiet (j : Nat) (after : i ≤ j) (before : j < named) : Quiet text j := by
    rcases Nat.lt_or_ge j begins with early | late
    · exact quiet_of_whiteSpace (blank j after early)
    · exact quiet_of_solid (solid' j late before)
  have further : i ≤ named := by omega
  rcases ends with ⟨_, ⟨_, ⟨equals, more, sign⟩, spaces⟩, isValue⟩ | none
  · have assigned : Rest text equals := by
      apply rest.of_attrValue border
      exact ⟨_, ⟨_, sign, spaces⟩, isValue⟩
    refine .of_quiet (Nat.le_trans further more.1) (fun j after before => ?_) assigned
    rcases Nat.lt_or_ge j named with early | late
    · exact quiet j after early
    · exact quiet_of_whiteSpace (more.2.2 j late before)
  · obtain rfl : stop = named := none
    exact .of_quiet further quiet rest

/-- Any number of attributes in front of the rest of a tag. -/
theorem Rest.of_attributes
    (reaches : Relation.ReflTransGen (tagAttribute.Reaches text) i stop) :
    Rest text i ∧ Border text i := by
  induction reaches using Relation.ReflTransGen.head_induction_on with
  | refl => exact ⟨rest, border⟩
  | head first _ ih => exact Rest.of_attribute ih.1 ih.2 first

end Behind

/-- White space in front of the closing bracket. -/
theorem Rest.of_blanks (spaces : blanks.Reaches text i stop)
    (closes : closing.Reaches text stop text.size) : Rest text i ∧ Border text i := by
  obtain ⟨low, _, blank⟩ := spaces
  constructor
  · apply Rest.of_quiet low _ (.bracket closes)
    exact fun j after before => quiet_of_whiteSpace (blank j after before)
  · rcases Nat.eq_or_lt_of_le low with rfl | later
    · exact border_of_closing closes
    · exact not_solid_of_whiteSpace (blank i (Nat.le_refl i) later)

/-! ## Tags -/

/-- A text that is a tag: a bracket, a name up to where it has to end, and the rest. -/
structure IsTag (text : Array Char) (opened named : Nat) : Prop where
  opens : opening.Reaches text 0 opened
  proper : opened < named
  inside : named ≤ text.size
  name : ∀ i, opened ≤ i → i < named → (solidSet ['>', '/']).StandsAt text i
  border : Border text named
  rest : Rest text named

/-- **What the pattern for tags matches as a whole is a tag.** -/
theorem exists_isTag (reaches : tag.Reaches text 0 text.size) :
    ∃ opened named, IsTag text opened named := by
  obtain ⟨last, ⟨attributed, ⟨named, ⟨opened, opens, name⟩, attributes⟩, spaces⟩, closes⟩ := reaches
  obtain ⟨proper, inside, solid'⟩ := reaches_many1_iff.1 name
  have behind := Rest.of_blanks spaces closes
  have ends := Rest.of_attributes behind.1 behind.2 attributes
  refine ⟨opened, named, opens, proper, inside, fun j after before => ?_, ends.2, ends.1⟩
  exact solid_of_subset (List.subset_append_left ['>', '/'] ['=', '!', '?']) (solid' j after before)

end Markup

end Language

end Highlight
