import Highlight.Proofs.Token.Walking
import Highlight.Render.Theme

/-!
# The style of the innermost name

A class is one text that is made of several: of the common first class and of the categories
and aliases on a lexical path, from which the empty ones are left out. Each of them may itself
be several words (`WordsOf`). A theme takes the class apart again, at its spaces.

Cutting a text at its spaces gives its words (`WordsOf.namesIn`). As nothing empty is joined,
the words of the whole are the words of the parts (`wordsOf_joined`), and those of a class are
the words of the first class and of the names on the path, outermost first
(`Label.exists_className`). The style of a mark is then that of the last of these words that has one
(`Theme.innermost_word_styled`).
-/

namespace Highlight

set_option autoImplicit false

/-- A separator cuts a text as it cuts any list. -/
theorem parts_eq_splitOn (separator : Char) (text : List Char) :
    parts separator text = text.splitOn separator := by
  induction text with
  | nil => rfl
  | cons c rest ih =>
      rw [parts, List.splitOn_cons_eq_if_modifyHead, ih]
      simp only [beq_iff_eq]
      split
      · rfl
      · split
        · next none => exact absurd none (List.splitOn_ne_nil _ _)
        · next first others found => rw [found, List.modifyHead_cons]

/-! ## Words -/

/-- Some words are those of a text: a single space stands between each and the next. An empty
text has no words. -/
structure WordsOf (text : String) (words : List String) : Prop where
  joined : String.intercalate " " words = text
  solid : ∀ word ∈ words, ' ' ∉ word.toList
  none_of_empty : text = "" → words = []

namespace WordsOf

variable {text other : String} {words more : List String}

theorem ne_nil (spelled : WordsOf text words) (nonempty : text ≠ "") : words ≠ [] := by
  rintro rfl
  exact nonempty (spelled.joined.symm.trans String.intercalate_nil)

/-- **Cutting a text at its spaces gives its words.** -/
theorem namesIn (spelled : WordsOf text words) (nonempty : text ≠ "") :
    Theme.namesIn text = words := by
  have solid : ∀ word ∈ words.map String.toList, ' ' ∉ word := by
    intro word member
    obtain ⟨own, isOwn, rfl⟩ := List.mem_map.1 member
    exact spelled.solid own isOwn
  have some' : words.map String.toList ≠ [] := by
    rw [ne_eq, List.map_eq_nil_iff]
    exact spelled.ne_nil nonempty
  have cut : parts ' ' text.toList = words.map String.toList := by
    rw [← spelled.joined, String.toList_intercalate, parts_eq_splitOn]
    exact List.splitOn_intercalate ' ' solid some'
  rw [Theme.namesIn, cut, List.map_map]
  simp only [Function.comp_def, String.ofList_toList, List.map_id']

/-- Two texts with a space between them have the words of both. -/
theorem append (first : WordsOf text words) (second : WordsOf other more) (nonempty : text ≠ "")
    (nonempty' : other ≠ "") : WordsOf (text ++ " " ++ other) (words ++ more) := by
  refine ⟨?_, ?_, ?_⟩
  · rw [String.intercalate_append_of_ne_nil (first.ne_nil nonempty) (second.ne_nil nonempty'),
      first.joined, second.joined]
  · intro word member
    rcases List.mem_append.1 member with member | member
    · exact first.solid word member
    · exact second.solid word member
  · intro empty
    simp only [String.append_eq_empty_iff] at empty
    exact absurd empty.1.1 nonempty

end WordsOf

/-! ## Joining -/

/-- Some texts with a space between each and the next. Empty ones do not count. -/
def joined (texts : List String) : String := String.intercalate " " (texts.filter (· != ""))

variable {text : String} {texts : List String} {words : List (List String)}

theorem joined_cons_empty : joined ("" :: texts) = joined texts := rfl

theorem joined_eq_empty_iff : joined texts = "" ↔ ∀ text ∈ texts, text = "" := by
  induction texts with
  | nil => exact iff_of_true rfl fun _ member => absurd member List.not_mem_nil
  | cons text rest ih =>
      by_cases empty : text = ""
      · subst empty
        rw [joined_cons_empty, ih, List.forall_mem_cons]
        exact (and_iff_right rfl).symm
      · refine iff_of_false ?_ fun all => empty (all text List.mem_cons_self)
        rw [joined, List.filter_cons, if_pos (bne_iff_ne.2 empty)]
        cases rest.filter (· != "") with
        | nil => rwa [String.intercalate_singleton]
        | cons next more =>
            rw [String.intercalate_cons_cons, String.append_assoc, String.append_eq_empty_iff]
            exact fun both => empty both.1

/-- Another text stands before the joined ones with a space in between, if there is anything. -/
theorem joined_cons (nonempty : text ≠ "") :
    joined (text :: texts) = if joined texts = "" then text else text ++ " " ++ joined texts := by
  rw [joined, List.filter_cons, if_pos (bne_iff_ne.2 nonempty)]
  split
  · next nothing =>
    have none : texts.filter (· != "") = [] := by
      rw [List.filter_eq_nil_iff]
      intro other member
      rw [joined_eq_empty_iff.1 nothing other member]
      decide
    rw [none, String.intercalate_singleton]
  · next something =>
    apply String.intercalate_cons_of_ne_nil
    intro none
    exact something (congrArg (String.intercalate " ") none)

/-- **The words of joined texts** are the words of the texts. -/
theorem wordsOf_joined (spelled : List.Forall₂ WordsOf texts words) :
    WordsOf (joined texts) words.flatten := by
  induction spelled with
  | nil => exact ⟨rfl, fun _ member => absurd member List.not_mem_nil, fun _ => rfl⟩
  | @cons text own texts words first later ih =>
      rw [List.flatten_cons]
      by_cases empty : text = ""
      · subst empty
        rw [joined_cons_empty, first.none_of_empty rfl]
        exact ih
      · rw [joined_cons empty]
        split
        · next nothing =>
          rw [ih.none_of_empty nothing, List.append_nil]
          exact first
        · next something => exact first.append ih empty something

/-! ## Classes -/

/-- The names of some tokens, each inside the one before: the category of each before its
alias. -/
def namesAround (around : List (String × Option String)) : List String :=
  around.flatMap fun token => token.1 :: token.2.toList

/-- A name on a path makes a label, and the class of the label is joined of the first class and
the names. -/
theorem Label.exists_className {around : List (String × Option String)} (classPrefix : String)
    (named : ∃ name ∈ namesAround around, name ≠ "") :
    ∃ label, along around = some label ∧
      (Mark.token classPrefix label).className = joined (classPrefix :: namesAround around) := by
  obtain ⟨name, member, nonempty⟩ := named
  have inside : around ≠ [] := by
    rintro rfl
    exact absurd member List.not_mem_nil
  have something : joined (namesAround around) ≠ "" := fun nothing =>
    nonempty (joined_eq_empty_iff.1 nothing name member)
  refine ⟨_, (along_eq around).trans (if_neg inside), ?_⟩
  rw [Mark.token]
  by_cases empty : classPrefix = ""
  · subst empty
    rw [if_pos rfl, joined_cons_empty]
    rfl
  · rw [if_neg empty, joined_cons empty, if_neg something]
    rfl

/-! ## Styles -/

namespace Theme

/-- The last of some names that has a style gives it. -/
theorem findSome?_reverse_eq_some_iff {t : Theme} {names : List String} {style : Style} :
    names.reverse.findSome? t.get? = some style ↔
      ∃ before name after, names = before ++ name :: after ∧ t.get? name = some style ∧
        ∀ later ∈ after, t.get? later = none := by
  rw [List.findSome?_eq_some_iff]
  constructor
  · rintro ⟨after, name, before, split, styled, unstyled⟩
    refine ⟨before.reverse, name, after.reverse, ?_, styled, ?_⟩
    · rw [← List.reverse_reverse names, split, List.reverse_append, List.reverse_cons,
        List.append_assoc, List.singleton_append]
    · intro later member
      exact unstyled later (List.mem_reverse.1 member)
  · rintro ⟨before, name, after, rfl, styled, unstyled⟩
    refine ⟨after.reverse, name, before.reverse, ?_, styled, ?_⟩
    · rw [List.reverse_append, List.reverse_cons, List.append_assoc, List.singleton_append]
    · intro later member
      exact unstyled later (List.mem_reverse.1 member)

/-- **The innermost word with a style gives the style.** On a path with a name that is not empty,
whatever the first class and the other names are, the names in the class of a mark are the words
of the first class and of the names on the path, outermost first. The style of the mark is that
of the last of these words for which the theme has one, and there is none if the theme has none
for any of them. -/
theorem innermost_word_styled (t : Theme) (classPrefix : String)
    (around : List (String × Option String)) (words : List (List String))
    (unnamed : t.get? "" = none) (named : ∃ name ∈ namesAround around, name ≠ "")
    (spelled : List.Forall₂ WordsOf (classPrefix :: namesAround around) words) :
    ∃ label, Label.along around = some label ∧
      let mark := Mark.token classPrefix label
      namesIn mark.className = words.flatten ∧
        (∀ style, t.styleFor? mark = some style ↔
          ∃ before word after, words.flatten = before ++ word :: after ∧ word ≠ "" ∧
            t.get? word = some style ∧ ∀ later ∈ after, t.get? later = none) ∧
        (t.styleFor? mark = none ↔ ∀ word ∈ words.flatten, t.get? word = none) := by
  obtain ⟨label, isLabel, className⟩ := Label.exists_className classPrefix named
  have nonempty : joined (classPrefix :: namesAround around) ≠ "" := by
    obtain ⟨name, member, nonempty⟩ := named
    intro nothing
    exact nonempty (joined_eq_empty_iff.1 nothing name (List.mem_cons_of_mem _ member))
  have names : namesIn (Mark.token classPrefix label).className = words.flatten := by
    rw [className]
    exact (wordsOf_joined spelled).namesIn nonempty
  refine ⟨label, isLabel, names, ?_, ?_⟩
  · intro style
    rw [styleFor?, names, findSome?_reverse_eq_some_iff]
    constructor
    · rintro ⟨before, word, after, split, styled, unstyled⟩
      refine ⟨before, word, after, split, ?_, styled, unstyled⟩
      rintro rfl
      rw [unnamed] at styled
      cases styled
    · rintro ⟨before, word, after, split, -, styled, unstyled⟩
      exact ⟨before, word, after, split, styled, unstyled⟩
  · rw [styleFor?, names, List.findSome?_eq_none_iff]
    simp only [List.mem_reverse]

/-- On a path with empty names and a name of two words, the innermost word with a style is in the
middle, and its style is the one that changes nothing. -/
theorem innermost_word_styled_punctuation :
    let around := [("tag", some ""), ("", none), ("punctuation open", some "mystery")]
    let label : Label := ⟨["tag", "punctuation open", "mystery"]⟩
    standard.get? "" = none ∧ Label.along around = some label ∧
      namesIn (Mark.token "token" label).className =
        ["token", "tag", "punctuation", "open", "mystery"] ∧
      standard.styleFor? (Mark.token "token" label) = some .unstyled := by
  intro around label
  have unnamed : standard.get? "" = none := by decide
  have spelled : List.Forall₂ WordsOf ("token" :: namesAround around)
      [["token"], ["tag"], [], [], ["punctuation", "open"], ["mystery"]] := by
    repeat' constructor
    all_goals decide
  obtain ⟨found, isFound, names, styled, -⟩ :=
    innermost_word_styled standard "token" around _ unnamed
      ⟨"tag", List.mem_cons_self, by decide⟩ spelled
  have isLabel : Label.along around = some label := rfl
  obtain rfl : label = found := Option.some.inj (isLabel.symm.trans isFound)
  refine ⟨unnamed, isLabel, names, (styled _).2 ?_⟩
  exact ⟨["token", "tag"], "punctuation", ["open", "mystery"], rfl, by decide, by decide,
    by decide⟩

end Theme

end Highlight
