import Highlight.Language.Parts
import Highlight.Proofs.Pattern.Preference

/-!
# Where comments and strings end

The two ends of a text are conditions on a place (`Language.reaches_start_iff`,
`Language.reaches_finish_iff`).

A comment to the end of the line matches where its sign stands, up to the first line break
behind it (`Language.tokenAt_lineComment`). An enclosed comment matches where it is opened, up to
the first sign behind that which closes it (`Language.tokenAt_enclosedComment`). A string between
two quotes reaches one place only, behind the first closing quote, if there is no backslash in it
(`Language.reaches_enclosed_iff`), as does one that a text begins with
(`Language.BeginsWithString`). Where in a text the parts of it stand that is written between two
quotes, `Language.isQuoted` says.
-/

namespace Highlight

set_option autoImplicit false

namespace Language

open Pattern

variable {text : Array Char} {place other : Nat}

/-! ## The ends of the text -/

theorem reaches_start_iff (inside : place ≤ text.size) :
    start.Reaches text place other ↔ other = place ∧ place = 0 := by
  refine and_congr_right fun _ => ?_
  rw [Assertion.holds, Assertion.holdsBetween, Assertion.charBefore]
  split
  · next first => exact iff_of_true rfl first
  · next later =>
    refine iff_of_false ?_ later
    rw [Option.isNone_iff_eq_none, Array.getElem?_eq_none_iff]
    omega

theorem reaches_finish_iff (inside : place ≤ text.size) :
    finish.Reaches text place other ↔ other = place ∧ place = text.size := by
  refine and_congr_right fun _ => ?_
  rw [Assertion.holds, Assertion.holdsBetween, Option.isNone_iff_eq_none,
    Array.getElem?_eq_none_iff]
  omega

/-! ## To the end of the line -/

theorem standsAt_anyInLine_iff {c : Char} (present : text[place]? = some c) :
    (CharSet.compl (.ofList ['\n'])).StandsAt text place ↔ c ≠ '\n' := by
  rw [CharSet.standsAt_iff present, CharSet.contains_compl, CharSet.contains_ofList,
    Bool.not_eq_true', decide_eq_false_iff_not, List.mem_singleton]

/-- **A comment to the end of the line matches where its sign stands**, up to the first line
break. -/
theorem tokenAt_lineComment {sign : String} {stop : Nat} (proper : 0 < sign.toList.length)
    (opens : StandAt text sign.toList place) (low : place + sign.toList.length ≤ stop)
    (inside : stop ≤ text.size)
    (line : ∀ i, place + sign.toList.length ≤ i → i < stop → text[i]? ≠ some '\n')
    (ends : ∀ c, text[stop]? = some c → c = '\n') :
    (lineComment sign).tokenAt text place = some ⟨place, stop⟩ := by
  refine tokenAt_eq (a := ⟨stop, none⟩) ?_ ?_ (by simp only; omega)
  · rw [lineComment]
    exact (Bool.or_eq_false_iff).2 ⟨hasToken_literal sign, rfl⟩
  · refine head?_advance_cat_run (b := ⟨place + sign.toList.length, none⟩) ?_ low inside ?_ ?_
    · rw [advance_literal opens, List.head?_cons]
    · intro i after before
      have present := Array.getElem?_eq_getElem (Nat.lt_of_lt_of_le before inside)
      exact (standsAt_anyInLine_iff present).2 fun same => line i after before (same ▸ present)
    · intro stands
      have present := Array.getElem?_eq_getElem stands.lt_size
      exact (standsAt_anyInLine_iff present).1 stands (ends _ present)

theorem standAt_of_lineComment {sign : String} {s : Span}
    (found : (lineComment sign).tokenAt text place = some s) :
    s.start = place ∧ StandAt text sign.toList place := by
  have noToken : (lineComment sign).hasToken = false :=
    (Bool.or_eq_false_iff).2 ⟨hasToken_literal sign, rfl⟩
  obtain ⟨start, between, first, _⟩ := reaches_of_tokenAt noToken found
  exact ⟨start, (reaches_literal_iff.1 first).1⟩

/-! ## Up to a closing sign -/

section Enclosed

variable {opening closing : String}

theorem standsAt_all_iff : CharSet.all.StandsAt text place ↔ place < text.size := by
  refine ⟨CharSet.StandsAt.lt_size, fun inside => ?_⟩
  rw [CharSet.standsAt_iff (Array.getElem?_eq_getElem inside), CharSet.contains_all]

theorem hasToken_enclosedComment : (enclosedComment opening closing).hasToken = false := by
  rw [enclosedComment, shortest]
  exact (Bool.or_eq_false_iff).2
    ⟨(Bool.or_eq_false_iff).2 ⟨hasToken_literal opening, rfl⟩,
      (Bool.or_eq_false_iff).2 ⟨hasToken_literal closing, rfl⟩⟩

/-- An enclosed comment goes on up to a sign that closes it or to the end of the text. -/
theorem reaches_enclosedComment_iff :
    (enclosedComment opening closing).Reaches text place other ↔
      StandAt text opening.toList place ∧
        ∃ closed, place + opening.toList.length ≤ closed ∧ closed ≤ text.size ∧
          (StandAt text closing.toList closed ∧ other = closed + closing.toList.length ∨
            other = closed ∧ closed = text.size) := by
  have opened (between : Nat) : (literal opening ++ shortest).Reaches text place between ↔
      StandAt text opening.toList place ∧ place + opening.toList.length ≤ between ∧
        between ≤ text.size := by
    constructor
    · rintro ⟨_, first, low, inside, _⟩
      obtain ⟨opens, rfl⟩ := reaches_literal_iff.1 first
      exact ⟨opens, low, inside⟩
    · rintro ⟨opens, low, inside⟩
      exact ⟨_, reaches_literal_iff.2 ⟨opens, rfl⟩, low, inside,
        fun i _ before => standsAt_all_iff.2 (Nat.lt_of_lt_of_le before inside)⟩
  constructor
  · rintro ⟨closed, first, second⟩
    obtain ⟨opens, low, inside⟩ := (opened closed).1 first
    refine ⟨opens, closed, low, inside, ?_⟩
    exact second.imp reaches_literal_iff.1 (reaches_finish_iff inside).1
  · rintro ⟨opens, closed, low, inside, ends⟩
    exact ⟨closed, (opened closed).2 ⟨opens, low, inside⟩,
      ends.imp reaches_literal_iff.2 (reaches_finish_iff inside).2⟩

/-- **What is as short as possible ends where something leads on behind it first**, if that leads on
from each of some places by itself. -/
theorem head?_advance_shortest {p q : Pattern} {a b c : Arrival} {closed : Nat}
    (inOrder : ∀ sources, (advance text q sources).head? =
      sources.findSome? fun a => (advance text q [a]).head?)
    (single : advance text p [a] = [b]) (low : b.place ≤ closed) (inside : closed ≤ text.size)
    (first : (advance text q [⟨closed, b.token⟩]).head? = some c)
    (before : ∀ i, b.place ≤ i → i < closed → (advance text q [⟨i, b.token⟩]).head? = none) :
    (advance text (p ++ shortest ++ q) [a]).head? = some c := by
  have run : advance text (p ++ shortest ++ q) [a] =
      advance text q (gather (runFrom text false .all) (advance text p [a])) := rfl
  rw [run, single, gather, runFrom_eq (Nat.le_refl text.size)
    (fun more => absurd (standsAt_all_iff.1 more) (Nat.lt_irrefl _)) (Nat.le_trans low inside)
    fun i _ more => standsAt_all_iff.2 more, inOrder]
  simp only [Bool.false_eq_true, if_false, List.findSome?_map]
  exact findSome?_range' low (by omega) first before

/-- **An enclosed comment ends at the first sign that closes it.** -/
theorem tokenAt_enclosedComment {closed : Nat} (proper : 0 < opening.toList.length)
    (opens : StandAt text opening.toList place) (low : place + opening.toList.length ≤ closed)
    (inside : closed < text.size) (closes : StandAt text closing.toList closed)
    (before : ∀ i, place + opening.toList.length ≤ i → i < closed →
      ¬ StandAt text closing.toList i) :
    (enclosedComment opening closing).tokenAt text place =
      some ⟨place, closed + closing.toList.length⟩ := by
  have either (i : Nat) : (advance text (choice [literal closing, finish]) [⟨i, none⟩]).head? =
      ((advance text (literal closing) [⟨i, none⟩]).head?).or
        (advance text finish [⟨i, none⟩]).head? := head?_advance_alt
  have passes (i : Nat) (low : place + opening.toList.length ≤ i) (early : i < closed) :
      (advance text (choice [literal closing, finish]) [⟨i, none⟩]).head? = none := by
    rw [either, head?_advance_eq_none fun _ reaches =>
        before i low early (reaches_literal_iff.1 reaches).1,
      head?_advance_eq_none fun _ reaches =>
        absurd ((reaches_finish_iff (by simp only; omega)).1 reaches).2 (by simp only; omega)]
    rfl
  refine tokenAt_eq (a := ⟨closed + closing.toList.length, none⟩) hasToken_enclosedComment ?_
    (by simp only; omega)
  refine head?_advance_shortest (b := ⟨place + opening.toList.length, none⟩)
    (fun sources => head?_gather _ sources) (advance_literal opens) low (Nat.le_of_lt inside) ?_
    passes
  rw [either, advance_literal closes, List.head?_cons, Option.some_or]

end Enclosed

/-! ## Up to a closing quote -/

/-- **A string ends at the first closing quote**, if there is no backslash before. -/
theorem reaches_enclosed_iff {quote : Char} {escaped : Pattern} {excluded : List Char} {close : Nat}
    (isQuote : quote ∈ excluded) (backslash : '\\' ∈ excluded) (other' : quote ≠ '\\')
    (opens : text[place]? = some quote) (low : place < close)
    (body : ∀ i, place < i → i < close → ∃ c, text[i]? = some c ∧ c ∉ excluded)
    (closes : text[close]? = some quote) :
    (char quote ++ many (choice [char '\\' ++ escaped, noneOf excluded]) ++ char quote).Reaches
      text place other ↔ other = close + 1 := by
  let round : Pattern := choice [char '\\' ++ escaped, noneOf excluded]
  have step {i next : Nat} (after : place < i) (before : i ≤ close)
      (reaches : round.Reaches text i next) : next ≤ close := by
    rcases Nat.eq_or_lt_of_le before with rfl | early
    · rcases reaches with ⟨_, first, _⟩ | stands
      · exact absurd (Option.some.inj (closes.symm.trans (reaches_char_iff.1 first).2)) other'
      · exact absurd isQuote ((reaches_noneOf_iff closes).1 stands).2
    · obtain ⟨c, present, allowed⟩ := body i after early
      rcases reaches with ⟨_, first, _⟩ | stands
      · have same := Option.some.inj (present.symm.trans (reaches_char_iff.1 first).2)
        exact absurd (same ▸ backslash) allowed
      · rw [((reaches_noneOf_iff present).1 stands).1]
        exact early
  constructor
  · rintro ⟨last, ⟨start, first, rounds⟩, ends⟩
    obtain ⟨rfl, _⟩ := reaches_char_iff.1 first
    obtain ⟨rfl, isEnd⟩ := reaches_char_iff.1 ends
    have within : place < last ∧ last ≤ close := by
      clear ends isEnd
      induction rounds with
      | refl => exact ⟨Nat.lt_succ_self _, low⟩
      | tail _ next ih =>
          exact ⟨Nat.lt_of_lt_of_le ih.1 (Reaches.le next), step ih.1 ih.2 next⟩
    rcases Nat.eq_or_lt_of_le within.2 with rfl | early
    · rfl
    · obtain ⟨c, present, allowed⟩ := body last within.1 early
      exact absurd (Option.some.inj (present.symm.trans isEnd) ▸ isQuote) allowed
  · rintro rfl
    have rounds : ∀ ahead, place + 1 + ahead ≤ close →
        Relation.ReflTransGen (round.Reaches text) (place + 1) (place + 1 + ahead) := by
      intro ahead
      induction ahead with
      | zero => exact fun _ => .refl
      | succ ahead ih =>
          intro before
          obtain ⟨c, present, allowed⟩ := body (place + 1 + ahead) (by omega) (by omega)
          exact (ih (by omega)).tail (Or.inr ((reaches_noneOf_iff present).2 ⟨rfl, allowed⟩))
    obtain ⟨ahead, rfl⟩ := Nat.exists_eq_add_of_le (Nat.succ_le_of_lt low)
    exact ⟨_, ⟨_, reaches_char_iff.2 ⟨rfl, opens⟩, rounds ahead (Nat.le_refl _)⟩,
      reaches_char_iff.2 ⟨rfl, closes⟩⟩

/-! ## A string at the beginning -/

/-- A text begins with a string in double quotes on one line, without a backslash in it and
without a further quote behind it. -/
structure BeginsWithString (text : Array Char) (close : Nat) : Prop where
  opens : text[0]? = some '"'
  low : 0 < close
  body : ∀ i : Nat, 0 < i → i < close → ∃ c, text[i]? = some c ∧ c ∉ ['\\', '"', '\r', '\n']
  closes : text[close]? = some '"'
  behind : text[close + 1]? ≠ some '"'

namespace BeginsWithString

variable {close : Nat} (begins : BeginsWithString text close)
include begins

theorem quoted_reaches_iff : (quoted '"').Reaches text 0 other ↔ other = close + 1 :=
  reaches_enclosed_iff (by decide) (by decide) (by decide) begins.opens begins.low begins.body
    begins.closes

/-- The quote of the string is not the first of three. -/
theorem not_standAt_tripleQuote : ¬ StandAt text ['"', '"', '"'] 0 := by
  rintro ⟨_, second, third, _⟩
  rcases Nat.eq_or_lt_of_le begins.low with rfl | later
  · exact begins.behind third
  · obtain ⟨c, present, allowed⟩ := begins.body 1 Nat.one_pos later
    rw [Option.some.inj (present.symm.trans second)] at allowed
    exact allowed (by decide)

end BeginsWithString

/-! ## Nothing but a string -/

/-- A text that consists of a body between two quotes. -/
structure IsQuoted (text : Array Char) (quote : Char) (body : List Char) : Prop where
  opens : text[0]? = some quote
  stand : StandAt text body 1
  closes : text[body.length + 1]? = some quote
  size : text.size = body.length + 2

/-- A text that is written between two quotes. -/
theorem isQuoted {sign : String} {quote : Char} (isSign : sign.toList = [quote]) (b : String) :
    IsQuoted (charactersOf (sign ++ b ++ sign)) quote b.toList := by
  have parts : (sign ++ b ++ sign).toList = [quote] ++ (b.toList ++ [quote]) := by
    simp only [String.toList_append, isSign, List.append_assoc]
  have all := standAt_toArray [] (sign ++ b ++ sign).toList
  rw [List.nil_append, parts, standAt_append_iff, standAt_append_iff, ← parts, List.length_nil,
    List.length_singleton, Nat.zero_add, Nat.add_comm 1] at all
  obtain ⟨⟨opens, _⟩, body, closes, _⟩ := all
  refine ⟨opens, body, closes, ?_⟩
  simp only [charactersOf, List.size_toArray, parts, List.length_append, List.length_singleton]
  omega

/-- The characters between the quotes are those of the body. -/
theorem IsQuoted.exists_mem {quote : Char} {body : List Char} (shape : IsQuoted text quote body)
    (low : 0 < place) (high : place < body.length + 1) : ∃ c ∈ body, text[place]? = some c := by
  have inside : place - 1 < body.length := by omega
  have here := shape.stand.getElem? inside
  rw [Nat.add_sub_cancel' low, List.getElem?_eq_getElem inside] at here
  exact ⟨_, List.getElem_mem inside, here⟩

end Language

end Highlight
