import Highlight.Language.Python
import Highlight.Proofs.Language.TemplateLiteral

/-!
# How long a string of the longer kind is

Template literals and strings in three quotes may run on over comments and other strings. Where they
end is read off the characters behind the opening quote, one after the other.

A template literal ends at a backtick that is neither escaped nor taken along by a dollar sign nor
in an interpolation (`Language.JavaScript.templateLength?`,
`Language.JavaScript.tokenAt_template`). A string in three quotes ends at the first three quotes
behind those that open it (`Language.Python.tokenAt_tripleQuoted`). Letters in front of the quotes
belong to the string and change nothing about its end.
-/

namespace Highlight

set_option autoImplicit false

namespace Language

open Pattern

variable {text : Array Char} {i next stop : Nat} {c : Char} {rest : List Char}

/-! ## Template literals -/

namespace JavaScript

/-- How many of some characters are the rest of a template literal, up to the backtick that closes
it, given whether they begin within an interpolation. -/
def templateLength? : Bool → List Char → Option Nat
  | _, [] => none
  | true, c :: rest => (templateLength? (c != closeBrace) rest).map (· + 1)
  | false, '\x60' :: _ => some 1
  | false, '\\' :: _ :: rest => (templateLength? false rest).map (· + 2)
  | false, '$' :: '\x7b' :: rest => (templateLength? true rest).map (· + 2)
  | false, '$' :: _ :: rest => (templateLength? false rest).map (· + 2)
  | false, _ :: rest => (templateLength? false rest).map (· + 1)

/-- From a place on a text holds the rest of a template literal, up to another place. -/
def Closes (text : Array Char) (i stop : Nat) : Prop :=
  ∃ last, Relation.ReflTransGen (templatePart.Reaches text) i last ∧
    text[last]? = some backtick ∧ stop = last + 1

/-- From a place on a text holds the rest of an interpolation and then that of a template
literal. -/
def ClosesInside (text : Array Char) (i stop : Nat) : Prop :=
  ∃ between, (many (noneOf [closeBrace]) ++ char closeBrace).Reaches text i between ∧
    Closes text between stop

/-- From a place on a text holds the rest of a template literal, which may begin within an
interpolation. -/
def ClosesFrom (text : Array Char) : Bool → Nat → Nat → Prop
  | false => Closes text
  | true => ClosesInside text

theorem template_reaches_iff :
    template.Reaches text i stop ↔ text[i]? = some backtick ∧ Closes text (i + 1) stop := by
  constructor
  · rintro ⟨last, ⟨_, first, rounds⟩, ends⟩
    obtain ⟨rfl, opens⟩ := reaches_char_iff.1 first
    obtain ⟨isStop, closes⟩ := reaches_char_iff.1 ends
    exact ⟨opens, last, rounds, closes, isStop⟩
  · rintro ⟨opens, last, rounds, closes, isStop⟩
    exact ⟨last, ⟨i + 1, reaches_char_iff.2 ⟨rfl, opens⟩, rounds⟩,
      reaches_char_iff.2 ⟨isStop, closes⟩⟩

theorem closes_iff_of_backtick (present : text[i]? = some backtick) :
    Closes text i stop ↔ stop = i + 1 := by
  constructor
  · rintro ⟨last, rounds, _, isStop⟩
    rcases rounds.cases_head with rfl | ⟨_, first, _⟩
    · exact isStop
    · exact absurd first (not_reaches_of_rejects (p := templatePart) (by decide) present)
  · exact fun isStop => ⟨i, .refl, present, isStop⟩

/-- Where a template literal does not end, it goes on with the only part that is there. -/
theorem closes_iff_of_unique {place : Nat} (open' : text[i]? ≠ some backtick)
    (unique : ∀ next, templatePart.Reaches text i next ↔ next = place) :
    Closes text i stop ↔ Closes text place stop := by
  refine exists_congr fun last => and_congr_left fun ⟨closes, _⟩ =>
    reflTransGen_iff_of_unique unique ?_
  rintro rfl
  exact open' closes

/-- A backslash takes any character behind it along. -/
theorem escapePart_reaches_iff (escape : text[i]? = some '\\') (present : text[i + 1]? = some c) :
    templatePart.Reaches text i next ↔ next = i + 2 := by
  have isNot {d : Char} (other : '\\' ≠ d) : text[i]? ≠ some d := fun isD =>
    other (Option.some.inj (escape.symm.trans isD))
  constructor
  · rintro (⟨_, first, second⟩ | opens | single | ⟨_, dollar, _⟩)
    · obtain ⟨rfl, _⟩ := reaches_char_iff.1 first
      exact ((reaches_one_iff present).1 second).1
    · exact absurd (interpolation_opens opens).1 (isNot (by decide))
    · exact absurd ((reaches_noneOf_iff escape).1 single).2 (by decide)
    · exact absurd (reaches_char_iff.1 dollar).2 (isNot (by decide))
  · rintro rfl
    refine Or.inl ⟨i + 1, reaches_char_iff.2 ⟨rfl, escape⟩, ?_⟩
    exact (reaches_one_iff present).2 ⟨rfl, CharSet.contains_all c⟩

/-- A backslash or a dollar sign at the end of the text is no part. -/
theorem not_part_reaches_at_end (present : text[i]? = some c) (special : c = '\\' ∨ c = '$')
    (ends : i + 1 = text.size) : ¬ templatePart.Reaches text i next := by
  have behind {s : CharSet} : ¬ (one s).Reaches text (i + 1) next := fun ⟨_, stands⟩ =>
    absurd stands.lt_size (ends ▸ Nat.lt_irrefl _)
  have excluded : c ∈ ['\\', backtick, '$'] := by rcases special with rfl | rfl <;> decide
  rintro (⟨_, first, second⟩ | opens | single | ⟨_, first, second⟩)
  · obtain ⟨rfl, _⟩ := reaches_char_iff.1 first
    exact behind second
  · have inside := (Array.getElem?_eq_some_iff.1 (interpolation_opens opens).2).1
    exact absurd inside (ends ▸ Nat.lt_irrefl _)
  · exact absurd excluded ((reaches_noneOf_iff present).1 single).2
  · obtain ⟨rfl, _⟩ := reaches_char_iff.1 first
    exact behind second

/-- An interpolation is opened, and then read to its end. -/
theorem interpolationPart_reaches_iff (dollar : text[i]? = some '$')
    (brace : text[i + 1]? = some openBrace) :
    templatePart.Reaches text i next ↔
      (many (noneOf [closeBrace]) ++ char closeBrace).Reaches text (i + 2) next := by
  constructor
  · rintro (⟨_, first, _⟩ | ⟨last, ⟨_, opens, inside⟩, ends⟩ | single | ⟨_, first, second⟩)
    · exact absurd (Option.some.inj (dollar.symm.trans (reaches_char_iff.1 first).2)) (by decide)
    · obtain ⟨_, sign, isBrace⟩ := opens
      obtain ⟨_, rfl⟩ := reaches_literal_iff.1 sign
      obtain ⟨rfl, _⟩ := reaches_char_iff.1 isBrace
      exact ⟨last, inside, ends⟩
    · exact absurd ((reaches_noneOf_iff dollar).1 single).2 (by decide)
    · obtain ⟨rfl, _⟩ := reaches_char_iff.1 first
      exact absurd ((reaches_noneOf_iff brace).1 second).2 (by decide)
  · rintro ⟨last, inside, ends⟩
    refine Or.inr (Or.inl ⟨last, ⟨i + 2, ⟨i + 1, ?_, ?_⟩, inside⟩, ends⟩)
    · exact reaches_literal_iff.2 ⟨⟨dollar, trivial⟩, rfl⟩
    · exact reaches_char_iff.2 ⟨rfl, brace⟩

theorem closes_iff_of_interpolation (dollar : text[i]? = some '$')
    (brace : text[i + 1]? = some openBrace) :
    Closes text i stop ↔ ClosesInside text (i + 2) stop := by
  constructor
  · rintro ⟨last, rounds, closes, isStop⟩
    rcases rounds.cases_head with rfl | ⟨between, first, others⟩
    · exact absurd (Option.some.inj (dollar.symm.trans closes)) (by decide)
    · exact ⟨between, (interpolationPart_reaches_iff dollar brace).1 first, last, others, closes,
        isStop⟩
  · rintro ⟨between, first, last, others, closes, isStop⟩
    exact ⟨last, .head ((interpolationPart_reaches_iff dollar brace).2 first) others, closes,
      isStop⟩

/-- The inside of an interpolation goes on up to the first closing brace. -/
theorem inside_reaches_iff :
    (many (noneOf [closeBrace]) ++ char closeBrace).Reaches text i next ↔
      ∃ last, i ≤ last ∧ (∀ k, i ≤ k → k < last → text[k]? ≠ some closeBrace) ∧
        text[last]? = some closeBrace ∧ next = last + 1 := by
  constructor
  · rintro ⟨last, ⟨low, _, all⟩, ends⟩
    obtain ⟨isNext, closes⟩ := reaches_char_iff.1 ends
    refine ⟨last, low, fun k after before present => ?_, closes, isNext⟩
    have single : (noneOf [closeBrace]).Reaches text k (k + 1) := ⟨rfl, all k after before⟩
    exact ((reaches_noneOf_iff present).1 single).2 List.mem_cons_self
  · rintro ⟨last, low, open', closes, isNext⟩
    have inside : last < text.size := (Array.getElem?_eq_some_iff.1 closes).1
    refine ⟨last, ⟨low, Nat.le_of_lt inside, fun k after before => ?_⟩,
      reaches_char_iff.2 ⟨isNext, closes⟩⟩
    have present := Array.getElem?_eq_getElem (Nat.lt_trans before inside)
    refine ((reaches_noneOf_iff present).2 ⟨rfl, fun member => ?_⟩).2
    exact open' k after before (List.mem_singleton.1 member ▸ present)

theorem closesInside_iff_of_brace (present : text[i]? = some closeBrace) :
    ClosesInside text i stop ↔ Closes text (i + 1) stop := by
  refine ⟨?_, fun closes => ⟨i + 1, inside_reaches_iff.2
    ⟨i, Nat.le_refl i, fun k low high => absurd high (Nat.not_lt.2 low), present, rfl⟩, closes⟩⟩
  rintro ⟨_, inside, closes⟩
  obtain ⟨last, low, open', _, rfl⟩ := inside_reaches_iff.1 inside
  rcases Nat.eq_or_lt_of_le low with rfl | later
  · exact closes
  · exact absurd present (open' i (Nat.le_refl i) later)

theorem closesInside_iff_of_other (present : text[i]? = some c) (other : c ≠ closeBrace) :
    ClosesInside text i stop ↔ ClosesInside text (i + 1) stop := by
  have open' : text[i]? ≠ some closeBrace := fun brace =>
    other (Option.some.inj (present.symm.trans brace))
  refine exists_congr fun between => and_congr_left fun _ => ?_
  rw [inside_reaches_iff, inside_reaches_iff]
  refine exists_congr fun last => ⟨?_, ?_⟩
  · rintro ⟨low, before, closes, isNext⟩
    refine ⟨Nat.lt_of_le_of_ne low ?_, fun k after => before k (Nat.le_of_succ_le after), closes,
      isNext⟩
    rintro rfl
    exact open' closes
  · rintro ⟨low, before, closes, isNext⟩
    refine ⟨Nat.le_of_succ_le low, fun k after early => ?_, closes, isNext⟩
    rcases Nat.eq_or_lt_of_le after with rfl | later
    · exact open'
    · exact before k later early

/-- A character that is no sign of a template literal is a part by itself, and a backslash or a
dollar sign with nothing behind it is no part. -/
theorem closes_iff_of_other (present : text[i]? = some c) (open' : c ≠ backtick)
    (special : c = '\\' ∨ c = '$' → i + 1 = text.size) :
    Closes text i stop ↔ Closes text (i + 1) stop := by
  have noEnd : text[i]? ≠ some backtick := fun closes =>
    open' (Option.some.inj (present.symm.trans closes))
  by_cases ordinary : c ∈ ['\\', backtick, '$']
  · have isSpecial : c = '\\' ∨ c = '$' := by simpa [open'] using ordinary
    have ends := special isSpecial
    refine iff_of_false ?_ ?_
    · rintro ⟨last, rounds, closes, _⟩
      rcases rounds.cases_head with rfl | ⟨_, first, _⟩
      · exact noEnd closes
      · exact not_part_reaches_at_end present isSpecial ends first
    · rintro ⟨last, rounds, closes, _⟩
      have low : i + 1 ≤ last := Reaches.le (p := star true templatePart) rounds
      have inside : last < text.size := (Array.getElem?_eq_some_iff.1 closes).1
      omega
  · exact closes_iff_of_unique noEnd fun next => part_reaches_iff present ordinary

/-- Some characters more are counted behind the place they lead to. -/
theorem exists_map_add_iff {found : Option Nat} {count : Nat} :
    (∃ n, found.map (· + count) = some n ∧ stop = i + n) ↔
      ∃ n, found = some n ∧ stop = i + count + n := by
  constructor
  · rintro ⟨_, mapped, rfl⟩
    obtain ⟨n, found, rfl⟩ := Option.map_eq_some_iff.1 mapped
    exact ⟨n, found, by omega⟩
  · rintro ⟨n, found, rfl⟩
    exact ⟨n + count, congrArg _ found, by omega⟩

/-- **The end of a template literal is read off the characters one by one.** -/
theorem closesFrom_iff (inside : Bool) (stand : StandAt text rest i)
    (ends : i + rest.length = text.size) :
    ClosesFrom text inside i stop ↔ ∃ n, templateLength? inside rest = some n ∧ stop = i + n := by
  fun_induction templateLength? inside rest generalizing i with
  | case1 inside =>
      have past {c : Char} {k : Nat} (low : i ≤ k) : text[k]? ≠ some c := fun present => by
        have := (Array.getElem?_eq_some_iff.1 present).1
        simp only [List.length_nil] at ends
        omega
      refine iff_of_false ?_ fun ⟨_, absent, _⟩ => (Option.some_ne_none _ absent.symm)
      cases inside with
      | false =>
          rintro ⟨last, rounds, closes, _⟩
          exact past (Reaches.le (p := star true templatePart) rounds) closes
      | true =>
          rintro ⟨_, inside, _⟩
          obtain ⟨last, low, _, closes, _⟩ := inside_reaches_iff.1 inside
          exact past low closes
  | case2 c rest ih =>
      obtain ⟨present, later⟩ := stand
      rw [exists_map_add_iff, ← ih later (by simp only [List.length_cons] at ends; omega)]
      by_cases brace : c = closeBrace
      · subst brace
        exact closesInside_iff_of_brace present
      · rw [bne_iff_ne.2 brace]
        exact closesInside_iff_of_other present brace
  | case3 rest =>
      simp only [Option.some.injEq, exists_eq_left']
      exact closes_iff_of_backtick stand.1
  | case4 c rest ih =>
      obtain ⟨escape, present, later⟩ := stand
      rw [exists_map_add_iff, ← ih later (by simp only [List.length_cons] at ends; omega)]
      refine closes_iff_of_unique (fun closes => ?_) fun next =>
        escapePart_reaches_iff escape present
      exact absurd (Option.some.inj (escape.symm.trans closes)) (by decide)
  | case5 rest ih =>
      obtain ⟨dollar, brace, later⟩ := stand
      rw [exists_map_add_iff, ← ih later (by simp only [List.length_cons] at ends; omega)]
      exact closes_iff_of_interpolation dollar brace
  | case6 c rest noBrace ih =>
      obtain ⟨dollar, present, later⟩ := stand
      rw [exists_map_add_iff, ← ih later (by simp only [List.length_cons] at ends; omega)]
      refine closes_iff_of_unique (fun closes => ?_) fun next =>
        dollarPart_reaches_iff dollar present noBrace
      exact absurd (Option.some.inj (dollar.symm.trans closes)) (by decide)
  | case7 c rest noBacktick noEscape _ noDollar ih =>
      obtain ⟨present, later⟩ := stand
      rw [exists_map_add_iff, ← ih later (by simp only [List.length_cons] at ends; omega)]
      refine closes_iff_of_other present noBacktick fun special => ?_
      cases rest with
      | nil => exact ends
      | cons d others =>
          rcases special with rfl | rfl
          · exact (noEscape d others rfl rfl).elim
          · exact (noDollar d others rfl rfl).elim

/-- **A template literal that begins at a backtick** ends where the characters behind it say. -/
theorem tokenAt_template (opens : text[i]? = some backtick) (stand : StandAt text rest (i + 1))
    (ends : i + 1 + rest.length = text.size) :
    template.tokenAt text i =
      (templateLength? false rest).map fun n => ⟨i, i + 1 + n⟩ := by
  have reaches (other : Nat) : template.Reaches text i other ↔
      ∃ n, templateLength? false rest = some n ∧ other = i + 1 + n := by
    rw [template_reaches_iff, and_iff_right opens]
    exact closesFrom_iff false stand ends
  cases length : templateLength? false rest with
  | none =>
      refine tokenAt_eq_none fun next found => ?_
      obtain ⟨n, isLength, _⟩ := (reaches next).1 found
      rw [length] at isLength
      cases isLength
  | some n =>
      simp only [length, Option.some.injEq, exists_eq_left'] at reaches
      exact tokenAt_of_unique hasToken_template (by omega) reaches

/-- A template literal begins at a backtick. -/
theorem tokenAt_template_of_other (other : text[i]? ≠ some backtick) :
    template.tokenAt text i = none :=
  tokenAt_eq_none fun _ reaches => other (template_reaches_iff.1 reaches).1

/-- The last character of the rest of a template literal is a backtick. -/
theorem backtick_of_templateLength? {n : Nat} (stand : StandAt text rest i)
    (ends : i + rest.length = text.size) (length : templateLength? false rest = some n) :
    ∃ last, n = last + 1 ∧ text[i + last]? = some backtick := by
  obtain ⟨last, rounds, closes, isStop⟩ :=
    (closesFrom_iff false stand ends).2 ⟨n, length, rfl⟩
  have low : i ≤ last := Reaches.le (p := star true templatePart) rounds
  exact ⟨last - i, by omega, by rwa [Nat.add_sub_cancel' low]⟩

end JavaScript

/-! ## Strings in three quotes -/

namespace Python

/-- What stands between two signs, as short as possible. -/
def between (sign : String) : Pattern := literal sign ++ shortest ++ literal sign

theorem reaches_between_iff {sign : String} (proper : 0 < sign.toList.length) :
    (between sign).Reaches text i next ↔ StandAt text sign.toList i ∧
      ∃ closed, i + sign.toList.length ≤ closed ∧ StandAt text sign.toList closed ∧
        next = closed + sign.toList.length := by
  constructor
  · rintro ⟨closed, ⟨_, first, low, _⟩, second⟩
    obtain ⟨opens, rfl⟩ := reaches_literal_iff.1 first
    obtain ⟨closes, isNext⟩ := reaches_literal_iff.1 second
    exact ⟨opens, closed, low, closes, isNext⟩
  · rintro ⟨opens, closed, low, closes, isNext⟩
    have inside := closes.le_size proper
    exact ⟨closed, ⟨_, reaches_literal_iff.2 ⟨opens, rfl⟩, low, by omega, fun k _ before =>
      standsAt_all_iff.2 (by omega)⟩, reaches_literal_iff.2 ⟨closes, isNext⟩⟩

theorem head?_advance_between {sign : String} (proper : 0 < sign.toList.length) {closed : Nat}
    (opens : StandAt text sign.toList i) (low : i + sign.toList.length ≤ closed)
    (closes : StandAt text sign.toList closed)
    (open' : ∀ k, i + sign.toList.length ≤ k → k < closed → ¬ StandAt text sign.toList k) :
    (advance text (between sign) [⟨i, none⟩]).head? = some ⟨closed + sign.toList.length, none⟩ := by
  have inside := closes.le_size proper
  refine head?_advance_shortest (head?_advance_literal sign) (advance_literal opens) low (by omega)
    ?_ fun k after before => ?_
  · rw [advance_literal closes, List.head?_cons]
  · exact head?_advance_eq_none fun _ reaches =>
      open' k after before (reaches_literal_iff.1 reaches).1

/-- What can stand in front of the quotes. -/
def prefixes : Pattern := opt (choice plainPrefixes)

theorem tripleQuoted_eq :
    tripleQuoted = prefixes ++ choice [between "\"\"\"", between "'''"] := rfl

/-- Of letters in front of quotes the first can be left out. -/
theorem prefixes_reaches_succ {start : Nat} (reaches : prefixes.Reaches text i start)
    (further : i < start) : prefixes.Reaches text (i + 1) start := by
  have one {c : Char} (among : c ∈ ['r', 'u', 'b'])
      (stands : (CharSet.anyCase (.single c)).StandsAt text (i + 1)) :
      (CharSet.anyCase (.ofList ['r', 'u', 'b'])).StandsAt text (i + 1) := by
    obtain ⟨d, present, member⟩ := CharSet.standsAt_iff_exists.1 stands
    refine CharSet.standsAt_iff_exists.2 ⟨d, present, ?_⟩
    obtain ⟨variant, isVariant, same⟩ := List.any_eq_true.1 member
    rw [CharSet.contains_single, decide_eq_true_eq] at same
    exact List.any_eq_true.2
      ⟨variant, isVariant, (CharSet.contains_ofList _ _).trans (decide_eq_true (same ▸ among))⟩
  rcases reaches with (⟨rfl, _⟩ | ⟨_, ⟨rfl, _⟩, rfl, stands⟩ | ⟨_, ⟨rfl, _⟩, rfl, stands⟩) | stays
  · exact Or.inr rfl
  · exact Or.inl (Or.inl ⟨rfl, one (by decide) stands⟩)
  · exact Or.inl (Or.inl ⟨rfl, one (by decide) stands⟩)
  · exact absurd further (Nat.not_lt.2 (Nat.le_of_eq stays))

/-- Letters in front of quotes stop at the first quote. -/
theorem prefixes_reaches_unique {start other : Nat} (first : prefixes.Reaches text i start)
    (second : prefixes.Reaches text i other) (quote : text[start]? = some '\'')
    (quote' : text[other]? = some '\'') : start = other :=
  Nat.le_antisymm (first.le_of_avoids (by decide) quote' second.le)
    (second.le_of_avoids (by decide) quote first.le)

/-- **Letters in front of quotes change nothing about the end of a string.** -/
theorem tokenAt_tripleQuoted {start closed : Nat} (letters : prefixes.Reaches text i start)
    (opens : StandAt text "'''".toList start) (low : start + 3 ≤ closed)
    (closes : StandAt text "'''".toList closed)
    (open' : ∀ k, start + 3 ≤ k → k < closed → ¬ StandAt text "'''".toList k)
    (noDouble : ∀ other, prefixes.Reaches text i other → ¬ StandAt text "\"\"\"".toList other) :
    tripleQuoted.tokenAt text i = some ⟨i, closed + 3⟩ := by
  have proper : 0 < "'''".toList.length := by decide
  have sources : (advance text tripleQuoted [⟨i, none⟩]).head? =
      (advance text prefixes [⟨i, none⟩]).findSome? fun b =>
        (advance text (choice [between "\"\"\"", between "'''"]) [b]).head? := head?_gather _ _
  have either (b : Arrival) :
      (advance text (choice [between "\"\"\"", between "'''"]) [b]).head? =
        ((advance text (between "\"\"\"") [b]).head?).or
          (advance text (between "'''") [b]).head? := head?_advance_alt
  have double (b : Arrival) (member : b ∈ advance text prefixes [⟨i, none⟩]) :
      (advance text (between "\"\"\"") [b]).head? = none ∧ b.token = none ∧
        prefixes.Reaches text i b.place := by
    obtain ⟨_, only, reaches⟩ :=
      (mem_places_advance_iff text prefixes _ b.place).1 (List.mem_map_of_mem member)
    rw [List.mem_singleton.1 only] at reaches
    refine ⟨head?_advance_eq_none fun _ leads => noDouble _ reaches
      ((reaches_between_iff (by decide)).1 leads).1, ?_, reaches⟩
    exact token_of_mem_advance text none rfl (fun c same => List.mem_singleton.1 same ▸ rfl) b
      member
  have found := head?_advance_between proper opens low closes open'
  obtain ⟨a, source, isStart⟩ := mem_places_iff.1
    ((mem_places_advance_iff text prefixes [⟨i, none⟩] start).2
      ⟨_, List.mem_singleton_self _, letters⟩)
  have first : (advance text tripleQuoted [⟨i, none⟩]).head? = some ⟨closed + 3, none⟩ := by
    rw [sources]
    refine findSome?_of_forall source ?_ fun b member => ?_
    · obtain ⟨noDouble, noToken, _⟩ := double a source
      have isArrival : a = ⟨start, none⟩ := by rw [← isStart, ← noToken]
      rw [either, noDouble, Option.none_or, isArrival, found]
      rfl
    · obtain ⟨noDouble, noToken, reaches⟩ := double b member
      rw [either, noDouble, Option.none_or]
      by_cases same : b.place = start
      · have isArrival : b = ⟨start, none⟩ := by rw [← same, ← noToken]
        exact Or.inr (isArrival ▸ found)
      · refine Or.inl (head?_advance_eq_none fun _ leads => same ?_)
        exact prefixes_reaches_unique reaches letters ((reaches_between_iff proper).1 leads).1.1
          opens.1
  exact tokenAt_eq (a := ⟨closed + 3, none⟩) rfl first (by have := letters.le; simp only; omega)

end Python

end Language

end Highlight
