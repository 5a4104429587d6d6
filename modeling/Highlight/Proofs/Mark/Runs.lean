import Highlight.Proofs.Mark.Grouping
import Mathlib.Data.List.Chain

/-!
# The only grouping into runs

Runs group a marked text if they lie end to end and cover it, none of them is empty, each has the
characters of its span and the marks of every one of them, and neighbours have different marks
(`MarkedText.GroupedFrom`). The runs of a text do so, and no other runs do
(`MarkedText.runs_only_grouping`).

That runs group the text is seen from its end, as they can be found from there. A character joins
the run behind it if that has the same marks (`GroupedFrom.grow`), and otherwise begins a run of its
own (`GroupedFrom.begin`). That there is no other grouping is seen from the front. Where the first
run ends, the next one begins with other marks, or the text ends, so no run that begins at the same
place can go on beyond it (`GroupedFrom.stop_le`).
-/

namespace Highlight

set_option autoImplicit false

namespace Run

/-- Runs lie end to end from one place to another. -/
def EndToEnd : Nat → List Run → Nat → Prop
  | place, [], stop => place = stop
  | place, run :: rest, stop => run.span.start = place ∧ EndToEnd run.span.stop rest stop

/-- A run is a stretch of a marked text: it is not empty, and it has the characters of its span and
the marks of each of them. -/
structure StretchOf (t : MarkedText) (run : Run) : Prop where
  proper : run.span.start < run.span.stop
  characters : run.characters = (t.chars.extract run.span.start run.span.stop).map MarkedChar.char
  marks : ∀ position, run.span.start ≤ position → position < run.span.stop →
    ∃ c, t.get? position = some c ∧ c.marks = run.marks

end Run

namespace MarkedText

/-- Runs group what stands in a marked text from a place on: they are stretches of it, lie end to
end up to its end, and neighbours have different marks. -/
structure GroupedFrom (t : MarkedText) (place : Nat) (runs : List Run) : Prop where
  endToEnd : Run.EndToEnd place runs t.length
  stretches : ∀ run ∈ runs, run.StretchOf t
  apart : runs.IsChain fun first second => first.marks ≠ second.marks

variable {t : MarkedText} {place : Nat} {c : MarkedChar} {run other : Run} {runs others : List Run}

/-! ## The runs group the text -/

/-- The characters of a stretch are the first one and those behind it. -/
theorem extract_eq_cons {stop : Nat} (here : t.get? place = some c) (proper : place < stop) :
    t.chars.extract place stop = c :: t.chars.extract (place + 1) stop := by
  obtain ⟨inside, rfl⟩ := List.getElem?_eq_some_iff.1 here
  have more : stop - place = stop - (place + 1) + 1 := by omega
  rw [List.extract, List.drop_eq_getElem_cons inside, more, List.take_succ_cons, List.extract]

/-- **A character with the marks of the run behind it joins that run.** -/
theorem GroupedFrom.grow (later : t.GroupedFrom (place + 1) (run :: runs))
    (here : t.get? place = some c) (same : run.marks = c.marks) :
    t.GroupedFrom place
      (⟨⟨place, run.span.stop⟩, c.char :: run.characters, run.marks⟩ :: runs) := by
  obtain ⟨begins, rest⟩ := later.endToEnd
  have stretch := later.stretches run List.mem_cons_self
  have proper : place + 1 < run.span.stop := begins ▸ stretch.proper
  refine ⟨⟨rfl, rest⟩, List.forall_mem_cons.2 ⟨⟨?_, ?_, ?_⟩, ?_⟩, ?_⟩
  · exact Nat.lt_of_succ_lt proper
  · have first : place < run.span.stop := Nat.lt_of_succ_lt proper
    rw [extract_eq_cons here first, List.map_cons, stretch.characters, begins]
  · intro position low high
    rcases Nat.eq_or_lt_of_le low with rfl | behind
    · exact ⟨c, here, same.symm⟩
    · apply stretch.marks position _ high
      rw [begins]
      exact behind
  · intro other member
    exact later.stretches other (List.mem_cons_of_mem _ member)
  · have apart := List.isChain_cons.1 later.apart
    exact List.isChain_cons.2 ⟨apart.1, apart.2⟩

/-- **Any other character begins a run of its own.** -/
theorem GroupedFrom.begin (later : t.GroupedFrom (place + 1) runs)
    (here : t.get? place = some c) (different : ∀ run ∈ runs.head?, run.marks ≠ c.marks) :
    t.GroupedFrom place (⟨⟨place, place + 1⟩, [c.char], c.marks⟩ :: runs) := by
  refine ⟨⟨rfl, later.endToEnd⟩, List.forall_mem_cons.2 ⟨⟨?_, ?_, ?_⟩, later.stretches⟩, ?_⟩
  · exact Nat.lt_succ_self place
  · rw [extract_eq_cons here (Nat.lt_succ_self place), List.map_cons]
    simp [List.extract]
  · intro position low high
    obtain rfl : position = place := Nat.le_antisymm (Nat.le_of_lt_succ high) low
    exact ⟨c, here, rfl⟩
  · apply List.isChain_cons.2
    exact ⟨fun run first => (different run first).symm, later.apart⟩

/-- The runs of the characters from a place on group what stands there. -/
theorem groupedFrom_runsFrom {chars : List MarkedChar} (rest : t.chars.drop place = chars)
    (inside : place ≤ t.length) : t.GroupedFrom place (runsFrom place chars) := by
  induction chars generalizing place with
  | nil =>
      have ends : t.length ≤ place := List.drop_eq_nil_iff.1 rest
      exact ⟨Nat.le_antisymm inside ends, List.forall_mem_nil _, .nil⟩
  | cons c chars ih =>
      have here : t.get? place = some c := by
        rw [get?, ← List.head?_drop, rest, List.head?_cons]
      have more : place + 1 ≤ t.length := (List.getElem?_eq_some_iff.1 here).1
      have behind : t.chars.drop (place + 1) = chars := by
        rw [← List.tail_drop, rest, List.tail_cons]
      have later := ih behind more
      rw [runsFrom]
      split
      · next none =>
        rw [none] at later
        apply later.begin here
        intro run first
        cases first
      · next run runs found =>
        rw [found] at later
        split
        · next same => exact later.grow here same
        · next different =>
          apply later.begin here
          intro first isFirst
          cases isFirst
          exact different

/-! ## Nothing else does -/

/-- The first of some runs begins where they do. -/
theorem GroupedFrom.start_eq (grouped : t.GroupedFrom place (run :: runs)) :
    run.span.start = place := grouped.endToEnd.1

/-- The runs behind the first one group what stands behind it. -/
theorem GroupedFrom.tail (grouped : t.GroupedFrom place (run :: runs)) :
    t.GroupedFrom run.span.stop runs :=
  ⟨grouped.endToEnd.2, fun other member => grouped.stretches other (List.mem_cons_of_mem _ member),
    grouped.apart.tail⟩

/-- Runs that share a position have the same marks. -/
theorem marks_eq_of_shared {position : Nat} (first : run.StretchOf t) (second : other.StretchOf t)
    (inFirst : run.span.start ≤ position ∧ position < run.span.stop)
    (inSecond : other.span.start ≤ position ∧ position < other.span.stop) :
    run.marks = other.marks := by
  obtain ⟨c, here, isFirst⟩ := first.marks position inFirst.1 inFirst.2
  obtain ⟨d, there, isSecond⟩ := second.marks position inSecond.1 inSecond.2
  have same : c = d := Option.some.inj (here.symm.trans there)
  rw [← isFirst, same, isSecond]

/-- **No run goes on beyond one that begins at the same place**, as other marks follow there. -/
theorem GroupedFrom.stop_le (first : t.GroupedFrom place (run :: runs))
    (second : t.GroupedFrom place (other :: others)) : other.span.stop ≤ run.span.stop := by
  apply Nat.le_of_not_lt
  intro beyond
  have stretch := first.stretches run List.mem_cons_self
  have longer := second.stretches other List.mem_cons_self
  have proper : place < run.span.stop := first.start_eq ▸ stretch.proper
  have same : run.marks = other.marks :=
    marks_eq_of_shared stretch longer ⟨Nat.le_of_eq first.start_eq, proper⟩
      ⟨Nat.le_of_eq second.start_eq, Nat.lt_trans proper beyond⟩
  cases runs with
  | nil =>
      have ends : run.span.stop = t.length := first.endToEnd.2
      obtain ⟨c, here, _⟩ := longer.marks run.span.stop
        (Nat.le_of_eq second.start_eq |>.trans (Nat.le_of_lt proper)) beyond
      have inside : run.span.stop < t.length := (List.getElem?_eq_some_iff.1 here).1
      omega
  | cons next runs =>
      have begins : next.span.start = run.span.stop := first.tail.start_eq
      have follows := first.tail.stretches next List.mem_cons_self
      have different : run.marks ≠ next.marks := (List.isChain_cons_cons.1 first.apart).1
      have inLonger : other.span.start ≤ run.span.stop ∧ run.span.stop < other.span.stop := by
        rw [second.start_eq]
        exact ⟨Nat.le_of_lt proper, beyond⟩
      have inNext : next.span.start ≤ run.span.stop ∧ run.span.stop < next.span.stop :=
        ⟨Nat.le_of_eq begins, begins ▸ follows.proper⟩
      apply different
      rw [same]
      exact marks_eq_of_shared longer follows inLonger inNext

/-- Stretches of one span are the same. -/
theorem stretch_eq (first : run.StretchOf t) (second : other.StretchOf t)
    (span : run.span = other.span) : run = other := by
  have characters : run.characters = other.characters := by
    rw [first.characters, second.characters, span]
  have marks : run.marks = other.marks :=
    marks_eq_of_shared first second ⟨Nat.le_refl _, first.proper⟩
      (span ▸ ⟨Nat.le_refl _, first.proper⟩)
  cases run
  cases other
  cases span
  cases characters
  cases marks
  rfl

/-- **There is one grouping** of what stands from a place on. -/
theorem GroupedFrom.unique (first : t.GroupedFrom place runs)
    (second : t.GroupedFrom place others) : runs = others := by
  induction runs generalizing place others with
  | nil =>
      cases others with
      | nil => rfl
      | cons other others =>
          have ends : place = t.length := first.endToEnd
          have stretch := second.stretches other List.mem_cons_self
          obtain ⟨c, here, _⟩ := stretch.marks other.span.start (Nat.le_refl _) stretch.proper
          have inside : other.span.start < t.length := (List.getElem?_eq_some_iff.1 here).1
          have begins := second.start_eq
          omega
  | cons run runs ih =>
      cases others with
      | nil =>
          have ends : place = t.length := second.endToEnd
          have stretch := first.stretches run List.mem_cons_self
          obtain ⟨c, here, _⟩ := stretch.marks run.span.start (Nat.le_refl _) stretch.proper
          have inside : run.span.start < t.length := (List.getElem?_eq_some_iff.1 here).1
          have begins := first.start_eq
          omega
      | cons other others =>
          have start : run.span.start = other.span.start :=
            first.start_eq.trans second.start_eq.symm
          have stop : run.span.stop = other.span.stop :=
            Nat.le_antisymm (second.stop_le first) (first.stop_le second)
          have span : run.span = other.span := by
            cases hr : run.span
            cases ho : other.span
            rw [hr, ho] at start stop
            cases start
            cases stop
            rfl
          have same : run = other := stretch_eq (first.stretches run List.mem_cons_self)
            (second.stretches other List.mem_cons_self) span
          subst same
          rw [ih first.tail second.tail]

/-! ## Texts and token marks -/

/-- The texts of the runs one after the other are the text. -/
theorem text_runs (t : MarkedText) : String.join (t.runs.map Run.text) = t.text := by
  apply String.toList_inj.1
  rw [String.toList_join, List.flatMap_map, ← characters_runs]
  congr 1
  funext run
  exact run.toList_text

/-- The token mark of a run gives the class names of its characters. -/
theorem tokenClasses_of_stretch {position : Nat} (stretch : run.StretchOf t)
    (low : run.span.start ≤ position) (high : position < run.span.stop) :
    t.tokenClasses[position]? = some (run.tokenMark?.map Mark.className) := by
  obtain ⟨c, here, marks⟩ := stretch.marks position low high
  have listed : t.chars[position]? = some c := here
  rw [tokenClasses, List.getElem?_map, listed, Option.map_some, Run.tokenMark?, marks]

/-- **The runs are the only exact grouping of a marked text.** They lie end to end from the first
character to the last, are stretches of the text of which neighbours have different marks, have its
text one after the other, and tell the class names of all their characters. No other runs group the
text. -/
theorem runs_only_grouping (t : MarkedText) :
    t.GroupedFrom 0 t.runs ∧ String.join (t.runs.map Run.text) = t.text ∧
      (∀ run ∈ t.runs, ∀ position, run.span.start ≤ position → position < run.span.stop →
        t.tokenClasses[position]? = some (run.tokenMark?.map Mark.className)) ∧
      ∀ runs, t.GroupedFrom 0 runs → runs = t.runs := by
  have grouped : t.GroupedFrom 0 t.runs := by
    rw [runs_eq_runsFrom]
    exact groupedFrom_runsFrom List.drop_zero (Nat.zero_le _)
  refine ⟨grouped, t.text_runs, ?_, ?_⟩
  · intro run member position low high
    exact tokenClasses_of_stretch (grouped.stretches run member) low high
  · intro runs other
    exact other.unique grouped

end MarkedText

end Highlight
