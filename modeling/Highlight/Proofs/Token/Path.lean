import Highlight.Proofs.Token.Flattening

/-!
# The path to a position

A position of the text that some tokens cover lies in one leaf. The path to it is
the row of the categories and aliases of the tokens around that leaf, outermost
first; text outside any category has none. `Token.pathAll` finds it by going down
the tree, and counts every character.

The labels that flattening gives to the characters of the text are the ones of
their paths (`labels_segmentsAll`). A leaf laid out in a mode that leaves out line
breaks covers a position exactly if its label is the one of the character with
that many counted characters before it (`exists_leaf_iff`), and a place in the
text is found again among the counted characters by counting those before it
(`getElem?_filter_of_count`). So the label of the leaf over a counted character is the
one of the path to its place (`Walk.exists_leaf_iff_path`).
-/

namespace Highlight

set_option autoImplicit false

/-- The names of a token behind the names above it. -/
def namesBelow (outer : Option (List String)) (category : String) (secondName : Option String) :
    List String :=
  outer.getD [] ++ category :: secondName.toList

mutual

/-- The names above the leaf at a position of the text that a token covers. -/
def Token.path (outer : Option (List String)) : Token → Nat → Option (List String)
  | .literal _, _ => outer
  | .leaf category secondName _, _ => some (namesBelow outer category secondName)
  | .node category secondName children, position =>
      Token.pathAll (some (namesBelow outer category secondName)) children position

/-- The names above the leaf at a position of the text that a row of tokens
covers. -/
def Token.pathAll (outer : Option (List String)) : List Token → Nat → Option (List String)
  | [], _ => none
  | t :: rest, position =>
      if position < t.length then t.path outer position
      else Token.pathAll outer rest (position - t.length)

end

theorem Token.lengthAll_append (first second : List Token) :
    Token.lengthAll (first ++ second) = Token.lengthAll first + Token.lengthAll second := by
  induction first with
  | nil => exact (Nat.zero_add _).symm
  | cons t rest ih => rw [List.cons_append, Token.lengthAll, Token.lengthAll, ih, Nat.add_assoc]

/-- The path to a position goes through the row that covers it. -/
theorem Token.pathAll_append (outer : Option (List String)) (first second : List Token)
    (position : Nat) :
    Token.pathAll outer (first ++ second) position =
      if position < Token.lengthAll first then Token.pathAll outer first position
      else Token.pathAll outer second (position - Token.lengthAll first) := by
  induction first generalizing position with
  | nil => rfl
  | cons t rest ih =>
      rw [List.cons_append, Token.pathAll, Token.pathAll, Token.lengthAll, ih]
      by_cases here : position < t.length
      · rw [if_pos here, if_pos here, if_pos (Nat.lt_add_right _ here)]
      · rw [if_neg here, if_neg here, Nat.sub_sub]
        refine if_congr ?_ rfl rfl
        omega

/-- The label of some names, of which the empty ones do not count. -/
def Label.ofNames (names : List String) : Label := ⟨names.filter (· != "")⟩

/-- A label extended is the label of the names below. -/
theorem Label.extend_ofNames (outer : Option (List String)) (category : String)
    (secondName : Option String) :
    Label.extend (outer.map Label.ofNames) category secondName =
      Label.ofNames (namesBelow outer category secondName) := by
  cases outer with
  | none => rfl
  | some names =>
      simp only [Label.extend, Label.ofNames, namesBelow, Option.map_some, Option.getD_some,
        List.filter_append]

/-! ## Labelled characters -/

/-- The characters of a segment, each with the segment's label. -/
def Segment.characters (s : Segment) : List (Char × Option Label) :=
  s.text.toList.map fun c => (c, s.label)

/-- The characters of some segments, each with its label. -/
def labelled (segments : List Segment) : List (Char × Option Label) :=
  segments.flatMap Segment.characters

theorem labelled_append (first second : List Segment) :
    labelled (first ++ second) = labelled first ++ labelled second :=
  List.flatMap_append

theorem map_fst_characters (s : Segment) : s.characters.map (·.1) = s.text.toList := by
  simp only [Segment.characters, List.map_map]
  exact List.map_id _

mutual

/-- Flattening a token keeps its characters. -/
theorem Token.characters_segments (path : Option Label) :
    ∀ t : Token, (labelled (t.segments path)).map (·.1) = t.text.toList
  | .literal text => by
      simp only [Token.segments, labelled, List.flatMap_cons, List.flatMap_nil, List.append_nil]
      exact map_fst_characters _
  | .leaf category secondName text => by
      simp only [Token.segments, labelled, List.flatMap_cons, List.flatMap_nil, List.append_nil]
      exact map_fst_characters _
  | .node _ _ children => Token.characters_segmentsAll _ children

/-- Flattening a row of tokens keeps its characters. -/
theorem Token.characters_segmentsAll (path : Option Label) :
    ∀ ts : List Token,
      (labelled (Token.segmentsAll path ts)).map (·.1) = (Token.textAll ts).toList
  | [] => rfl
  | t :: rest => by
      rw [Token.segmentsAll, labelled_append, List.map_append, Token.characters_segments path t,
        Token.characters_segmentsAll path rest, Token.textAll, String.toList_append]

end

theorem length_labelled_segments (path : Option Label) (t : Token) :
    (labelled (t.segments path)).length = t.length := by
  rw [← List.length_map (f := (·.1)), Token.characters_segments, String.length_toList,
    Token.length_text]

/-- The characters of a segment all have its label. -/
theorem label_characters {s : Segment} {position : Nat} (inside : position < s.text.length) :
    (s.characters[position]?).map (·.2) = some s.label := by
  have present : position < s.text.toList.length := by rwa [String.length_toList]
  simp only [Segment.characters, List.getElem?_map, List.getElem?_eq_getElem present,
    Option.map_some]

mutual

/-- The labels of a token's characters are those of their paths. -/
theorem Token.labels_segments (outer : Option (List String)) :
    ∀ (t : Token) (position : Nat), position < t.length →
      ((labelled (t.segments (outer.map Label.ofNames)))[position]?).map (·.2) =
        some ((t.path outer position).map Label.ofNames)
  | .literal text, position, inside => by
      simp only [Token.segments, labelled, List.flatMap_cons, List.flatMap_nil, List.append_nil]
      exact label_characters inside
  | .leaf category secondName text, position, inside => by
      simp only [Token.segments, labelled, List.flatMap_cons, List.flatMap_nil, List.append_nil,
        Label.extend_ofNames]
      exact label_characters inside
  | .node category secondName children, position, inside => by
      simp only [Token.segments, Label.extend_ofNames]
      exact Token.labels_segmentsAll (some (namesBelow outer category secondName)) children
        position inside

/-- The labels of the characters of a row of tokens are those of their
paths. -/
theorem Token.labels_segmentsAll (outer : Option (List String)) :
    ∀ (ts : List Token) (position : Nat), position < Token.lengthAll ts →
      ((labelled (Token.segmentsAll (outer.map Label.ofNames) ts))[position]?).map (·.2) =
        some ((Token.pathAll outer ts position).map Label.ofNames)
  | [], _, inside => absurd inside (Nat.not_lt_zero _)
  | t :: rest, position, inside => by
      have length := length_labelled_segments (outer.map Label.ofNames) t
      simp only [Token.segmentsAll, labelled_append, Token.pathAll]
      split
      · next here =>
        rw [List.getElem?_append_left (by omega)]
        exact Token.labels_segments outer t position here
      · next later =>
        rw [Token.lengthAll] at inside
        rw [List.getElem?_append_right (by omega), length]
        exact Token.labels_segmentsAll outer rest (position - t.length) (by omega)

end

/-! ## Counted characters -/

/-- What a mode counts of some labelled characters. -/
def Mode.counted (mode : Mode) (characters : List (Char × Option Label)) :
    List (Char × Option Label) :=
  characters.filter fun c => mode.counts c.1

theorem Mode.counted_characters (mode : Mode) (s : Segment) :
    mode.counted s.characters = (s.text.toList.filter mode.counts).map fun c => (c, s.label) := by
  simp only [Mode.counted, Segment.characters, List.filter_map]
  rfl

theorem Mode.counted_labelled_cons (mode : Mode) (s : Segment) (rest : List Segment) :
    mode.counted (labelled (s :: rest)) =
      mode.counted s.characters ++ mode.counted (labelled rest) := by
  simp only [Mode.counted, labelled, List.flatMap_cons, List.filter_append]

theorem Mode.length_counted_characters (mode : Mode) (s : Segment) :
    (mode.counted s.characters).length = mode.measure s.text := by
  rw [Mode.counted_characters, List.length_map, Mode.measure_eq]

theorem Mode.label_counted_characters (mode : Mode) (s : Segment) (position : Nat)
    (inside : position < mode.measure s.text) :
    ((mode.counted s.characters)[position]?).map (·.2) = some s.label := by
  have present : position < (s.text.toList.filter mode.counts).length :=
    mode.measure_eq s.text ▸ inside
  rw [Mode.counted_characters]
  simp only [List.getElem?_map, List.getElem?_eq_getElem present, Option.map_some]

/-- Whether a leaf has a label and covers a position. -/
def Leaf.Covers (leaf : Leaf) (position : Nat) (label : Option Label) : Prop :=
  leaf.label = label ∧ leaf.span.start ≤ position ∧ position < leaf.span.stop

/-- **The leaf at a position.** Among leaves laid out from a position on, one with
a given label covers a position exactly if the counted character that comes there
has that label. -/
theorem exists_leaf_iff (mode : Mode) (segments : List Segment) (start position : Nat)
    (label : Option Label) :
    (∃ leaf ∈ layOut mode start segments, leaf.Covers position label) ↔
      start ≤ position ∧
        ((mode.counted (labelled segments))[position - start]?).map (·.2) = some label := by
  induction segments generalizing start with
  | nil => simp [layOut, labelled, Mode.counted]
  | cons s rest ih =>
      have length := mode.length_counted_characters s
      rw [mode.counted_labelled_cons]
      simp only [layOut, List.mem_cons, exists_eq_or_imp, ih]
      by_cases before : position < start
      · have none : ¬ start ≤ position := by omega
        have later : ¬ start + mode.measure s.text ≤ position := by omega
        simp only [Leaf.Covers, Walk.leafAt, none, later, false_and, and_false, or_self]
      · by_cases here : position < start + mode.measure s.text
        · have first := mode.label_counted_characters s (position - start) (by omega)
          rw [List.getElem?_append_left (by omega), first]
          have later : ¬ start + mode.measure s.text ≤ position := by omega
          have le : start ≤ position := by omega
          simp only [Leaf.Covers, Walk.leafAt, later, false_and, or_false, le, here, and_true,
            true_and, Option.some.injEq]
        · rw [List.getElem?_append_right (by omega), length, Nat.sub_sub]
          have le : start ≤ position := by omega
          have later : start + mode.measure s.text ≤ position := by omega
          simp only [Leaf.Covers, Walk.leafAt, here, and_false, false_or, le, later]

/-- What passes a test is found again by counting what passes before it. -/
theorem getElem?_filter_of_count {α : Type} {keeps : α → Bool} {as : List α} {a : α} {place : Nat}
    (at' : as[place]? = some a) (kept : keeps a = true) :
    (as.filter keeps)[(as.take place).countP keeps]? = some a := by
  obtain ⟨inside, rfl⟩ := List.getElem?_eq_some_iff.1 at'
  have split : as.filter keeps =
      (as.take place).filter keeps ++ as[place] :: (as.drop (place + 1)).filter keeps := by
    rw [← List.filter_cons_of_pos kept, ← List.filter_append, List.getElem_cons_drop,
      List.take_append_drop]
  rw [split, List.countP_eq_length_filter, List.getElem?_append_right (Nat.le_refl _), Nat.sub_self,
    List.getElem?_cons_zero]

/-- **The leaf at a place of the text.** A labelled leaf of a walk covers the
position of a character, which is the number of counted characters before it,
exactly if its label is the one of the path to that character. -/
theorem Walk.exists_leaf_iff_path (tokens : List Token) (mode : Mode) {place : Nat} {c : Char}
    (at' : (Token.textAll tokens).toList[place]? = some c) (counts : mode.counts c = true)
    (label : Label) :
    (∃ leaf ∈ (Walk.start tokens mode).leaves,
        leaf.Covers (((Token.textAll tokens).toList.take place).countP mode.counts) (some label)) ↔
      ∃ names, Token.pathAll none tokens place = some names ∧ label = Label.ofNames names := by
  have characters := Token.characters_segmentsAll none tokens
  have inside : place < Token.lengthAll tokens := by
    rw [← Token.length_textAll, ← String.length_toList]
    exact (List.getElem?_eq_some_iff.1 at').1
  obtain ⟨⟨c', path⟩, here, isPath⟩ :=
    Option.map_eq_some_iff.1 (Token.labels_segmentsAll none tokens place inside)
  rw [Option.map_none] at here
  rw [← characters, List.getElem?_map, here] at at'
  cases at'
  have again : (mode.counted (labelled (Token.segmentsAll none tokens)))[
      ((Token.textAll tokens).toList.take place).countP mode.counts]? = some (c', path) := by
    rw [← characters, ← List.map_take, List.countP_map]
    exact getElem?_filter_of_count here counts
  rw [Walk.leaves_start, exists_leaf_iff, Nat.sub_zero, again, Option.map_some, isPath]
  cases Token.pathAll none tokens place with
  | none => simp
  | some names => simp [eq_comm]

end Highlight
