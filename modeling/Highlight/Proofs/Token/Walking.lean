import Highlight.Proofs.Token.Path
import Mathlib.Data.List.Induction

/-!
# A walk, leaf by leaf

Flattening by recursion can also keep, with every stretch of text, what the tokens around
it are called, outermost first (`Token.stretches`). The label of a stretch is then the
row of these names, without the empty ones and with a space between two of them
(`pathText`, `Label.text_along`).

A step of a walk takes the first leaf that is left and goes to its end (`Walk.exists_next`),
and any number of steps leads behind as many leaves (`Walk.exists_after?`). So a walk takes
the leaves of the stretches one by one (`Walk.exists_step`), and when as many leaves as there
are stretches have been taken there is no other (`Walk.exists_end`): it is a refinement of the
recursion (`Walk.flattens`). A label can only be extended on the way down, and its text with
it (`Label.text_prefix_along`).
-/

namespace Highlight

set_option autoImplicit false

/-! ## Names around a text -/

/-- A stretch of text in a token tree, and the categories and aliases of the tokens around
it, outermost first. -/
structure Stretch where
  text : String
  around : List (String × Option String)
deriving DecidableEq

mutual

/-- The stretches of a token inside some others, from left to right. -/
def Token.stretches (around : List (String × Option String)) : Token → List Stretch
  | .literal text => [⟨text, around⟩]
  | .leaf category secondName text => [⟨text, around ++ [(category, secondName)]⟩]
  | .node category secondName children =>
      Token.stretchesAll (around ++ [(category, secondName)]) children

/-- The stretches of a row of tokens inside some others. -/
def Token.stretchesAll (around : List (String × Option String)) : List Token → List Stretch
  | [] => []
  | t :: rest => t.stretches around ++ Token.stretchesAll around rest

end

/-- The names in effect of some tokens, each inside the one before, with spaces between
them. Outside all tokens there is no such text. -/
def pathText (around : List (String × Option String)) : Option String :=
  if around = [] then none
  else some (String.intercalate " "
    ((around.flatMap fun token => token.1 :: token.2.toList).filter (· ≠ "")))

namespace Label

/-- The label inside some tokens, of which each is inside the one before. -/
def along (around : List (String × Option String)) : Option Label :=
  around.foldl (fun parent token => some (.extend parent token.1 token.2)) none

theorem along_concat (around : List (String × Option String)) (category : String)
    (secondName : Option String) :
    along (around ++ [(category, secondName)]) =
      some (.extend (along around) category secondName) := by
  rw [along, List.foldl_append]
  rfl

/-- Inside some tokens the label has their names, without the empty ones. -/
theorem along_eq (around : List (String × Option String)) :
    along around = if around = [] then none
      else some ⟨(around.flatMap fun token => token.1 :: token.2.toList).filter (· != "")⟩ := by
  induction around using List.reverseRecOn with
  | nil => rfl
  | append_singleton outer token ih =>
      obtain ⟨category, secondName⟩ := token
      have nonempty : outer ++ [(category, secondName)] ≠ [] := List.append_ne_nil_of_right_ne_nil _
        (List.cons_ne_nil _ _)
      rw [along_concat, ih, if_neg nonempty, List.flatMap_append, List.flatMap_singleton,
        List.filter_append]
      by_cases outermost : outer = []
      · subst outermost
        rfl
      · rw [if_neg outermost]
        rfl

/-- **The text of a label** is made of the names around. -/
theorem text_along (around : List (String × Option String)) :
    (along around).map text = pathText around := by
  rw [along_eq, pathText]
  split
  · rfl
  · simp only [Option.map_some, text, ne_eq, decide_not, bne, beq_eq_decide]

/-- More names behind some others leave the beginning of their text as it is. -/
theorem intercalate_prefix_append (first second : List String) :
    (String.intercalate " " first).toList <+:
      (String.intercalate " " (first ++ second)).toList := by
  by_cases noFirst : first = []
  · subst noFirst
    exact List.nil_prefix
  by_cases noSecond : second = []
  · subst noSecond
    simp only [List.append_nil, List.prefix_rfl]
  · rw [String.intercalate_append_of_ne_nil noFirst noSecond, String.append_assoc,
      String.toList_append]
    exact List.prefix_append _ _

/-- **On the way down a label is only extended**: the text of a token's label begins the
text of the label of every token inside it. -/
theorem text_prefix_along {outer : List (String × Option String)} {label : Label}
    (isLabel : along outer = some label) (inner : List (String × Option String)) :
    ∃ below, along (outer ++ inner) = some below ∧ label.text.toList <+: below.text.toList := by
  rw [along_eq] at isLabel
  split at isLabel
  · cases isLabel
  · next inside =>
    cases isLabel
    refine ⟨_, (along_eq _).trans (if_neg (List.append_ne_nil_of_left_ne_nil inside inner)), ?_⟩
    rw [List.flatMap_append, List.filter_append]
    exact intercalate_prefix_append _ _

end Label

/-! ## Stretches and segments -/

/-- A stretch with the label that the tokens around it give. -/
def Stretch.segment (s : Stretch) : Segment := ⟨s.text, Label.along s.around⟩

mutual

/-- Flattening with labels is flattening with names. -/
theorem Token.segments_along (around : List (String × Option String)) :
    ∀ t : Token, t.segments (Label.along around) = (t.stretches around).map Stretch.segment
  | .literal _ => rfl
  | .leaf category secondName _ => by
      rw [Token.segments, ← Label.along_concat]
      rfl
  | .node category secondName children => by
      rw [Token.segments, ← Label.along_concat, Token.stretches]
      exact Token.segmentsAll_along _ children

theorem Token.segmentsAll_along (around : List (String × Option String)) :
    ∀ ts : List Token,
      Token.segmentsAll (Label.along around) ts = (Token.stretchesAll around ts).map Stretch.segment
  | [] => rfl
  | t :: rest => by
      rw [Token.segmentsAll, Token.stretchesAll, List.map_append, Token.segments_along around t,
        Token.segmentsAll_along around rest]

end

/-! ## Leaf by leaf -/

/-- The leaf at an index begins behind all segments before. -/
theorem getElem?_layOut (mode : Mode) (position : Nat) (segments : List Segment) (index : Nat) :
    (layOut mode position segments)[index]? = (segments[index]?).map fun s =>
      Walk.leafAt mode (position + measureAll mode (segments.take index)) s.text s.label := by
  induction segments generalizing position index with
  | nil => rfl
  | cons s rest ih =>
      cases index with
      | zero => rfl
      | succ index =>
          rw [layOut, List.getElem?_cons_succ, ih, List.getElem?_cons_succ, List.take_succ_cons,
            Nat.add_assoc]
          rfl

theorem length_layOut (mode : Mode) (position : Nat) (segments : List Segment) :
    (layOut mode position segments).length = segments.length := by
  induction segments generalizing position with
  | nil => rfl
  | cons s rest ih => rw [layOut, List.length_cons, ih, List.length_cons]

namespace Walk

/-- The walk behind a number of leaves, unless it has fewer. -/
def after? (w : Walk) : Nat → Option Walk
  | 0 => some w
  | count + 1 => (w.after? count).bind fun v => v.next.map (·.2)

/-- Without segments there is no next leaf. -/
theorem next_eq_none {w : Walk} (nothing : segmentsIn w.frames = []) : w.next = none := by
  have first := nextIn_eq w.mode w.position w.frames
  rw [nothing] at first
  rw [next, Option.map_eq_none_iff.1 first]

/-- **One step of a walk** takes the leaf of the first segment, and goes to its end. -/
theorem exists_next {w : Walk} {s : Segment} {rest : List Segment}
    (isCons : segmentsIn w.frames = s :: rest) :
    ∃ v, w.next = some (leafAt w.mode w.position s.text s.label, v) ∧ v.mode = w.mode ∧
      v.position = w.position + w.mode.measure s.text ∧ segmentsIn v.frames = rest := by
  have first := nextIn_eq w.mode w.position w.frames
  rw [isCons] at first
  obtain ⟨⟨leaf, frames⟩, found, same⟩ := Option.map_eq_some_iff.1 first
  obtain ⟨rfl, isRest⟩ := Prod.mk.inj same
  refine ⟨⟨w.mode, w.position + w.mode.measure s.text, frames⟩, ?_, rfl, rfl, isRest⟩
  rw [next, found]
  rfl

/-- **Any number of steps**, up to the number of segments, leads behind as many
segments. -/
theorem exists_after? (w : Walk) {count : Nat} (enough : count ≤ (segmentsIn w.frames).length) :
    ∃ v, w.after? count = some v ∧ v.mode = w.mode ∧
      v.position = w.position + measureAll w.mode ((segmentsIn w.frames).take count) ∧
      segmentsIn v.frames = (segmentsIn w.frames).drop count := by
  induction count with
  | zero => exact ⟨w, rfl, rfl, rfl, rfl⟩
  | succ count ih =>
      obtain ⟨v, isAfter, sameMode, position, left⟩ := ih (Nat.le_of_succ_le enough)
      rw [List.drop_eq_getElem_cons enough] at left
      obtain ⟨u, isNext, mode, further, others⟩ := exists_next left
      refine ⟨u, ?_, mode.trans sameMode, ?_, others⟩
      · rw [after?, isAfter, Option.bind_some, isNext, Option.map_some]
      · rw [further, position, sameMode, Nat.add_assoc, List.take_succ_eq_append_getElem enough,
          measureAll_append]
        rfl

section Start

variable (tokens : List Token) (mode : Mode)

/-- A walk over tokens has their stretches before it. -/
theorem segmentsIn_start :
    segmentsIn (start tokens mode).frames =
      (Token.stretchesAll [] tokens).map Stretch.segment := by
  rw [← Token.segmentsAll_along [] tokens]
  exact List.append_nil _

theorem length_segmentsIn_start :
    (segmentsIn (start tokens mode).frames).length = (Token.stretchesAll [] tokens).length := by
  rw [segmentsIn_start, List.length_map]

theorem leaves_start_stretches :
    (start tokens mode).leaves =
      layOut mode 0 ((Token.stretchesAll [] tokens).map Stretch.segment) := by
  rw [leaves_start, ← Token.segmentsAll_along [] tokens]
  rfl

/-- **The step over a stretch**, behind as many steps as there are stretches before it, takes
the leaf of the stretch. -/
theorem exists_step {index : Nat} {s : Stretch}
    (found : (Token.stretchesAll [] tokens)[index]? = some s) :
    ∃ before after,
      let leaf := leafAt mode before.position s.text (Label.along s.around)
      (start tokens mode).after? index = some before ∧ before.next = some (leaf, after) ∧
        (start tokens mode).after? (index + 1) = some after ∧
        after.position = leaf.span.stop ∧ (start tokens mode).leaves[index]? = some leaf := by
  obtain ⟨inside, isS⟩ := List.getElem?_eq_some_iff.1 found
  have enough : index ≤ (segmentsIn (start tokens mode).frames).length :=
    length_segmentsIn_start tokens mode ▸ Nat.le_of_lt inside
  obtain ⟨before, isBefore, sameMode, position, left⟩ := exists_after? _ enough
  have isCons : segmentsIn before.frames =
      s.segment :: ((Token.stretchesAll [] tokens).map Stretch.segment).drop (index + 1) := by
    rw [left, segmentsIn_start, List.drop_eq_getElem_cons (by rwa [List.length_map]),
      List.getElem_map, isS]
  obtain ⟨after, isNext, _, further, _⟩ := exists_next isCons
  rw [sameMode] at isNext further
  refine ⟨before, after, isBefore, isNext, ?_, further, ?_⟩
  · rw [after?, isBefore, Option.bind_some, isNext, Option.map_some]
  · rw [leaves_start_stretches, getElem?_layOut, List.getElem?_map, found, position,
      segmentsIn_start]
    rfl

/-- **Behind the stretches of all tokens** the walk ends. -/
theorem exists_end :
    ∃ last, (start tokens mode).after? (Token.stretchesAll [] tokens).length = some last ∧
      last.next = none ∧ last.position = mode.measure (Token.textAll tokens) := by
  obtain ⟨last, isLast, sameMode, position, left⟩ :=
    (start tokens mode).exists_after? (Nat.le_of_eq rfl)
  rw [List.drop_length] at left
  rw [length_segmentsIn_start] at isLast
  have covered : measureAll mode (segmentsIn (start tokens mode).frames) =
      mode.measure (Token.textAll tokens) := by
    rw [segmentsIn_start, ← Token.segmentsAll_along [] tokens, Token.measureAll_segmentsAll]
  refine ⟨last, isLast, next_eq_none left, ?_⟩
  rw [position, List.take_length, ← covered]
  exact Nat.zero_add _

end Start

/-- **A walk refines flattening by recursion.** It takes the leaves of the stretches of the
tokens in order and then ends. It begins at position zero; each leaf begins where the walk
stands, which is at the end of the leaf before, and reaches as far as its text counts. Its
label is the text of the names around, or none outside all tokens. Behind each leaf the walk
stands at its end, and when it ends, behind the text of all tokens. The text of a label
begins those of all labels below. -/
theorem flattens (tokens : List Token) (mode : Mode) :
    let stretches := Token.stretchesAll [] tokens
    let walk := start tokens mode
    walk.position = 0 ∧
    (∀ (index : Nat) (s : Stretch), stretches[index]? = some s → ∃ before leaf after,
      walk.after? index = some before ∧ before.next = some (leaf, after) ∧
      walk.after? (index + 1) = some after ∧ walk.leaves[index]? = some leaf ∧
      leaf.span.start = before.position ∧
      leaf.span.stop = leaf.span.start + mode.measure s.text ∧
      after.position = leaf.span.stop ∧
      consumedBy (walk.leaves.take (index + 1)) = leaf.span.stop ∧
      leaf.label = Label.along s.around ∧ leaf.label.map Label.text = pathText s.around) ∧
    (∃ last, walk.after? stretches.length = some last ∧ last.next = none ∧
      walk.leaves.length = stretches.length ∧
      last.position = mode.measure (Token.textAll tokens) ∧
      consumedBy walk.leaves = mode.measure (Token.textAll tokens)) ∧
    ∀ (outer inner : List (String × Option String)) (label : Label),
      Label.along outer = some label → ∃ below, Label.along (outer ++ inner) = some below ∧
        label.text.toList <+: below.text.toList := by
  intro stretches walk
  refine ⟨rfl, ?_, ?_, fun outer inner label isLabel => Label.text_prefix_along isLabel inner⟩
  · intro index s found
    obtain ⟨before, after, isBefore, isNext, isAfter, further, isLeaf⟩ :=
      exists_step tokens mode found
    refine ⟨before, _, after, isBefore, isNext, isAfter, isLeaf, rfl, rfl, further, ?_, rfl,
      Label.text_along s.around⟩
    rw [List.take_add_one, isLeaf, consumedBy, Option.toList_some, List.getLast?_concat]
  · obtain ⟨last, isLast, ends, position⟩ := exists_end tokens mode
    refine ⟨last, isLast, ends, ?_, position, consumedBy_leaves tokens mode⟩
    rw [leaves_start_stretches, length_layOut, List.length_map]

end Walk

end Highlight
