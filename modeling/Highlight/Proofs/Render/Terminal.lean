import Highlight.Proofs.Mark.Grouping
import Highlight.Proofs.Text.JoinedLines
import Highlight.Render.Terminal

/-!
# Terminal output without its styles

A control sequence begins with the escape sign and an opening bracket and ends with the
next letter m. What is left of an output when all control sequences are dropped
(`visible`) is what a reader sees.

A style puts control sequences around a text and leaves the text as it is
(`Style.visible_apply`). So whatever the theme is, marked text without escape signs is
seen as it is (`Renderer.visible_terminal`), and so are lines of it
(`visible_closedLines_terminal`). All of this holds with any output behind it, as a
control sequence is complete before it.
-/

namespace Highlight

set_option autoImplicit false

/-- What is left of an output without control sequences, read from inside of a sequence or
from outside. -/
def visibleFrom : Bool → List Char → List Char
  | _, [] => []
  | true, c :: rest => visibleFrom (c != 'm') rest
  | false, c :: rest =>
      if c = escapeSign ∧ rest.head? = some '[' then visibleFrom true rest
      else c :: visibleFrom false rest

/-- What is left of an output without control sequences. -/
def visible (output : List Char) : List Char := visibleFrom false output

/-! ## Texts and control sequences -/

theorem visible_cons {c : Char} (notEscape : c ≠ escapeSign) (rest : List Char) :
    visible (c :: rest) = c :: visible rest := by
  rw [visible, visibleFrom, if_neg fun both => notEscape both.1, visible]

/-- Text without escape signs is left as it is. -/
theorem visible_append {text : List Char} (noEscape : escapeSign ∉ text) (rest : List Char) :
    visible (text ++ rest) = text ++ visible rest := by
  induction text with
  | nil => rfl
  | cons c more ih =>
      have notEscape : c ≠ escapeSign := fun same => noEscape (same ▸ List.mem_cons_self)
      rw [List.cons_append, visible_cons notEscape,
        ih fun member => noEscape (List.mem_cons_of_mem _ member), List.cons_append]

/-- A sequence that has begun ends with the next m. -/
theorem visibleFrom_true_append {parameters : List Char} (unended : 'm' ∉ parameters)
    (rest : List Char) : visibleFrom true (parameters ++ 'm' :: rest) = visible rest := by
  induction parameters with
  | nil => rfl
  | cons c more ih =>
      have other : (c != 'm') = true :=
        bne_iff_ne.2 fun same => unended (same ▸ List.mem_cons_self)
      rw [List.cons_append, visibleFrom, other]
      exact ih fun member => unended (List.mem_cons_of_mem _ member)

namespace Style

/-- A control sequence whose parameters do not end it. -/
def IsControl (sequence : String) : Prop :=
  ∃ parameters, sequence = control parameters ∧ 'm' ∉ parameters.toList

/-- A control sequence is dropped. -/
theorem IsControl.visible_append {sequence : String} (isControl : IsControl sequence)
    (rest : List Char) : visible (sequence.toList ++ rest) = visible rest := by
  obtain ⟨parameters, rfl, unended⟩ := isControl
  have written : (control parameters).toList ++ rest =
      escapeSign :: '[' :: (parameters.toList ++ 'm' :: rest) := by
    have ending : "m".toList = ['m'] := rfl
    have opening : (escapeSign.toString ++ "[").toList = [escapeSign, '['] := rfl
    rw [control, String.toList_append, String.toList_append, opening, ending]
    simp only [List.append_assoc, List.cons_append, List.nil_append]
  rw [written, visible, visibleFrom, if_pos ⟨rfl, rfl⟩, visibleFrom]
  exact visibleFrom_true_append unended rest

theorem visible_join_append {sequences : List String}
    (controls : ∀ sequence ∈ sequences, IsControl sequence) (rest : List Char) :
    visible ((String.join sequences).toList ++ rest) = visible rest := by
  induction sequences with
  | nil => rfl
  | cons first more ih =>
      obtain ⟨isControl, others⟩ := List.forall_mem_cons.1 controls
      rw [String.join_cons, String.toList_append, List.append_assoc, isControl.visible_append,
        ih others]

theorem isControl_attributes (s : Style) : ∀ sequence ∈ s.attributes, IsControl sequence := by
  have known : ∀ parameters ∈ ["1", "3", "4"], 'm' ∉ parameters.toList := by decide
  intro sequence member
  simp only [attributes, List.mem_append] at member
  rcases member with (member | member) | member <;> split at member <;>
    simp only [List.mem_singleton, List.not_mem_nil] at member
  · exact ⟨"1", member, known _ (by decide)⟩
  · exact ⟨"3", member, known _ (by decide)⟩
  · exact ⟨"4", member, known _ (by decide)⟩

theorem isControl_opening (s : Style) : ∀ sequence ∈ s.opening, IsControl sequence := by
  have unended (color : Color) (index : Nat) (isIndex : color.index? = some index) :
      'm' ∉ ("38;5;" ++ toString index).toList := by
    cases color <;> cases isIndex <;> decide
  intro sequence member
  simp only [opening, List.mem_append] at member
  rcases member with member | member
  · split at member
    · next index isIndex =>
      exact ⟨_, List.mem_singleton.1 member, unended _ _ isIndex⟩
    · exact absurd member List.not_mem_nil
  · exact s.isControl_attributes sequence member

theorem isControl_closing (s : Style) : ∀ sequence ∈ s.closing, IsControl sequence := by
  intro sequence member
  simp only [closing] at member
  split at member
  · exact ⟨"0", List.mem_singleton.1 member, by decide⟩
  · split at member
    · exact ⟨"39", List.mem_singleton.1 member, by decide⟩
    · exact absurd member List.not_mem_nil

/-- **A style leaves the text as it is** and puts control sequences around it. -/
theorem visible_apply (s : Style) {text : String} (noEscape : escapeSign ∉ text.toList)
    (rest : List Char) :
    visible ((s.apply text).toList ++ rest) = text.toList ++ visible rest := by
  rw [apply, String.toList_append, String.toList_append, List.append_assoc, List.append_assoc,
    visible_join_append s.isControl_opening, visible_append noEscape,
    visible_join_append s.isControl_closing]

end Style

/-! ## Marked text -/

namespace Renderer

variable (theme : Theme)

theorem visible_run {run : Run} (noEscape : escapeSign ∉ run.characters) (rest : List Char) :
    visible (((terminal theme).run run).toList ++ rest) = run.characters ++ visible rest := by
  have clean : escapeSign ∉ run.text.toList := run.toList_text ▸ noEscape
  have same : visible (run.text.toList ++ rest) = run.characters ++ visible rest := by
    rw [visible_append clean, run.toList_text]
  simp only [Renderer.run, terminal]
  split
  · split
    · next style _ => rw [style.visible_apply clean, run.toList_text]
    · exact same
  · exact same

theorem visible_runs {runs : List Run} (noEscape : escapeSign ∉ runs.flatMap Run.characters)
    (rest : List Char) :
    visible (((terminal theme).runs runs).toList ++ rest) =
      runs.flatMap Run.characters ++ visible rest := by
  induction runs with
  | nil => rfl
  | cons run more ih =>
      rw [List.flatMap_cons, List.mem_append, not_or] at noEscape
      rw [Renderer.runs, String.toList_append, List.append_assoc, visible_run theme noEscape.1,
        ih noEscape.2, List.flatMap_cons, List.append_assoc]

/-- **A terminal shows the text**, whatever the theme and the marks are. -/
theorem visible_terminal {t : MarkedText} (noEscape : escapeSign ∉ t.text.toList)
    (rest : List Char) :
    visible (((terminal theme).text t).toList ++ rest) = t.text.toList ++ visible rest := by
  rw [← t.characters_runs] at noEscape ⊢
  exact visible_runs theme noEscape rest

/-- A terminal shows lines of text one below the other. -/
theorem visible_closedLines_terminal {texts : List MarkedText}
    (noEscape : escapeSign ∉ closedLines (texts.map MarkedText.text)) :
    visible (closedLines (texts.map (terminal theme).text)) =
      closedLines (texts.map MarkedText.text) := by
  induction texts with
  | nil => rfl
  | cons t rest ih =>
      simp only [List.map_cons, closedLines_cons, List.mem_append, List.mem_cons, not_or]
        at noEscape ⊢
      rw [visible_terminal theme noEscape.1, visible_cons (by decide), ih noEscape.2.2]

end Renderer

end Highlight
