import Highlight.Proofs.Decoration.Session

/-!
# What a session does with its decorator

A decorator is used in two ways: a fragment of a block is decorated, or the cache is
switched on or off. Whatever else a session does with it comes to a row of such uses.
The decoration of a block is that of its fragments, one after the other up to the
first fault, and that of a document is that of its eligible blocks.

A history lists uses, the latest first. `Session.history` is the one that the actions
of a session come to, and a session's decorator is the one that this history leads to
(`Session.decorator_after`).
-/

namespace Highlight

set_option autoImplicit false

/-- One use of a decorator. -/
inductive Use where
  | decorate (fragment : Fragment) (block : Block)
  | setCached (cached : Bool)

namespace Decorator

/-- The decorator after a use. -/
def afterUse (d : Decorator) : Use → Decorator
  | .decorate fragment block => (d.decorate fragment block).2
  | .setCached cached => d.setCached cached

/-- The decorator after the uses of a history. -/
def afterUses (d : Decorator) (history : List Use) : Decorator :=
  history.foldr (fun u d => d.afterUse u) d

theorem afterUses_append (d : Decorator) (later earlier : List Use) :
    d.afterUses (later ++ earlier) = (d.afterUses earlier).afterUses later :=
  List.foldr_append

/-- What the decoration of some fragments of a block comes to. -/
def fragmentUses (d : Decorator) (block : Block) : List Fragment → List Use
  | [] => []
  | fragment :: rest =>
      (match d.decorate fragment block with
        | (.error _, _) => []
        | (.ok _, d) => d.fragmentUses block rest) ++ [.decorate fragment block]

/-- What the decoration of the eligible ones of some blocks comes to. -/
def blockUses (d : Decorator) : List Block → List Use
  | [] => []
  | block :: rest =>
      if d.options.eligible block then
        (match d.decorateBlock block with
          | (.error _, _) => []
          | (.ok _, d) => d.blockUses rest) ++ d.fragmentUses block block.fragments
      else d.blockUses rest

/-- What an answer to a demand comes to. -/
def demandUses (d : Decorator) : Demand → List Use
  | .fragment fragment block => [.decorate fragment block]
  | .block block => d.fragmentUses block block.fragments
  | .document document => d.blockUses document.blocks

theorem decorateFragments_eq (d : Decorator) (b : Block) (fragments : List Fragment) :
    (d.decorateFragments b fragments).2 = d.afterUses (d.fragmentUses b fragments) := by
  induction fragments generalizing d with
  | nil => rfl
  | cons f rest ih =>
      rw [fragmentUses, afterUses_append]
      show _ = (d.decorate f b).2.afterUses _
      simp only [decorateFragments]
      generalize d.decorate f b = decorated
      obtain ⟨_ | text, after⟩ := decorated
      · rfl
      · simp only
        rw [← ih after]
        generalize after.decorateFragments b rest = others
        obtain ⟨_ | texts, _⟩ := others <;> rfl

theorem decorateBlocks_eq (d : Decorator) (blocks : List Block) :
    (d.decorateBlocks blocks).2 = d.afterUses (d.blockUses blocks) := by
  induction blocks generalizing d with
  | nil => rfl
  | cons b rest ih =>
      simp only [decorateBlocks, blockUses]
      split
      · have first : (d.decorateBlock b).2 = d.afterUses (d.fragmentUses b b.fragments) :=
          d.decorateFragments_eq b b.fragments
        rw [afterUses_append, ← first]
        generalize d.decorateBlock b = decorated
        obtain ⟨_ | texts, after⟩ := decorated
        · rfl
        · simp only
          rw [← ih after]
          generalize after.decorateBlocks rest = others
          obtain ⟨_ | more, _⟩ := others <;> rfl
      · exact ih d

/-- An answer leads where its uses lead. -/
theorem answer_eq (d : Decorator) (demand : Demand) :
    (d.answer demand).2 = d.afterUses (d.demandUses demand) := by
  cases demand with
  | fragment f b => rfl
  | block b => exact d.decorateFragments_eq b b.fragments
  | document document => exact d.decorateBlocks_eq document.blocks

end Decorator

namespace Session

/-- What an action comes to for the decorator. -/
def actionUses (s : Session) (a : Action) : List Use :=
  match a.demand? s.pool with
  | some demand => s.decorator.demandUses demand
  | none =>
      match a with
      | .setCached cached => [.setCached cached]
      | _ => []

/-- What some actions come to for the decorator. -/
def history (s : Session) : List Action → List Use
  | [] => []
  | a :: rest => (s.step a).2.history rest ++ s.actionUses a

theorem decorator_step (s : Session) (a : Action) :
    (s.step a).2.decorator = s.decorator.afterUses (s.actionUses a) := by
  simp only [step, actionUses]
  cases asked : a.demand? s.pool with
  | some demand => exact s.decorator.answer_eq demand
  | none => cases a <;> rfl

/-- **The decorator of a session** is the one that its history leads to. -/
theorem decorator_after (s : Session) (actions : List Action) :
    (s.after actions).decorator = s.decorator.afterUses (s.history actions) := by
  induction actions generalizing s with
  | nil => rfl
  | cons a rest ih =>
      rw [history, Decorator.afterUses_append, ← decorator_step]
      exact ih (s.step a).2

end Session

end Highlight
