import Highlight.Json.Print
import Highlight.Json.Read

/-!
# Layouts of printed JSON

Both ways of printing put white space, or nothing, at the same places: before each
member of an array or object and before its end, and behind each colon. A layout says
what stands there (`Json.Layout`), and compact and spread values are printed in two
layouts (`Json.compact_eq_print`, `Json.spread_eq_print`).
-/

namespace Highlight

set_option autoImplicit false

namespace Json

/-- What stands between the parts of a printed value: before a member or an end, by
level, and behind a colon. It is white space. -/
structure Layout where
  gap : Nat → List Char
  space : List Char
  blankGap : ∀ level, ∀ c ∈ gap level, isBlank c = true
  blankSpace : ∀ c ∈ space, isBlank c = true

namespace Layout

/-- No white space at all. -/
def compact : Layout where
  gap _ := []
  space := []
  blankGap _ _ member := absurd member List.not_mem_nil
  blankSpace _ member := absurd member List.not_mem_nil

/-- A line for each member and each end. -/
def spread : Layout where
  gap := newLine
  space := [' ']
  blankGap level c member := by
    rcases List.mem_cons.1 member with rfl | indent
    · rfl
    · rw [List.eq_of_mem_replicate indent]
      rfl
  blankSpace := List.forall_mem_singleton.2 rfl

mutual

/-- A value whose first line stands at a level. -/
def print (layout : Layout) (level : Nat) : Json → List Char
  | null => ['n', 'u', 'l', 'l']
  | bool true => ['t', 'r', 'u', 'e']
  | bool false => ['f', 'a', 'l', 's', 'e']
  | number spelling => spelling.toList
  | string text => quote text
  | array [] => ['[', ']']
  | array (first :: rest) =>
      '[' :: layout.gap (level + 1) ++ layout.print (level + 1) first ++
        layout.printElements level rest
  | object [] => [openBrace, closeBrace]
  | object ((name, value) :: rest) =>
      openBrace :: layout.gap (level + 1) ++ quote name ++
        ':' :: (layout.space ++ layout.print (level + 1) value) ++ layout.printFields level rest

/-- The elements behind the first one, and the end of the array. -/
def printElements (layout : Layout) (level : Nat) : List Json → List Char
  | [] => layout.gap level ++ [']']
  | value :: rest =>
      ',' :: layout.gap (level + 1) ++ layout.print (level + 1) value ++
        layout.printElements level rest

/-- The fields behind the first one, and the end of the object. -/
def printFields (layout : Layout) (level : Nat) : List (String × Json) → List Char
  | [] => layout.gap level ++ [closeBrace]
  | (name, value) :: rest =>
      ',' :: layout.gap (level + 1) ++ quote name ++
        ':' :: (layout.space ++ layout.print (level + 1) value) ++ layout.printFields level rest

end

theorem length_printElements_pos (layout : Layout) (level : Nat) (elements : List Json) :
    0 < (layout.printElements level elements).length := by
  cases elements with
  | nil => simp [printElements]
  | cons value rest => simp [printElements]

theorem length_printFields_pos (layout : Layout) (level : Nat) (fields : List (String × Json)) :
    0 < (layout.printFields level fields).length := by
  cases fields with
  | nil => simp [printFields]
  | cons field rest => simp [printFields]

end Layout

mutual

theorem compact_eq_print (level : Nat) : ∀ j : Json, j.compact = Layout.compact.print level j
  | null => rfl
  | bool true => rfl
  | bool false => rfl
  | number _ => rfl
  | string _ => rfl
  | array [] => rfl
  | array (first :: rest) => by
      rw [compact, Layout.print, compact_eq_print (level + 1) first,
        compactElements_eq_print level rest]
      rfl
  | object [] => rfl
  | object ((name, value) :: rest) => by
      rw [compact, Layout.print, compact_eq_print (level + 1) value,
        compactFields_eq_print level rest]
      rfl

theorem compactElements_eq_print (level : Nat) :
    ∀ elements : List Json, compactElements elements = Layout.compact.printElements level elements
  | [] => rfl
  | value :: rest => by
      rw [compactElements, Layout.printElements, compact_eq_print (level + 1) value,
        compactElements_eq_print level rest]
      rfl

theorem compactFields_eq_print (level : Nat) :
    ∀ fields : List (String × Json), compactFields fields = Layout.compact.printFields level fields
  | [] => rfl
  | (name, value) :: rest => by
      rw [compactFields, Layout.printFields, compact_eq_print (level + 1) value,
        compactFields_eq_print level rest]
      rfl

end

mutual

theorem spread_eq_print (level : Nat) : ∀ j : Json, j.spread level = Layout.spread.print level j
  | null => rfl
  | bool true => rfl
  | bool false => rfl
  | number _ => rfl
  | string _ => rfl
  | array [] => rfl
  | array (first :: rest) => by
      rw [spread, Layout.print, spread_eq_print (level + 1) first,
        spreadElements_eq_print level rest]
      rfl
  | object [] => rfl
  | object ((name, value) :: rest) => by
      rw [spread, Layout.print, spread_eq_print (level + 1) value,
        spreadFields_eq_print level rest]
      rfl

theorem spreadElements_eq_print (level : Nat) : ∀ elements : List Json,
    spreadElements level elements = Layout.spread.printElements level elements
  | [] => rfl
  | value :: rest => by
      rw [spreadElements, Layout.printElements, spread_eq_print (level + 1) value,
        spreadElements_eq_print level rest]
      rfl

theorem spreadFields_eq_print (level : Nat) : ∀ fields : List (String × Json),
    spreadFields level fields = Layout.spread.printFields level fields
  | [] => rfl
  | (name, value) :: rest => by
      rw [spreadFields, Layout.printFields, spread_eq_print (level + 1) value,
        spreadFields_eq_print level rest]
      rfl

end

end Json

end Highlight
