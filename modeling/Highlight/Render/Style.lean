import Highlight.Text.Signs

/-!
# Styles

A style for a terminal is a color and a choice of attributes. It is applied by
control sequences around the text: those before it turn on what the style asks
for, and the one behind it turns off the color, or everything if there were
attributes.
-/

namespace Highlight

set_option autoImplicit false

/-- The sixteen colors of a terminal's palette, and the one of its own. -/
inductive Color where
  | default
  | black | red | green | yellow | blue | magenta | cyan | white
  | brightBlack | brightRed | brightGreen | brightYellow
  | brightBlue | brightMagenta | brightCyan | brightWhite
deriving DecidableEq

namespace Color

/-- All colors with their names. -/
def named : List (String × Color) :=
  [("Default", default), ("Black", black), ("Red", red), ("Green", green), ("Yellow", yellow),
    ("Blue", blue), ("Magenta", magenta), ("Cyan", cyan), ("White", white),
    ("BrightBlack", brightBlack), ("BrightRed", brightRed), ("BrightGreen", brightGreen),
    ("BrightYellow", brightYellow), ("BrightBlue", brightBlue), ("BrightMagenta", brightMagenta),
    ("BrightCyan", brightCyan), ("BrightWhite", brightWhite)]

/-- The name of a color. -/
def name (color : Color) : String := ((named.find? (·.2 = color)).map (·.1)).getD ""

/-- The color of a name. -/
def ofName? (name : String) : Option Color := (named.find? (·.1 = name)).map (·.2)

/-- The place of a color in the palette. -/
def index? : Color → Option Nat
  | default => none
  | black => some 0
  | red => some 1
  | green => some 2
  | yellow => some 3
  | blue => some 4
  | magenta => some 5
  | cyan => some 6
  | white => some 7
  | brightBlack => some 8
  | brightRed => some 9
  | brightGreen => some 10
  | brightYellow => some 11
  | brightBlue => some 12
  | brightMagenta => some 13
  | brightCyan => some 14
  | brightWhite => some 15

end Color

/-- How text looks in a terminal. -/
structure Style where
  foreground : Color := .default
  bold : Bool := false
  italic : Bool := false
  underline : Bool := false
deriving DecidableEq

namespace Style

/-- The style of text as it comes. -/
def unstyled : Style where

/-- The control sequence with some parameters. -/
def control (parameters : String) : String :=
  escapeSign.toString ++ "[" ++ parameters ++ "m"

/-- The control sequences that turn on some attributes. -/
def attributes (s : Style) : List String :=
  (if s.bold then [control "1"] else []) ++ (if s.italic then [control "3"] else []) ++
    if s.underline then [control "4"] else []

/-- The control sequences before a text. -/
def opening (s : Style) : List String :=
  (match s.foreground.index? with
    | some index => [control ("38;5;" ++ toString index)]
    | none => []) ++ s.attributes

/-- The control sequences behind a text. -/
def closing (s : Style) : List String :=
  if s.attributes ≠ [] then [control "0"]
  else if s.foreground ≠ .default then [control "39"]
  else []

/-- A text in a style. -/
def apply (s : Style) (text : String) : String :=
  String.join s.opening ++ text ++ String.join s.closing

end Style

end Highlight
