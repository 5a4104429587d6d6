import Highlight.Dictionary
import Highlight.Mark.Basic
import Highlight.Render.Style
import Highlight.Text.Parts

/-!
# Themes

A theme gives styles to the names of lexical categories. The style of a mark is
that of the last name in its class that has one, which is the innermost one.
-/

namespace Highlight

set_option autoImplicit false

/-- The styles of lexical categories. -/
structure Theme where
  styles : Dictionary Style
deriving DecidableEq

namespace Theme

/-- The theme without styles. -/
def empty : Theme := ⟨∅⟩

/-- The theme with another style for a category. -/
def set (t : Theme) (category : String) (style : Style) : Theme := ⟨t.styles.put category style⟩

/-- The style of a category. -/
def get? (t : Theme) (category : String) : Option Style := t.styles.get? category

/-- The names in a class, outermost first. -/
def namesIn (className : String) : List String := (parts ' ' className.toList).map String.ofList

/-- The style of a mark. -/
def styleFor? (t : Theme) (mark : Mark) : Option Style :=
  (namesIn mark.className).reverse.findSome? t.get?

/-- The categories that have a style from the start. -/
def standardStyles : List (List String × Style) :=
  [(["comment", "prolog", "doctype", "cdata"], { foreground := .brightBlack, italic := true }),
    (["string", "char", "template-string", "attr-value"], { foreground := .green }),
    (["number", "date"], { foreground := .cyan }),
    (["keyword"], { foreground := .magenta, bold := true }),
    (["class-name", "builtin"], { foreground := .yellow }),
    (["function", "key"], { foreground := .blue }),
    (["operator"], { foreground := .brightWhite }),
    (["punctuation"], .unstyled),
    (["directive", "lifetime-annotation"], { foreground := .brightMagenta }),
    (["macro"], { foreground := .brightCyan }),
    (["boolean", "constant"], { foreground := .brightRed }),
    (["entity"], { foreground := .brightYellow }),
    (["attribute", "decorator", "attr-name", "tag", "namespace"], { foreground := .brightBlue }),
    (["table"], { foreground := .yellow, underline := true })]

/-- The theme from the start. -/
def standard : Theme :=
  standardStyles.foldl (fun t entry => entry.1.foldl (fun t name => t.set name entry.2) t) empty

end Theme

end Highlight
