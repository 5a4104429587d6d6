import Highlight.Language.Parts

/-!
# Markup

The languages of tags in angle brackets. A tag is found as a whole and then cut
into its name, its attributes with their values, and the brackets.
-/

namespace Highlight

set_option autoImplicit false

namespace Language

namespace Markup

open Pattern

/-- Any character but white space and those of a list. -/
def solid (but : List Char) : Pattern := one (.compl (.union .whiteSpace (.ofList but)))

/-- A text between two quotes, with anything in it but the quote. -/
def enclosed (quote : Char) : Pattern := char quote ++ many (noneOf [quote]) ++ char quote

/-- The value of an attribute, in quotes or bare. -/
def value : Pattern := choice [enclosed '"', enclosed '\'', many1 (solid ['\'', '"', '>', '='])]

/-- The bracket that opens a tag. -/
def opening : Pattern := char '<' ++ opt (char '/')

/-- The bracket that closes a tag. -/
def closing : Pattern := opt (char '/') ++ char '>'

/-- The inside of the name of a tag. -/
def nameRules : List Rule :=
  [⟨"punctuation", start ++ opening, false, none, none⟩,
    ⟨"namespace", start ++ many1 (solid ['>', '/', ':']) ++ char ':', false, none, none⟩]

/-- The inside of the value of an attribute, the equals sign included. -/
def valueRules : List Rule :=
  [⟨"punctuation", start ++ char '=', false, some "attr-equals", none⟩,
    ⟨"punctuation",
      choice [start ++ blanks ++ token (oneOf ['"', '\'']), oneOf ['"', '\''] ++ finish],
      false, none, none⟩]

/-- The inside of a tag. -/
def tagRules : List Rule :=
  [⟨"tag", start ++ opening ++ many1 (solid ['>', '/']), false, none, some nameRules⟩,
    ⟨"attr-value", char '=' ++ blanks ++ value, false, none, some valueRules⟩,
    ⟨"punctuation", closing, false, none, none⟩,
    ⟨"attr-name", many1 (solid ['>', '/', '=']), false, none, none⟩]

/-- A tag with its attributes. -/
def tag : Pattern :=
  opening ++ many1 (solid ['>', '/', '=', '!', '?']) ++
    many (someBlanks ++ many1 (solid ['>', '/', '=']) ++
      opt (blanks ++ char '=' ++ blanks ++ value)) ++
    blanks ++ closing

/-- A letter in either case. -/
def eitherCase (c : Char) : Pattern := one (.anyCase (.single c))

/-- A word in any mixture of cases. -/
def anyCaseWord (text : String) : Pattern := seq (text.toList.map eitherCase)

/-- A character given by its name or its number. -/
def entity : Pattern :=
  choice [
    char '&' ++ between true (one (.anyCase (.union .digit (.range 'a' 'z')))) 1 8 ++ char ';',
    literal "&#" ++ opt (eitherCase 'x') ++
      between true (one (.anyCase (.union .digit (.range 'a' 'f')))) 1 8 ++ char ';']

/-- The rules of the languages. -/
def rules : List Rule :=
  [⟨"comment", enclosedComment "<!--" "-->", true, none, none⟩,
    ⟨"prolog", literal "<?" ++ (any ++ shortest) ++ literal "?>", true, none, none⟩,
    ⟨"doctype", literal "<!" ++ anyCaseWord "DOCTYPE" ++ many (noneOf ['>']) ++ char '>',
      true, none, none⟩,
    ⟨"cdata", literal "<![" ++ anyCaseWord "CDATA" ++ char '[' ++ shortest ++ literal "]]>",
      true, none, none⟩,
    ⟨"tag", tag, true, none, some tagRules⟩,
    ⟨"entity", entity, false, some "named-entity", none⟩]

/-- The grammar of the languages. -/
def grammar : Grammar :=
  ⟨"markup", ["html", "xml", "svg"], ["html", "htm", "xml", "svg"], rules⟩

end Markup

end Language

end Highlight
