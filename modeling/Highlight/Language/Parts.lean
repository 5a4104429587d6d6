import Highlight.Text.Signs
import Highlight.Grammar.Basic

/-!
# Parts of languages

What the lexical rules of several languages share: comments, quoted strings,
words, numbers.
-/

namespace Highlight

set_option autoImplicit false

namespace Language

open Pattern

/-- The place where a word begins or ends. -/
def edge : Pattern := assert (.wordEdge .word)

/-- A place where no word begins or ends. -/
def noEdge : Pattern := assert (.noWordEdge .word)

/-- The beginning of the text. -/
def start : Pattern := assert .textStart

/-- The end of the text. -/
def finish : Pattern := assert .textEnd

/-- The beginning of a line. -/
def lineStart : Pattern := assert .lineStart

/-- Any character. -/
def any : Pattern := one .all

/-- Any character of a line. -/
def anyInLine : Pattern := noneOf ['\n']

/-- A character of a word. -/
def wordChar : Pattern := one .word

/-- A decimal digit. -/
def digit : Pattern := one .digit

/-- White space. -/
def blank : Pattern := one .whiteSpace

/-- A space or a tab. -/
def indent : Pattern := many (oneOf ['\t', ' '])

/-- White space or none. -/
def blanks : Pattern := many blank

/-- At least one character of white space. -/
def someBlanks : Pattern := many1 blank

/-- As few characters as possible. -/
def shortest : Pattern := repeated false any

/-- A comment from one sign to another, or to the end of the text. -/
def enclosedComment (opening closing : String) : Pattern :=
  literal opening ++ shortest ++ choice [literal closing, finish]

/-- A comment between a slash with a star and a star with a slash. -/
def blockComment : Pattern := enclosedComment "/*" "*/"

/-- A comment from a sign to the end of the line. -/
def lineComment (sign : String) : Pattern := literal sign ++ many anyInLine

/-- A string between two quotes on one line. A backslash lets any character of a
line follow. -/
def quoted (quote : Char) : Pattern :=
  char quote ++
    many (choice [char '\\' ++ anyInLine, noneOf ['\\', quote, '\r', '\n']]) ++
    char quote

/-- One of some words, standing alone. -/
def wholeWords (texts : List String) : Pattern := edge ++ words texts ++ edge

/-- One of some words, and then a name, which is the token. -/
def namedAfter (texts : List String) (name : Pattern) : Pattern :=
  edge ++ words texts ++ someBlanks ++ token name

/-- Either sign. -/
def sign : Pattern := oneOf ['+', '-']

/-- A sign that may be followed by an equals sign. -/
def orAssign (p : Pattern) : Pattern := p ++ opt (char '=')

/-- The signs that set apart and enclose in the languages with braces. -/
def bracesAndSigns : List Char :=
  [openBrace, closeBrace, '[', ']', ';', '(', ')', ',', '.']

end Language

end Highlight
