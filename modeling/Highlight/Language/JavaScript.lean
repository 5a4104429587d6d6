import Highlight.Language.Parts

/-!
# JavaScript

Comments and strings come first and are greedy, so that each may hold the signs
of the other. A template literal is cut further into its punctuation, its
interpolations and the text between them.
-/

namespace Highlight

set_option autoImplicit false

namespace Language

namespace JavaScript

open Pattern

/-- The dollar sign and the brace that open an interpolation. -/
def interpolationStart : Pattern := literal "$" ++ char openBrace

/-- An interpolation, which ends at the first closing brace. -/
def interpolation : Pattern :=
  interpolationStart ++ many (noneOf [closeBrace]) ++ char closeBrace

/-- The inside of an interpolation. -/
def interpolationRules : List Rule :=
  [⟨"interpolation-punctuation",
    choice [start ++ interpolationStart, char closeBrace ++ finish],
    false, some "punctuation", none⟩]

/-- The inside of a template literal. -/
def templateRules : List Rule :=
  [⟨"template-punctuation", choice [start ++ char backtick, char backtick ++ finish],
      false, some "string", none⟩,
    ⟨"interpolation", interpolation, false, none, some interpolationRules⟩,
    ⟨"string", many1 any, false, none, none⟩]

/-- A template literal. -/
def template : Pattern :=
  char backtick ++
    many (choice [
      char '\\' ++ any,
      interpolation,
      noneOf ['\\', backtick, '$'],
      char '$' ++ noneOf [openBrace]]) ++
    char backtick

/-- A string in either kind of quotes. -/
def string : Pattern := choice [quoted '"', quoted '\'']

/-- Words that the name of a class follows. -/
def classWords : List String :=
  ["class", "extends", "implements", "instanceof", "interface", "new"]

/-- The reserved words. -/
def keywords : List String :=
  ["as", "async", "await", "break", "case", "catch", "class", "const", "continue", "debugger",
    "default", "delete", "do", "else", "export", "extends", "finally", "for", "from", "function",
    "get", "if", "import", "in", "instanceof", "let", "new", "null", "of", "return", "set",
    "static", "super", "switch", "this", "throw", "try", "typeof", "undefined", "var", "void",
    "while", "with", "yield"]

/-- A name in front of an opening bracket. -/
def call : Pattern :=
  token (opt (char '#') ++
    one (.unions [.single '_', .single '$', .range 'a' 'z', .range 'A' 'Z']) ++
    many (one (.unions [.single '$', .word]))) ++
  blanks ++ char '('

/-- A number in hexadecimal or decimal digits. -/
def number : Pattern :=
  choice [
    edge ++ char '0' ++ oneOf ['x', 'X'] ++
      many1 (one (.unions [.digit, .range 'A' 'F', .range 'a' 'f'])) ++ edge,
    choice [
        edge ++ many1 digit ++ opt (char '.' ++ many digit),
        noEdge ++ char '.' ++ many1 digit] ++
      opt (oneOf ['E', 'e'] ++ opt sign ++ many1 digit)]

/-- Operators, longer ones before their beginnings. -/
def operator : Pattern :=
  choice [
    literal "--",
    literal "++",
    orAssign (literal "**"),
    literal "=>",
    orAssign (literal "&&"),
    orAssign (literal "||"),
    oneOf ['!', '='] ++ literal "==",
    orAssign (literal "<<"),
    orAssign (literal ">>" ++ opt (char '>')),
    orAssign (oneOf ['-', '+', '*', '/', '%', '&', '|', '^', '!', '=', '<', '>']),
    times (char '.') 3,
    orAssign (literal "??"),
    char '?' ++ opt (char '.'),
    oneOf ['~', ':']]

/-- The rules of the language. -/
def rules : List Rule :=
  [⟨"comment", blockComment, true, none, none⟩,
    ⟨"comment", lineComment "//", true, none, none⟩,
    ⟨"template-string", template, true, none, some templateRules⟩,
    ⟨"string", string, true, none, none⟩,
    ⟨"class-name", namedAfter classWords (many1 (one (.unions [.word, .single '.']))),
      false, none, none⟩,
    ⟨"keyword", wholeWords keywords, false, none, none⟩,
    ⟨"boolean", wholeWords ["true", "false"], false, none, none⟩,
    ⟨"function", call, false, none, none⟩,
    ⟨"number", number, false, none, none⟩,
    ⟨"operator", operator, false, none, none⟩,
    ⟨"punctuation", oneOf bracesAndSigns, false, none, none⟩]

/-- The grammar of the language. -/
def grammar : Grammar := ⟨"javascript", ["js"], ["js", "mjs", "cjs"], rules⟩

end JavaScript

end Language

end Highlight
