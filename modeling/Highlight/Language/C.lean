import Highlight.Language.Parts

/-!
# C

A directive of the preprocessor takes the rest of its line and is cut further
into its name and the file it may include.
-/

namespace Highlight

set_option autoImplicit false

namespace Language

namespace C

open Pattern

/-- The inside of a directive. -/
def directiveRules : List Rule :=
  [⟨"directive", start ++ char '#' ++ blanks ++ many1 wordChar, false, some "keyword", none⟩,
    ⟨"string",
      choice [
        char '<' ++ many1 (noneOf ['>', '\r', '\n']) ++ char '>',
        char '"' ++ many (noneOf ['"', '\r', '\n']) ++ char '"'],
      false, some "import-file", none⟩]

/-- A directive at the beginning of a line. -/
def directive : Pattern :=
  lineStart ++ indent ++
    token (char '#' ++ blanks ++ one (.range 'a' 'z') ++ many (noneOf ['\r', '\n']))

/-- A character in single quotes, or a few of them. -/
def character : Pattern :=
  char '\'' ++
    between true (choice [char '\\' ++ anyInLine, noneOf ['\'', '\\', '\r', '\n']]) 0 32 ++
    char '\''

/-- The reserved words. -/
def keywords : List String :=
  ["_Alignas", "_Alignof", "_Atomic", "_Bool", "_Complex", "_Generic", "_Imaginary", "_Noreturn",
    "_Static_assert", "_Thread_local", "__attribute__", "asm", "auto", "break", "case", "char",
    "const", "continue", "default", "do", "double", "else", "enum", "extern", "float", "for",
    "goto", "if", "inline", "int", "long", "register", "return", "short", "signed", "sizeof",
    "static", "struct", "switch", "typedef", "typeof", "union", "unsigned", "void", "volatile",
    "while"]

/-- The names that stand for fixed values. -/
def constants : List String :=
  ["EOF", "NULL", "SEEK_CUR", "SEEK_END", "SEEK_SET", "stderr", "stdin", "stdout", "__FILE__",
    "__LINE__", "__DATE__", "__TIME__", "__func__"]

/-- A name in front of an opening bracket. -/
def call : Pattern :=
  edge ++ token (one (.unions [.range 'a' 'z', .single '_']) ++ many wordChar) ++ blanks ++ char '('

/-- A number with the letters that tell its type. -/
def number : Pattern :=
  let letter (c : Char) : Pattern := one (.anyCase (.single c))
  choice [
    edge ++ char '0' ++ letter 'x' ++ many1 (one (.anyCase (.union .digit (.range 'a' 'f')))) ++
      many (one (.anyCase (.ofList ['u', 'l']))) ++ edge,
    choice [
        edge ++ many1 digit ++ opt (char '.' ++ many digit),
        noEdge ++ char '.' ++ many1 digit] ++
      opt (letter 'e' ++ opt (one (.anyCase (.ofList ['+', '-']))) ++ many1 digit) ++
      many (one (.anyCase (.ofList ['f', 'f', 'l', 'u']))) ++ edge]

/-- Operators, longer ones before their beginnings. -/
def operator : Pattern :=
  choice [
    orAssign (char '>' ++ char '>'),
    orAssign (literal "<<"),
    literal "->",
    literal "--",
    literal "++",
    literal "&&",
    literal "||",
    literal "::",
    oneOf ['?', ':', '~'],
    orAssign (oneOf ['-', '+', '*', '/', '%', '&', '|', '^', '!', '=', '<', '>'])]

/-- The rules of the language. -/
def rules : List Rule :=
  [⟨"comment", blockComment, true, none, none⟩,
    ⟨"comment", lineComment "//", true, none, none⟩,
    ⟨"macro", directive, true, some "property", some directiveRules⟩,
    ⟨"string", quoted '"', true, none, none⟩,
    ⟨"char", character, true, none, none⟩,
    ⟨"class-name", namedAfter ["enum", "struct", "union"] (many1 wordChar), false, none, none⟩,
    ⟨"keyword", wholeWords keywords, false, none, none⟩,
    ⟨"constant", wholeWords constants, false, none, none⟩,
    ⟨"function", call, false, none, none⟩,
    ⟨"number", number, false, none, none⟩,
    ⟨"operator", operator, false, none, none⟩,
    ⟨"punctuation", oneOf bracesAndSigns, false, none, none⟩]

/-- The grammar of the language. -/
def grammar : Grammar := ⟨"c", ["h"], ["c", "h"], rules⟩

end C

end Language

end Highlight
