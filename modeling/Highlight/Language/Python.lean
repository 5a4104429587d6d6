import Highlight.Language.Parts

/-!
# Python

Strings in triple quotes come before those in single ones, so that a quote in a
longer text does not end it. Letters in front of a quote belong to the string.
-/

namespace Highlight

set_option autoImplicit false

namespace Language

namespace Python

open Pattern

/-- A letter in either case. -/
def letter (c : Char) : Pattern := one (.anyCase (.single c))

/-- Letters in either case, one after another. -/
def letters (text : String) : Pattern := seq (text.toList.map letter)

/-- What can stand in front of any string. -/
def plainPrefixes : List Pattern :=
  [one (.anyCase (.ofList ['r', 'u', 'b'])), letters "br", letters "rb"]

/-- What can stand in front of a string of one line. -/
def linePrefixes : List Pattern := plainPrefixes ++ [letter 'f', letters "fr", letters "rf"]

/-- A string in triple quotes, which may span lines. -/
def tripleQuoted : Pattern :=
  opt (choice plainPrefixes) ++
    choice [
      literal "\"\"\"" ++ shortest ++ literal "\"\"\"",
      literal "'''" ++ shortest ++ literal "'''"]

/-- A string of one line. -/
def string : Pattern := opt (choice linePrefixes) ++ choice [quoted '"', quoted '\'']

/-- The reserved words. -/
def keywords : Pattern :=
  edge ++
    choice ([char '_' ++ choice [literal "_debug__", literal "_import__"]] ++
      ["and", "as", "assert", "async", "await", "break", "case", "class", "continue", "def",
        "del", "elif", "else", "except", "exec", "finally", "for", "from", "global", "if",
        "import", "in", "is", "lambda", "match", "nonlocal", "not", "or", "pass", "print",
        "raise", "return", "try", "while", "with", "yield"].map literal) ++
    edge

/-- The names that are always there. -/
def builtins : List String :=
  ["abs", "all", "any", "ascii", "bin", "bool", "bytearray", "bytes", "callable", "chr",
    "classmethod", "compile", "complex", "delattr", "dict", "dir", "divmod", "enumerate", "eval",
    "filter", "float", "format", "frozenset", "getattr", "globals", "hasattr", "hash", "help",
    "hex", "id", "input", "int", "isinstance", "issubclass", "iter", "len", "list", "locals",
    "map", "max", "memoryview", "min", "next", "object", "oct", "open", "ord", "pow", "property",
    "range", "repr", "reversed", "round", "set", "setattr", "slice", "sorted", "staticmethod",
    "str", "sum", "super", "tuple", "type", "vars", "zip"]

/-- Digits that underscores may separate. -/
def grouped : Pattern := many1 digit ++ many (char '_' ++ many1 digit)

/-- A number in one of four bases, a fraction, or an imaginary one. -/
def number : Pattern :=
  let based (base : Char) (s : Pattern) : Pattern := letter base ++ many1 (opt (char '_') ++ s)
  choice [
    edge ++ char '0' ++
      choice [
        based 'b' (one (.anyCase (.ofList ['0', '1']))),
        based 'o' (one (.anyCase (.range '0' '7'))),
        based 'x' (one (.anyCase (.union (.range 'a' 'f') (.range '0' '9'))))] ++
      edge,
    choice [
        edge ++ grouped ++ opt (char '.' ++ opt grouped),
        noEdge ++ char '.' ++ grouped] ++
      opt (letter 'e' ++ opt (one (.anyCase (.ofList ['+', '-']))) ++ grouped) ++
      opt (letter 'j') ++ edge]

/-- Operators, longer ones before their beginnings where it matters. -/
def operator : Pattern :=
  choice [
    orAssign (oneOf ['-', '+', '%', '=']),
    literal "!=",
    literal ":=",
    orAssign (char '*' ++ opt (char '*')),
    orAssign (char '/' ++ opt (char '/')),
    char '<' ++ opt (oneOf ['<', '=', '>']),
    char '>' ++ opt (oneOf ['=', '>']),
    oneOf ['&', '|', '^', '~']]

/-- The rules of the language. -/
def rules : List Rule :=
  [⟨"comment", lineComment "#", true, none, none⟩,
    ⟨"triple-quoted-string", tripleQuoted, true, some "string", none⟩,
    ⟨"string", string, true, none, none⟩,
    ⟨"function",
      edge ++ literal "def" ++ someBlanks ++
        token (one (.unions [.range 'a' 'z', .range 'A' 'Z', .single '_']) ++ many wordChar),
      false, none, none⟩,
    ⟨"class-name", edge ++ literal "class" ++ someBlanks ++ token (many1 wordChar),
      false, none, none⟩,
    ⟨"decorator",
      lineStart ++ blanks ++
        token (char '@' ++ many1 wordChar ++ many (char '.' ++ many1 wordChar)),
      false, some "annotation", none⟩,
    ⟨"keyword", keywords, false, none, none⟩,
    ⟨"builtin", wholeWords builtins, false, none, none⟩,
    ⟨"boolean", wholeWords ["False", "None", "True"], false, none, none⟩,
    ⟨"number", number, false, none, none⟩,
    ⟨"operator", operator, false, none, none⟩,
    ⟨"punctuation", oneOf (bracesAndSigns ++ [':']), false, none, none⟩]

/-- The grammar of the language. -/
def grammar : Grammar := ⟨"python", ["py"], ["py", "pyw", "pyi"], rules⟩

end Python

end Language

end Highlight
