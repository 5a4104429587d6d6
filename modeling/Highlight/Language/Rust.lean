import Highlight.Language.Parts

/-!
# Rust

Strings may be raw, between quotes with hashes around them, and may span lines.
A quote may also begin a character or, without a second one, a lifetime.
-/

namespace Highlight

set_option autoImplicit false

namespace Language

namespace Rust

open Pattern

/-- The hexadecimal digits. -/
def hexDigit : CharSet := .unions [.digit, .range 'a' 'f', .range 'A' 'F']

/-- A string in double quotes that may span lines. -/
def spanning : Pattern :=
  char '"' ++ many (choice [char '\\' ++ any, noneOf ['\\', '"']]) ++ char '"'

/-- A raw string, or one with escapes. -/
def string : Pattern :=
  choice [
    edge ++ opt (char 'b') ++ char 'r' ++ many (char '#') ++ char '"' ++ shortest ++ char '"' ++
      many (char '#'),
    opt (char 'b') ++ spanning]

/-- A character in single quotes. -/
def character : Pattern :=
  opt (char 'b') ++ char '\'' ++
    choice [
      char '\\' ++ choice [
        char 'x' ++ one (.range '0' '7') ++ one hexDigit,
        char 'u' ++ char openBrace ++
          between true (one (.unions [.digit, .range 'a' 'f', .range 'A' 'F', .single '_'])) 1 6 ++
          char closeBrace,
        anyInLine],
      noneOf ['\\', '\r', '\n', '\t', '\'']] ++
    char '\''

/-- An attribute in square brackets. -/
def bracketed : Pattern :=
  char '#' ++ opt (char '!') ++ char '[' ++ many (choice [noneOf ['[', ']', '"'], spanning]) ++
    char ']'

/-- The reserved words. -/
def keywords : List String :=
  ["Self", "abstract", "as", "async", "await", "become", "box", "break", "const", "continue",
    "crate", "do", "dyn", "else", "enum", "extern", "final", "fn", "for", "if", "impl", "in",
    "let", "loop", "macro", "match", "mod", "move", "mut", "override", "priv", "pub", "ref",
    "return", "self", "static", "struct", "super", "trait", "try", "type", "typeof", "union",
    "unsafe", "unsized", "use", "virtual", "where", "while", "yield"]

/-- A name in front of an opening bracket or of type arguments. -/
def call : Pattern :=
  edge ++ token (one (.unions [.range 'a' 'z', .single '_']) ++ many wordChar) ++ blanks ++
    choice [literal "::" ++ blanks ++ char '<', char '(']

/-- Digits of a kind that underscores may separate. -/
def grouped (first rest : Pattern) : Pattern := first ++ many (opt (char '_') ++ rest)

/-- A number, with the name of its type at the end or without. -/
def number : Pattern :=
  let hex := one (.unions [.digit, .range 'A' 'F', .range 'a' 'f'])
  let octal := one (.range '0' '7')
  let binary := oneOf ['0', '1']
  edge ++
    choice [
      literal "0x" ++ grouped hex hex,
      literal "0o" ++ grouped octal octal,
      literal "0b" ++ grouped binary binary,
      opt (grouped digit digit) ++ opt (char '.') ++ grouped digit digit ++
        opt (oneOf ['E', 'e'] ++ opt sign ++ many1 digit)] ++
    opt (opt (char '_') ++ choice [
      oneOf ['i', 'u'] ++
        opt (words ["8", "16", "32", "64", "128", "size"]),
      literal "f32",
      literal "f64"]) ++
    edge

/-- Operators, longer ones before their beginnings. -/
def operator : Pattern :=
  choice [
    orAssign (oneOf ['-', '+', '*', '/', '%', '!', '^']),
    char '=' ++ opt (oneOf ['=', '>']),
    char '&' ++ opt (oneOf ['&', '=']),
    char '|' ++ opt (oneOf ['|', '=']),
    orAssign (char '<' ++ opt (char '<')),
    orAssign (char '>' ++ opt (char '>')),
    oneOf ['@', '?']]

/-- The rules of the language. -/
def rules : List Rule :=
  [⟨"comment", blockComment, true, none, none⟩,
    ⟨"comment", lineComment "//", true, none, none⟩,
    ⟨"string", string, true, none, none⟩,
    ⟨"char", character, true, some "string", none⟩,
    ⟨"attribute", bracketed, true, some "attr-name", none⟩,
    ⟨"lifetime-annotation", char '\'' ++ many1 wordChar, false, some "symbol", none⟩,
    ⟨"function-definition", namedAfter ["fn"] (many1 wordChar), false, some "function", none⟩,
    ⟨"type-definition",
      namedAfter ["enum", "struct", "trait", "type", "union"] (many1 wordChar),
      false, some "class-name", none⟩,
    ⟨"macro", edge ++ many1 wordChar ++ char '!', false, some "property", none⟩,
    ⟨"keyword", wholeWords keywords, false, none, none⟩,
    ⟨"boolean", wholeWords ["true", "false"], false, none, none⟩,
    ⟨"function", call, false, none, none⟩,
    ⟨"class-name", edge ++ one (.range 'A' 'Z') ++ many wordChar ++ edge, false, none, none⟩,
    ⟨"number", number, false, none, none⟩,
    ⟨"operator", operator, false, none, none⟩,
    ⟨"punctuation",
      choice [literal "->", literal "..=", between true (char '.') 1 3, literal "::",
        oneOf [openBrace, closeBrace, '[', ']', ';', '(', ')', ',', ':']],
      false, none, none⟩]

/-- The grammar of the language. -/
def grammar : Grammar := ⟨"rust", ["rs"], ["rs"], rules⟩

end Rust

end Language

end Highlight
