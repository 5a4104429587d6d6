import Highlight.Language.Parts

/-!
# TOML

Headers of tables and keys are recognized at the beginning of a line only, the
values behind them anywhere.
-/

namespace Highlight

set_option autoImplicit false

namespace Language

namespace Toml

open Pattern

/-- The characters of a bare or dotted key. -/
def keyChar : Pattern := one (.unions [.word, .single '-', .single '.'])

/-- A header in square brackets, single or double. -/
def header : Pattern :=
  lineStart ++ indent ++
    token (char '[' ++ opt (char '[') ++ indent ++ many1 keyChar ++
      many (indent ++ char '.' ++ indent ++ many1 keyChar) ++ indent ++ char ']' ++ opt (char ']'))

/-- A key in front of an equals sign. -/
def key : Pattern := lineStart ++ indent ++ token (many1 keyChar) ++ indent ++ char '='

/-- A string in one of the four kinds of quotes. -/
def string : Pattern :=
  choice [
    literal "\"\"\"" ++ shortest ++ literal "\"\"\"",
    literal "'''" ++ shortest ++ literal "'''",
    char '\'' ++ many (noneOf ['\'', '\r', '\n']) ++ char '\'',
    quoted '"']

/-- A date, a time, or both. -/
def date : Pattern :=
  let two := times digit 2
  let clock := two ++ char ':' ++ two ++ char ':' ++ two ++ opt (char '.' ++ many1 digit)
  let letter (c : Char) : Pattern := one (.anyCase (.single c))
  choice [
    edge ++ times digit 4 ++ char '-' ++ two ++ char '-' ++ two ++
      opt (one (.anyCase (.union (.single 'T') .whiteSpace)) ++ clock ++
        opt (choice [letter 'Z',
          one (.anyCase (.ofList ['+', '-'])) ++ two ++ char ':' ++ two])) ++
      edge,
    edge ++ clock ++ edge]

/-- Digits of a kind that underscores may separate. -/
def grouped (s : CharSet) : Pattern := many1 (one s) ++ many (char '_' ++ many1 (one s))

/-- A number in one of four bases, a fraction, or one that is none. -/
def number : Pattern :=
  choice [
    edge ++ char '0' ++ choice [
      char 'x' ++ grouped (.unions [.digit, .range 'a' 'z', .range 'A' 'Z']),
      char 'o' ++ grouped (.range '0' '7'),
      char 'b' ++ grouped (.ofList ['1', '0'])] ++ edge,
    opt sign ++ edge ++ grouped .digit ++ opt (char '.' ++ grouped .digit) ++
      opt (oneOf ['e', 'E'] ++ opt sign ++ grouped .digit) ++ edge,
    opt sign ++ edge ++ words ["inf", "nan"] ++ edge]

/-- The rules of the language. -/
def rules : List Rule :=
  [⟨"comment", lineComment "#", true, none, none⟩,
    ⟨"table", header, true, some "class-name", none⟩,
    ⟨"key", key, true, some "property", none⟩,
    ⟨"string", string, true, none, none⟩,
    ⟨"date", date, false, some "number", none⟩,
    ⟨"number", number, false, none, none⟩,
    ⟨"boolean", wholeWords ["true", "false"], false, none, none⟩,
    ⟨"punctuation", oneOf ['.', ',', '=', '[', ']', openBrace, closeBrace], false, none, none⟩]

/-- The grammar of the language. -/
def grammar : Grammar := ⟨"toml", [], ["toml"], rules⟩

end Toml

end Language

end Highlight
