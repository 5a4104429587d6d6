import Highlight.Json.Read
import Highlight.Json.Print
import Highlight.Token.Basic

/-!
# Tokens as JSON

Plain text is a string. A token of a category is an object with the fields
`type`, `alias`, which is left out if there is none, and `content`, which is a
string or an array of tokens.

More is accepted than is written. An alias may be null, and it may be an array
of names, which are joined by spaces; an empty alias is none. Other fields are
passed over. And instead of an object there may be an array of the category,
the alias and the content, in that order.
-/

namespace Highlight

set_option autoImplicit false

namespace Token

/-! ## Writing -/

mutual

/-- A token as a JSON value. -/
def toJson : Token → Json
  | literal text => .string text
  | leaf category secondName text => typedJson category secondName (.string text)
  | node category secondName children => typedJson category secondName (.array (toJsonAll children))

/-- The tokens of a row as JSON values. -/
def toJsonAll : List Token → List Json
  | [] => []
  | t :: rest => t.toJson :: toJsonAll rest

/-- The object for a token of a category. -/
def typedJson (category : String) : Option String → Json → Json
  | none, content => .object [("type", .string category), ("content", content)]
  | some secondName, content =>
      .object [("type", .string category), ("alias", .string secondName), ("content", content)]

end

/-- A row of tokens as JSON without white space. -/
def print (tokens : List Token) : String :=
  String.ofList (Json.array (toJsonAll tokens)).compact

/-- A row of tokens as JSON spread over lines. -/
def printSpread (tokens : List Token) : String :=
  String.ofList ((Json.array (toJsonAll tokens)).spread 0)

/-! ## Reading -/

/-- The raw text or the inner tokens of a token. -/
inductive Content where
  | text (text : String)
  | tokens (tokens : List Token)

/-- The token of a category over some content. -/
def ofContent (category : String) (secondName : Option String) : Content → Token
  | .text text => leaf category secondName text
  | .tokens children => node category secondName children

/-- The strings of a list of values, if all of them are strings. -/
def stringsOf : List Json → Option (List String)
  | [] => some []
  | .string text :: rest => (stringsOf rest).map (text :: ·)
  | _ :: _ => none

/-- An alias, unless it is empty. -/
def nonEmpty (name : String) : Option String := if name = "" then none else some name

/-- Reads an alias: null, a name or an array of names. -/
def aliasOf : Json → Except JsonError (Option String)
  | .null => .ok none
  | .string name => .ok (nonEmpty name)
  | .array values =>
      match stringsOf values with
      | some names => .ok (nonEmpty (String.intercalate " " names))
      | none => .error .mismatched
  | _ => .error .mismatched

/-- What has been read of an object for a token; a field is missing until it has
been met. -/
structure Parts where
  category : Option String
  secondName : Option (Option String)
  content : Option Content

mutual

/-- The token that a JSON value stands for. -/
def ofJson : Json → Except JsonError Token
  | .string text => .ok (literal text)
  | .array [.string category, secondName, content] => do
      let secondName ← aliasOf secondName
      let content ← contentOf content
      return ofContent category secondName content
  | .object fields => do
      let parts ← partsOf fields ⟨none, none, none⟩
      match parts.category, parts.content with
      | some category, some content => .ok (ofContent category (parts.secondName.getD none) content)
      | _, _ => .error .mismatched
  | _ => .error .mismatched

/-- The content that a JSON value stands for. -/
def contentOf : Json → Except JsonError Content
  | .string text => .ok (.text text)
  | .array values => do return .tokens (← ofJsonAll values)
  | _ => .error .mismatched

/-- The tokens that some JSON values stand for. -/
def ofJsonAll : List Json → Except JsonError (List Token)
  | [] => .ok []
  | value :: rest => do return (← ofJson value) :: (← ofJsonAll rest)

/-- Collects the parts of a token from the fields of an object. A field that is
met twice does not fit. -/
def partsOf : List (String × Json) → Parts → Except JsonError Parts
  | [], parts => .ok parts
  | (name, value) :: rest, parts =>
      if name = "type" then
        match value, parts.category with
        | .string category, none => partsOf rest { parts with category := some category }
        | _, _ => .error .mismatched
      else if name = "alias" then
        match aliasOf value, parts.secondName with
        | .ok secondName, none => partsOf rest { parts with secondName := some secondName }
        | _, _ => .error .mismatched
      else if name = "content" then
        match contentOf value, parts.content with
        | .ok content, none => partsOf rest { parts with content := some content }
        | _, _ => .error .mismatched
      else partsOf rest parts

end

/-- Reads the tokens of an array up to its end. Each is looked at before the
next is read. -/
def readTokens : Nat → Bool → List Token → List Char →
    Except JsonError (List Token × List Char)
  | 0, _, _, _ => .error .cutShort
  | fuel + 1, first, read, text => do
      match ← Json.nextElement first text with
      | .done rest => .ok (read.reverse, rest)
      | .member text =>
          let (value, rest) ← Json.readValue (2 * text.length + 2) (Json.levelLimit - 1) text
          let token ← ofJson value
          readTokens fuel false (token :: read) rest

/-- Reads a row of tokens. -/
def parse (text : String) : Except JsonError (List Token) :=
  match Json.skipBlanks text.toList with
  | '[' :: rest => do
      let (tokens, rest) ← readTokens (rest.length + 1) true [] rest
      Json.readEnd rest
      return tokens
  | c :: rest =>
      if c = openBrace then .error .mismatched
      else do
        let _ ← Json.readScalar (c :: rest)
        .error .mismatched
  | [] => .error .cutShort

end Token

end Highlight
