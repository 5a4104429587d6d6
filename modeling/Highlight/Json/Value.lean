/-!
# JSON values

The fields of an object keep their order, and a name may stand twice. Of a
number only its spelling is kept.
-/

namespace Highlight

set_option autoImplicit false

/-- A JSON value. -/
inductive Json where
  | null
  | bool (value : Bool)
  | number (spelling : String)
  | string (text : String)
  | array (elements : List Json)
  | object (fields : List (String × Json))
deriving Inhabited

/-- What is wrong with a text that was to be read as JSON. -/
inductive JsonError where
  | malformed
  | cutShort
  | mismatched
deriving DecidableEq

end Highlight
