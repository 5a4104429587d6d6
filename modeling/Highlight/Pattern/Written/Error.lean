/-!
# Why a written pattern is refused

Patterns are written by people, and a text that is no pattern is refused with
its cause.
-/

namespace Highlight

set_option autoImplicit false

/-- What is wrong with a text that was to be read as a pattern. -/
inductive PatternError where
  | groupUnclosed
  | groupUnopened
  | nothingToRepeat
  | countUnclosed
  | countMissing
  | countReversed
  | countTooLarge
  | flagUnknown
  | flagRepeated
  | flagDangling
  | flagsUnclosed
  | nameInvalid
  | nameRepeated
  | lookAround
  | backReference
  | escapeUnknown
  | escapeUnclosed
  | codePointInvalid
  | wordConditionUnknown
  | propertyUnknown
  | setUnclosed
  | setRangeReversed
  | setMemberInvalid
  | needsBytes
  | needsUnicode
  | nestedTooDeep
  | tooLarge
deriving DecidableEq

end Highlight
