import Highlight.Text.CharSet
import Highlight.Text.Emoji
import Highlight.Text.GeneralCategory
import Highlight.Text.Letters
import Highlight.Text.Script

/-!
# Properties in written patterns

A property is named by a general category or a group of them, by a script, or by
a property of its own, in long or short form. Letter case, spaces, hyphens,
underscores and a leading `is` do not matter.
-/

namespace Highlight

set_option autoImplicit false

/-- The plain spelling of a property's name: small letters and digits only,
without a leading `is`, and without what lies outside ASCII. -/
def plainPropertyName (name : List Char) : String :=
  let plain (cs : List Char) : List Char :=
    (cs.filter fun c => c.toNat < 0x80 && c != ' ' && c != '_' && c != '-').map Char.toLower
  match name with
  | c :: d :: rest =>
      if (c = 'i' ∨ c = 'I') ∧ (d = 's' ∨ d = 'S') then
        let kept := plain rest
        if kept = ['c'] then "isc" else String.ofList kept
      else String.ofList (plain name)
  | _ => String.ofList (plain name)

/-- The set of a table. -/
def CharTable.set (table : CharTable) : CharSet := .property (.listed table)

open CharTable in
/-- The sets of the general categories, by long and short plain names. -/
def generalCategories : List (List String × CharSet) :=
  let letters := [uppercaseLetter, lowercaseLetter, titlecaseLetter]
  let marks := [nonspacingMark, spacingMark, enclosingMark]
  let numbers := [decimalNumber, letterNumber, otherNumber]
  let punctuation := [connectorPunctuation, dashPunctuation, openPunctuation, closePunctuation,
    initialPunctuation, finalPunctuation, otherPunctuation]
  let symbols := [mathSymbol, currencySymbol, modifierSymbol, otherSymbol]
  let separators := [spaceSeparator, lineSeparator, paragraphSeparator]
  let others := [control, format, privateUse]
  let join (tables : List CharTable) : CharSet := .unions (tables.map CharTable.set)
  let visible := join (letters ++ [modifierLetter, otherLetter] ++ marks ++ numbers ++
    punctuation ++ symbols ++ separators)
  let assigned := join (letters ++ [modifierLetter, otherLetter] ++ marks ++ numbers ++
    punctuation ++ symbols ++ separators ++ others)
  [ (["any"], .all),
    (["assigned"], assigned),
    (["ascii"], .ascii),
    (["l", "letter"], join (letters ++ [modifierLetter, otherLetter])),
    (["lc", "casedletter"], join letters),
    (["lu", "uppercaseletter"], uppercaseLetter.set),
    (["ll", "lowercaseletter"], lowercaseLetter.set),
    (["lt", "titlecaseletter"], titlecaseLetter.set),
    (["lm", "modifierletter"], modifierLetter.set),
    (["lo", "otherletter"], otherLetter.set),
    (["m", "mark", "combiningmark"], join marks),
    (["mn", "nonspacingmark"], nonspacingMark.set),
    (["mc", "spacingmark"], spacingMark.set),
    (["me", "enclosingmark"], enclosingMark.set),
    (["n", "number"], join numbers),
    (["nd", "decimalnumber", "digit"], decimalNumber.set),
    (["nl", "letternumber"], letterNumber.set),
    (["no", "othernumber"], otherNumber.set),
    (["p", "punctuation", "punct"], join punctuation),
    (["pc", "connectorpunctuation"], connectorPunctuation.set),
    (["pd", "dashpunctuation"], dashPunctuation.set),
    (["ps", "openpunctuation"], openPunctuation.set),
    (["pe", "closepunctuation"], closePunctuation.set),
    (["pi", "initialpunctuation"], initialPunctuation.set),
    (["pf", "finalpunctuation"], finalPunctuation.set),
    (["po", "otherpunctuation"], otherPunctuation.set),
    (["s", "symbol"], join symbols),
    (["sm", "mathsymbol"], mathSymbol.set),
    (["sc", "currencysymbol"], currencySymbol.set),
    (["sk", "modifiersymbol"], modifierSymbol.set),
    (["so", "othersymbol"], otherSymbol.set),
    (["z", "separator"], join separators),
    (["zs", "spaceseparator"], spaceSeparator.set),
    (["zl", "lineseparator"], lineSeparator.set),
    (["zp", "paragraphseparator"], paragraphSeparator.set),
    (["c", "other"], .compl visible),
    (["cc", "control", "cntrl"], control.set),
    (["cf", "format"], format.set),
    (["co", "privateuse"], privateUse.set),
    (["cs", "surrogate"], .none),
    (["cn", "unassigned"], .compl assigned) ]

/-- The sets of scripts, by long and short plain names. -/
def scriptSets : List (List String × CharSet) :=
  scripts.map fun (names, table) => (names, table.set)

open CharTable in
/-- Characters that identifiers begin with: letters, numbers that are letters, and
four more stretches. -/
def identifierStart : CharSet :=
  .diff
    (.unions ([uppercaseLetter, lowercaseLetter, titlecaseLetter, modifierLetter, otherLetter,
      letterNumber, [(0x1885, 0x1886), (0x2118, 0x2118), (0x212E, 0x212E),
      (0x309B, 0x309C)]].map CharTable.set))
    (.single (Char.ofNat 0x2E2F))

open CharTable in
/-- Characters that identifiers go on with: those they begin with, marks, digits,
connectors, and a few more. -/
def identifierPart : CharSet :=
  .unions (identifierStart :: [nonspacingMark, spacingMark, decimalNumber, connectorPunctuation,
    [(0xB7, 0xB7), (0x387, 0x387), (0x1369, 0x1371), (0x19DA, 0x19DA), (0x200C, 0x200D),
      (0x30FB, 0x30FB), (0xFF65, 0xFF65)]].map CharTable.set)

/-- Characters whose compatibility forms no identifier goes on with. -/
def unstableParts : CharTable := [(0x37A, 0x37A), (0x309B, 0x309C), (0xFC5E, 0xFC63),
  (0xFDFA, 0xFDFB), (0xFE70, 0xFE70), (0xFE72, 0xFE72), (0xFE74, 0xFE74), (0xFE76, 0xFE76),
  (0xFE78, 0xFE78), (0xFE7A, 0xFE7A), (0xFE7C, 0xFE7C), (0xFE7E, 0xFE7E)]

/-- Further characters whose compatibility forms no identifier begins with. -/
def unstableStarts : CharTable := [(0xE33, 0xE33), (0xEB3, 0xEB3), (0xFF9E, 0xFF9F)]

open CharTable in
/-- The sets of the properties that are neither a category nor a script, by long
and short plain names. -/
def characterProperties : List (List String × CharSet) :=
  [ (["alphabetic", "alpha"], alphabetic.set),
    (["uppercase", "upper"], uppercase.set),
    (["lowercase", "lower"], lowercase.set),
    (["whitespace", "wspace", "space"], .whiteSpace),
    (["cased"], cased.set),
    (["caseignorable", "ci"], caseIgnorable.set),
    (["idstart", "ids"], identifierStart),
    (["idcontinue", "idc"], identifierPart),
    (["xidstart", "xids"],
      .diff identifierStart (.union unstableParts.set unstableStarts.set)),
    (["xidcontinue", "xidc"], .diff identifierPart unstableParts.set),
    (["asciihexdigit", "ahex"], CharTable.set [(0x30, 0x39), (0x41, 0x46), (0x61, 0x66)]),
    (["hexdigit", "hex"], CharTable.set [(0x30, 0x39), (0x41, 0x46), (0x61, 0x66),
      (0xFF10, 0xFF19), (0xFF21, 0xFF26), (0xFF41, 0xFF46)]),
    (["emoji"], emoji.set),
    (["emojipresentation", "epres"], emojiPresentation.set),
    (["emojimodifier", "emod"], emojiModifier.set),
    (["emojimodifierbase", "ebase"], emojiModifierBase.set),
    (["emojicomponent", "ecomp"], emojiComponent.set) ]

/-- The set of the first entry that knows a plain name. -/
def lookupProperty (entries : List (List String × CharSet)) (name : String) : Option CharSet :=
  (entries.find? fun entry => entry.1.contains name).map (·.2)

/-- The set of a property given by its name, or by its kind and its name. -/
def namedProperty? (name : List Char) : Option CharSet :=
  let cut (sign : List Char) : Option (List Char × List Char) :=
    (List.range name.length).findSome? fun i =>
      if sign.isPrefixOf (name.drop i) then some (name.take i, name.drop (i + sign.length))
      else none
  let valued (kind value : List Char) : Option CharSet :=
    match plainPropertyName kind with
    | "gc" | "generalcategory" => lookupProperty generalCategories (plainPropertyName value)
    | "sc" | "script" => lookupProperty scriptSets (plainPropertyName value)
    | _ => none
  match cut ['!', '='] with
  | some (kind, value) => (valued kind value).map CharSet.compl
  | none =>
      match (cut [':']).or (cut ['=']) with
      | some (kind, value) => valued kind value
      | none =>
          let plain := plainPropertyName name
          lookupProperty (characterProperties ++ generalCategories ++ scriptSets) plain

end Highlight
