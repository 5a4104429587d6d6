import Highlight.Proofs.Json.Reading
import Highlight.Token.Json

/-!
# Tokens through JSON and back

An empty alias is none to the reader, and all else about a token is kept
(`Token.ofJson_toJson`, `Token.withoutEmptyAliases`). So a row of tokens is read back from
its print, compact or spread, if its JSON is not nested too deep (`Token.parse_print_array`,
`Token.parse_print`, `Token.parse_printSpread`).

What has been read of any JSON is tame: it has no empty alias, and its own JSON is nested
no deeper than the one it was read from (`Token.Tame`, `Token.tameSource`). A row of tokens
that has been read can therefore be written and read again, and nothing is lost
(`Token.tame_parse`, `Token.json_round_trip`).
-/

namespace Highlight

set_option autoImplicit false

namespace Token

/-! ## Aliases -/

mutual

/-- The aliases in a token. -/
def aliases : Token → List String
  | literal _ => []
  | leaf _ secondName _ => secondName.toList
  | node _ secondName children => secondName.toList ++ aliasesAll children

/-- The aliases in a row of tokens. -/
def aliasesAll : List Token → List String
  | [] => []
  | t :: rest => t.aliases ++ aliasesAll rest

end

mutual

/-- A token with no alias in place of each empty one. -/
def withoutEmptyAliases : Token → Token
  | literal text => literal text
  | leaf category secondName text => leaf category (secondName.filter (· ≠ "")) text
  | node category secondName children =>
      node category (secondName.filter (· ≠ "")) (withoutEmptyAliasesAll children)

/-- A row of tokens with no alias in place of each empty one. -/
def withoutEmptyAliasesAll : List Token → List Token
  | [] => []
  | t :: rest => t.withoutEmptyAliases :: withoutEmptyAliasesAll rest

end

theorem notMem_aliasesAll_iff {ts : List Token} :
    "" ∉ aliasesAll ts ↔ ∀ t ∈ ts, "" ∉ t.aliases := by
  induction ts with
  | nil => simp [aliasesAll]
  | cons t rest ih => simp [aliasesAll, ih]

theorem filter_of_notMem {secondName : Option String} (none' : "" ∉ secondName.toList) :
    secondName.filter (· ≠ "") = secondName := by
  cases secondName with
  | none => rfl
  | some name =>
      have given : name ≠ "" := fun same => none' (same ▸ List.mem_singleton_self name)
      exact Option.filter_some_pos (decide_eq_true given)

mutual

/-- Where no alias is empty, none is taken away. -/
theorem withoutEmptyAliases_of_notMem :
    ∀ t : Token, "" ∉ t.aliases → t.withoutEmptyAliases = t
  | literal _, _ => rfl
  | leaf category secondName text, none' => by
      rw [withoutEmptyAliases, filter_of_notMem none']
  | node category secondName children, none' => by
      rw [aliases, List.mem_append, not_or] at none'
      rw [withoutEmptyAliases, filter_of_notMem none'.1,
        withoutEmptyAliasesAll_of_notMem children none'.2]

theorem withoutEmptyAliasesAll_of_notMem :
    ∀ ts : List Token, "" ∉ aliasesAll ts → withoutEmptyAliasesAll ts = ts
  | [], _ => rfl
  | t :: rest, none' => by
      rw [aliasesAll, List.mem_append, not_or] at none'
      rw [withoutEmptyAliasesAll, withoutEmptyAliases_of_notMem t none'.1,
        withoutEmptyAliasesAll_of_notMem rest none'.2]

end

/-! ## From tokens to JSON and back -/

theorem textual_typedJson (category : String) (secondName : Option String) {content : Json}
    (textual : content.Textual) : (typedJson category secondName content).Textual := by
  cases secondName with
  | none =>
      refine .object fun field member => ?_
      simp only [List.mem_cons, List.not_mem_nil, or_false] at member
      rcases member with rfl | rfl
      · exact .string category
      · exact textual
  | some name =>
      refine .object fun field member => ?_
      simp only [List.mem_cons, List.not_mem_nil, or_false] at member
      rcases member with rfl | rfl | rfl
      · exact .string category
      · exact .string name
      · exact textual

mutual

theorem textual_toJson : ∀ t : Token, t.toJson.Textual
  | literal text => .string text
  | leaf category secondName text => by
      rw [toJson]
      exact textual_typedJson category secondName (.string text)
  | node category secondName children => by
      rw [toJson]
      exact textual_typedJson category secondName (.array (textual_toJsonAll children))

theorem textual_toJsonAll : ∀ ts : List Token, ∀ value ∈ toJsonAll ts, value.Textual
  | [], _, member => absurd member List.not_mem_nil
  | t :: rest, value, member => by
      rcases List.mem_cons.1 member with rfl | later
      · exact textual_toJson t
      · exact textual_toJsonAll rest value later

end

theorem nonEmpty_eq_filter (name : String) : nonEmpty name = (some name).filter (· ≠ "") := by
  rw [nonEmpty, Option.filter_some]
  by_cases empty : name = ""
  · simp only [empty, ne_eq, not_true_eq_false, decide_false, if_true, Bool.false_eq_true,
      if_false]
  · simp only [empty, ne_eq, not_false_eq_true, decide_true, if_true, if_false]

/-- The object for a token is read as its category, its alias unless that is empty, and
its content. -/
theorem ofJson_typedJson (category : String) (secondName : Option String) {value : Json}
    {content : Content} (isRead : contentOf value = .ok content) :
    ofJson (typedJson category secondName value) =
      .ok (ofContent category (secondName.filter (· ≠ "")) content) := by
  cases secondName with
  | none => simp [typedJson, ofJson, partsOf, isRead, bind, Except.bind]
  | some name =>
      simp only [← nonEmpty_eq_filter]
      simp [typedJson, ofJson, partsOf, aliasOf, isRead, bind, Except.bind]

mutual

/-- A token is read back, but for empty aliases. -/
theorem ofJson_toJson : ∀ t : Token, ofJson t.toJson = .ok t.withoutEmptyAliases
  | literal text => by rw [toJson, ofJson, withoutEmptyAliases]
  | leaf category secondName text => by
      rw [toJson, ofJson_typedJson category secondName (contentOf.eq_1 text), withoutEmptyAliases]
      rfl
  | node category secondName children => by
      have isRead : contentOf (.array (toJsonAll children)) =
          .ok (.tokens (withoutEmptyAliasesAll children)) := by
        rw [contentOf, ofJsonAll_toJsonAll children]
        rfl
      rw [toJson, ofJson_typedJson category secondName isRead, withoutEmptyAliases]
      rfl

theorem ofJsonAll_toJsonAll : ∀ ts : List Token,
    ofJsonAll (toJsonAll ts) = .ok (withoutEmptyAliasesAll ts)
  | [] => by rw [toJsonAll, ofJsonAll, withoutEmptyAliasesAll]
  | t :: rest => by
      rw [toJsonAll, ofJsonAll, ofJson_toJson t, ofJsonAll_toJsonAll rest, withoutEmptyAliasesAll]
      rfl

end

/-- The tokens read of some values are that of the first and those of the others. -/
theorem exists_of_ofJsonAll_cons {value : Json} {rest : List Json} {ts : List Token}
    (areRead : ofJsonAll (value :: rest) = .ok ts) :
    ∃ t more, ofJson value = .ok t ∧ ofJsonAll rest = .ok more ∧ ts = t :: more := by
  rw [ofJsonAll] at areRead
  obtain ⟨t, isRead, areRead⟩ := exists_of_bind_eq_ok areRead
  obtain ⟨more, areMore, isOk⟩ := exists_of_bind_eq_ok areRead
  exact ⟨t, more, isRead, areMore, (Except.ok.inj isOk).symm⟩

/-! ## From a print to tokens -/

section Steps

variable {fuel : Nat} {first : Bool} {read : List Token} {text inner behind rest : List Char}

theorem readTokens_done (next : Json.nextElement first text = .ok (.done rest)) :
    readTokens (fuel + 1) first read text = .ok (read.reverse, rest) := by
  rw [readTokens, next]
  rfl

theorem readTokens_member {value : Json} {t : Token}
    (next : Json.nextElement first text = .ok (.member inner))
    (isRead : Json.readValue (2 * inner.length + 2) (Json.levelLimit - 1) inner =
      .ok (value, behind))
    (isToken : ofJson value = .ok t) :
    readTokens (fuel + 1) first read text = readTokens fuel false (t :: read) behind := by
  rw [readTokens]
  simp only [next, isRead, isToken, bind, Except.bind]

end Steps

section Print

variable (layout : Json.Layout)

/-- An element is read from its print, whatever stands behind. -/
theorem readValue_print_element {value : Json} (textual : value.Textual)
    (within : value.levels ≤ Json.levelLimit - 1) (level : Nat) (rest : List Char) :
    Json.readValue (2 * (layout.print level value ++ rest).length + 2) (Json.levelLimit - 1)
      (layout.print level value ++ rest) = .ok (value, rest) := by
  refine textual.readable layout level _ _ rest ?_ within
  rw [List.length_append]
  omega

/-- The tokens behind the first are read up to the end of the array. -/
theorem readTokens_print {elements : List Json} {ts : List Token}
    (textual : ∀ value ∈ elements, value.Textual)
    (within : ∀ value ∈ elements, value.levels ≤ Json.levelLimit - 1)
    (areTokens : ofJsonAll elements = .ok ts) (level : Nat) {fuel : Nat} (read : List Token)
    (rest : List Char) (enough : (layout.printElements level elements).length ≤ fuel) :
    readTokens fuel false read (layout.printElements level elements ++ rest) =
      .ok (read.reverse ++ ts, rest) := by
  induction elements generalizing fuel read ts with
  | nil =>
      rw [Json.Layout.printElements, List.length_append, List.length_singleton] at enough
      obtain ⟨steps, rfl⟩ := Nat.exists_eq_add_of_le' (Nat.le_of_add_left_le enough)
      have next := Json.nextElement_end (layout.blankGap level) rest false
      cases areTokens
      rw [Json.Layout.printElements, List.append_assoc, List.singleton_append,
        readTokens_done next, List.append_nil]
  | cons value others ih =>
      obtain ⟨t, more, isToken, areMore, rfl⟩ := exists_of_ofJsonAll_cons areTokens
      obtain ⟨textualHere, textualLater⟩ := List.forall_mem_cons.1 textual
      obtain ⟨withinHere, withinLater⟩ := List.forall_mem_cons.1 within
      rw [Json.Layout.printElements, List.length_append, List.length_append,
        List.length_cons] at enough
      obtain ⟨steps, rfl⟩ : ∃ steps, fuel = steps + 1 := Nat.exists_eq_add_of_le' (by omega)
      have next := textualHere.nextElement_behind layout (level + 1)
        (layout.printElements level others ++ rest)
      have isRead := readValue_print_element layout textualHere withinHere (level + 1)
        (layout.printElements level others ++ rest)
      have later := ih textualLater withinLater areMore (t :: read)
        (by omega : (layout.printElements level others).length ≤ steps)
      simp only [Json.Layout.printElements, List.cons_append, List.append_assoc]
      rw [readTokens_member next isRead isToken, later, List.reverse_cons, List.append_assoc,
        List.singleton_append]

/-- The tokens of an array are read from behind its bracket up to its end. -/
theorem readTokens_print_array {elements : List Json} {ts : List Token}
    (textual : ∀ value ∈ elements, value.Textual)
    (within : ∀ value ∈ elements, value.levels ≤ Json.levelLimit - 1)
    (areTokens : ofJsonAll elements = .ok ts) (level : Nat) (rest : List Char) :
    ∃ behind, layout.print level (.array elements) ++ rest = '[' :: behind ∧
      readTokens (behind.length + 1) true [] behind = .ok (ts, rest) := by
  cases elements with
  | nil =>
      have noBlanks : ∀ c ∈ ([] : List Char), Json.isBlank c = true := List.forall_mem_nil _
      cases areTokens
      rw [Json.Layout.print]
      exact ⟨']' :: rest, rfl, readTokens_done (Json.nextElement_end noBlanks rest true)⟩
  | cons value others =>
      obtain ⟨t, more, isToken, areMore, rfl⟩ := exists_of_ofJsonAll_cons areTokens
      obtain ⟨textualHere, textualLater⟩ := List.forall_mem_cons.1 textual
      obtain ⟨withinHere, withinLater⟩ := List.forall_mem_cons.1 within
      have next := textualHere.nextElement_first layout (level + 1)
        (layout.printElements level others ++ rest)
      have isRead := readValue_print_element layout textualHere withinHere (level + 1)
        (layout.printElements level others ++ rest)
      refine ⟨layout.gap (level + 1) ++
        (layout.print (level + 1) value ++ (layout.printElements level others ++ rest)), ?_, ?_⟩
      · simp only [Json.Layout.print, List.cons_append, List.append_assoc]
      · rw [readTokens_member next isRead isToken]
        refine readTokens_print layout textualLater withinLater areMore level [t] rest ?_
        simp only [List.length_append]
        omega

/-- **A row of tokens is read from the print of its JSON**, in any layout and with white
space behind it, if it is nested within the limit. -/
theorem parse_print_array {elements : List Json} {ts : List Token}
    (textual : ∀ value ∈ elements, value.Textual)
    (within : (Json.array elements).levels ≤ Json.levelLimit)
    (areTokens : ofJsonAll elements = .ok ts) (level : Nat) {blanks : List Char}
    (blank : ∀ c ∈ blanks, Json.isBlank c = true) :
    parse (String.ofList (layout.print level (.array elements) ++ blanks)) = .ok ts := by
  have inside : ∀ value ∈ elements, value.levels ≤ Json.levelLimit - 1 :=
    Json.levelsOfElements_le_iff.1 (Nat.le_sub_one_of_lt within)
  obtain ⟨behind, print, areRead⟩ :=
    readTokens_print_array layout textual inside areTokens level blanks
  have nothing : Json.skipBlanks blanks = [] := by
    have whole := Json.skipBlanks_append blank []
    rwa [List.append_nil] at whole
  have isEnd : Json.readEnd blanks = .ok () := by
    rw [Json.readEnd, nothing]
    rfl
  rw [parse, String.toList_ofList, print, Json.skipBlanks_cons (by decide)]
  simp only [areRead, isEnd, bind, Except.bind, pure, Except.pure]

end Print

/-- A row of tokens is read back from its compact print, but for empty aliases. -/
theorem parse_print {ts : List Token}
    (within : (Json.array (toJsonAll ts)).levels ≤ Json.levelLimit) :
    parse (print ts) = .ok (withoutEmptyAliasesAll ts) := by
  have noBlanks : ∀ c ∈ ([] : List Char), Json.isBlank c = true := List.forall_mem_nil _
  have whole := parse_print_array .compact (textual_toJsonAll ts) within (ofJsonAll_toJsonAll ts) 0
    noBlanks
  rwa [List.append_nil, ← Json.compact_eq_print] at whole

/-- So it is from the print spread over lines, and a line break behind. -/
theorem parse_printSpread {ts : List Token}
    (within : (Json.array (toJsonAll ts)).levels ≤ Json.levelLimit) :
    parse (printSpread ts ++ "\n") = .ok (withoutEmptyAliasesAll ts) := by
  have lineBreak : ∀ c ∈ ['\n'], Json.isBlank c = true := List.forall_mem_singleton.2 rfl
  have whole := parse_print_array .spread (textual_toJsonAll ts) within (ofJsonAll_toJsonAll ts) 0
    lineBreak
  rw [← Json.spread_eq_print, String.ofList_append] at whole
  exact whole

/-! ## What has been read -/

/-- A token without empty aliases whose JSON is nested no deeper than so much. -/
structure Tame (t : Token) (limit : Nat) : Prop where
  levels : t.toJson.levels ≤ limit
  aliases : "" ∉ t.aliases

namespace Content

/-- Content as JSON. -/
def json : Content → Json
  | .text raw => .string raw
  | .tokens ts => .array (toJsonAll ts)

/-- The aliases in content. -/
def aliases : Content → List String
  | .text _ => []
  | .tokens ts => aliasesAll ts

/-- Content without empty aliases whose JSON is nested no deeper than so much. -/
structure Tame (content : Content) (limit : Nat) : Prop where
  levels : content.json.levels ≤ limit
  aliases : "" ∉ content.aliases

end Content

theorem levels_typedJson (category : String) (secondName : Option String) (content : Json) :
    (typedJson category secondName content).levels = content.levels + 1 := by
  cases secondName with
  | none => simp [typedJson, Json.levels, Json.levelsOfFields]
  | some name => simp [typedJson, Json.levels, Json.levelsOfFields]

/-- A token is tame if its content is and its alias is not empty. -/
theorem Content.Tame.ofContent {content : Content} {limit : Nat} (tame : content.Tame limit)
    {secondName : Option String} (given : secondName ≠ some "") (category : String) :
    (ofContent category secondName content).Tame (limit + 1) := by
  have notAlias : "" ∉ secondName.toList := fun member => given (Option.mem_toList.1 member)
  cases content with
  | text text =>
      refine ⟨?_, notAlias⟩
      show (typedJson category secondName (.string text)).levels ≤ limit + 1
      rw [levels_typedJson]
      exact Nat.succ_le_succ tame.levels
  | tokens ts =>
      refine ⟨?_, ?_⟩
      · show (typedJson category secondName (.array (toJsonAll ts))).levels ≤ limit + 1
        rw [levels_typedJson]
        exact Nat.succ_le_succ tame.levels
      · show "" ∉ secondName.toList ++ aliasesAll ts
        exact fun member => (List.mem_append.1 member).elim notAlias tame.aliases

theorem toJsonAll_eq_map (ts : List Token) : toJsonAll ts = ts.map toJson := by
  induction ts with
  | nil => rfl
  | cons t rest ih => rw [toJsonAll, ih, List.map_cons]

/-- A row of tame tokens is tame content. -/
theorem tame_tokens {ts : List Token} {limit : Nat} (tame : ∀ t ∈ ts, t.Tame limit) :
    (Content.tokens ts).Tame (limit + 1) := by
  refine ⟨?_, notMem_aliasesAll_iff.2 fun t member => (tame t member).aliases⟩
  refine Nat.succ_le_succ (Json.levelsOfElements_le_iff.2 ?_)
  rw [toJsonAll_eq_map]
  intro value member
  obtain ⟨t, present, rfl⟩ := List.mem_map.1 member
  exact (tame t present).levels

/-- No alias that has been read is empty. -/
theorem ne_of_aliasOf {value : Json} {secondName : Option String}
    (isRead : aliasOf value = .ok secondName) : secondName ≠ some "" := by
  have given : ∀ name, nonEmpty name ≠ some "" := by
    intro name same
    rw [nonEmpty_eq_filter, Option.filter_eq_some_iff] at same
    exact of_decide_eq_true same.2 rfl
  unfold aliasOf at isRead
  split at isRead
  · cases isRead
    exact fun none' => nomatch none'
  · cases isRead
    exact given _
  · split at isRead
    · cases isRead
      exact given _
    · cases isRead
  · cases isRead

/-- Whatever is read of a value, as a token or as content, is tame within its levels. -/
structure TameSource (value : Json) : Prop where
  token : ∀ {t : Token}, ofJson value = .ok t → t.Tame value.levels
  content : ∀ {content : Content}, contentOf value = .ok content → content.Tame value.levels

theorem Tame.mono {t : Token} {limit higher : Nat} (tame : t.Tame limit) (le : limit ≤ higher) :
    t.Tame higher :=
  ⟨Nat.le_trans tame.levels le, tame.aliases⟩

theorem Content.Tame.mono {content : Content} {limit higher : Nat} (tame : content.Tame limit)
    (le : limit ≤ higher) : content.Tame higher :=
  ⟨Nat.le_trans tame.levels le, tame.aliases⟩

/-- The tokens read of some values are tame within the levels of the deepest. -/
theorem tame_ofJsonAll {elements : List Json} {ts : List Token} {limit : Nat}
    (sources : ∀ value ∈ elements, TameSource value)
    (within : ∀ value ∈ elements, value.levels ≤ limit) (areRead : ofJsonAll elements = .ok ts) :
    ∀ t ∈ ts, t.Tame limit := by
  induction elements generalizing ts with
  | nil =>
      cases areRead
      exact fun _ member => absurd member List.not_mem_nil
  | cons value rest ih =>
      obtain ⟨first, more, isRead, areMore, rfl⟩ := exists_of_ofJsonAll_cons areRead
      obtain ⟨sourceHere, sourcesLater⟩ := List.forall_mem_cons.1 sources
      obtain ⟨withinHere, withinLater⟩ := List.forall_mem_cons.1 within
      intro t member
      rcases List.mem_cons.1 member with rfl | later
      · exact (sourceHere.token isRead).mono withinHere
      · exact ih sourcesLater withinLater areMore t later

/-- Parts of a token that are tame so far. -/
structure Parts.Tame (parts : Parts) (limit : Nat) : Prop where
  secondName : parts.secondName ≠ some (some "")
  content : ∀ content, parts.content = some content → content.Tame limit

/-- The parts read of some fields are tame within the levels of the deepest. -/
theorem tame_partsOf {fields : List (String × Json)} {limit : Nat} {parts result : Parts}
    (sources : ∀ field ∈ fields, TameSource field.2)
    (within : ∀ field ∈ fields, field.2.levels ≤ limit) (tame : parts.Tame limit)
    (areRead : partsOf fields parts = .ok result) : result.Tame limit := by
  induction fields generalizing parts with
  | nil =>
      cases areRead
      exact tame
  | cons field rest ih =>
      obtain ⟨name, value⟩ := field
      obtain ⟨sourceHere, sourcesLater⟩ := List.forall_mem_cons.1 sources
      obtain ⟨withinHere, withinLater⟩ := List.forall_mem_cons.1 within
      have later := fun parts : Parts => @ih parts sourcesLater withinLater
      unfold partsOf at areRead
      split at areRead
      · split at areRead
        · refine later _ ?_ areRead
          exact ⟨tame.secondName, tame.content⟩
        · cases areRead
      split at areRead
      · split at areRead
        · next secondName isRead _ =>
          refine later _ ?_ areRead
          exact ⟨fun same => ne_of_aliasOf isRead (Option.some.inj same), tame.content⟩
        · cases areRead
      split at areRead
      · split at areRead
        · next content isRead _ =>
          have isTame := (sourceHere.content isRead).mono withinHere
          refine later _ ?_ areRead
          exact ⟨tame.secondName, fun _ same => Option.some.inj same ▸ isTame⟩
        · cases areRead
      · exact later parts tame areRead

/-- An array is tame if its elements are. -/
theorem tameSource_array {elements : List Json}
    (sources : ∀ value ∈ elements, TameSource value) : TameSource (.array elements) := by
  have within := Json.levelsOfElements_le_iff.1 (Nat.le_refl (Json.levelsOfElements elements))
  refine ⟨?_, ?_⟩
  · intro t isRead
    rw [ofJson.eq_def] at isRead
    split at isRead
    · next same => cases same
    · next category secondName content same =>
      cases same
      obtain ⟨name, isAlias, isRead⟩ := exists_of_bind_eq_ok isRead
      obtain ⟨inner, isContent, isOk⟩ := exists_of_bind_eq_ok isRead
      cases isOk
      have last : content ∈ [Json.string category, secondName, content] := by simp
      exact (((sources content last).content isContent).mono (within content last)).ofContent
        (ne_of_aliasOf isAlias) category
    · next same => cases same
    · cases isRead
  · intro content isRead
    rw [contentOf] at isRead
    obtain ⟨ts, areRead, isOk⟩ := exists_of_bind_eq_ok isRead
    cases isOk
    exact tame_tokens (tame_ofJsonAll sources within areRead)

/-- An object is tame if the values of its fields are. -/
theorem tameSource_object {fields : List (String × Json)}
    (sources : ∀ field ∈ fields, TameSource field.2) : TameSource (.object fields) := by
  have within := Json.levelsOfFields_le_iff.1 (Nat.le_refl (Json.levelsOfFields fields))
  refine ⟨?_, ?_⟩
  · intro t isRead
    rw [ofJson] at isRead
    obtain ⟨parts, areRead, isRead⟩ := exists_of_bind_eq_ok isRead
    have nothing : Parts.Tame ⟨none, none, none⟩ (Json.levelsOfFields fields) :=
      ⟨(fun none' => nomatch none'), fun _ none' => nomatch none'⟩
    have tame := tame_partsOf sources within nothing areRead
    split at isRead
    · next category content _ isContent =>
      cases isRead
      refine (tame.content content isContent).ofContent ?_ category
      intro same
      cases found : parts.secondName with
      | none => rw [found] at same; cases same
      | some secondName =>
          rw [found] at same
          exact tame.secondName (found.trans (congrArg some same))
    · cases isRead
  · intro content isRead
    rw [contentOf.eq_def] at isRead
    cases isRead

theorem tameSource_of_error {value : Json} (noToken : ofJson value = .error .mismatched)
    (noContent : contentOf value = .error .mismatched) : TameSource value := by
  refine ⟨?_, ?_⟩
  · intro t isRead
    cases noToken.symm.trans isRead
  · intro content isRead
    cases noContent.symm.trans isRead

theorem tameSource (value : Json) : TameSource value := by
  induction value using Json.induction with
  | string text =>
      refine ⟨?_, ?_⟩
      · intro t isRead
        rw [ofJson] at isRead
        cases isRead
        exact ⟨Nat.le_refl _, List.not_mem_nil⟩
      · intro content isRead
        rw [contentOf] at isRead
        cases isRead
        exact ⟨Nat.le_refl _, List.not_mem_nil⟩
  | array elements ih => exact tameSource_array ih
  | object fields ih => exact tameSource_object ih
  | null => exact tameSource_of_error rfl rfl
  | bool b => exact tameSource_of_error rfl rfl
  | number spelling => exact tameSource_of_error rfl rfl

/-- The tokens read of the elements of an array are tame, one level below the limit. -/
theorem tame_readTokens {fuel : Nat} {first : Bool} {read ts : List Token}
    {text rest : List Char} (areRead : readTokens fuel first read text = .ok (ts, rest))
    (before : ∀ t ∈ read, t.Tame (Json.levelLimit - 1)) :
    ∀ t ∈ ts, t.Tame (Json.levelLimit - 1) := by
  induction fuel generalizing first read text with
  | zero =>
      rw [readTokens] at areRead
      cases areRead
  | succ fuel ih =>
      rw [readTokens] at areRead
      obtain ⟨next, _, areRead⟩ := exists_of_bind_eq_ok areRead
      cases next with
      | done behind =>
          cases areRead
          exact fun t member => before t (List.mem_reverse.1 member)
      | member inner =>
          obtain ⟨⟨value, behind⟩, isValue, areRead⟩ := exists_of_bind_eq_ok areRead
          obtain ⟨t, isToken, areRead⟩ := exists_of_bind_eq_ok areRead
          refine ih areRead ?_
          intro other member
          rcases List.mem_cons.1 member with rfl | earlier
          · exact ((tameSource value).token isToken).mono (Json.levels_le_of_readValue isValue)
          · exact before other earlier

/-- A row of tokens that has been read is tame. -/
theorem tame_parse {text : String} {ts : List Token} (isRead : parse text = .ok ts) :
    (Content.tokens ts).Tame Json.levelLimit := by
  rw [parse] at isRead
  split at isRead
  · obtain ⟨⟨tokens, behind⟩, areRead, isRead⟩ := exists_of_bind_eq_ok isRead
    obtain ⟨_, _, isOk⟩ := exists_of_bind_eq_ok isRead
    cases isOk
    exact tame_tokens (tame_readTokens areRead fun _ member => absurd member List.not_mem_nil)
  · split at isRead
    · cases isRead
    · obtain ⟨_, _, isRead⟩ := exists_of_bind_eq_ok isRead
      cases isRead
  · cases isRead

/-- **Tokens through JSON and back.** A row of tokens whose JSON has at most 127 levels is
read back from its print with no alias in place of each empty one, and with nothing else
changed. What has been read of any text has no empty alias, and from its own print the same
tokens are read. -/
theorem json_round_trip :
    (∀ ts : List Token, (Json.array (toJsonAll ts)).levels ≤ 127 →
      parse (print ts) = .ok (withoutEmptyAliasesAll ts)) ∧
    ∀ (text : String) (ts : List Token), parse text = .ok ts →
      "" ∉ aliasesAll ts ∧ parse (print ts) = .ok ts := by
  refine ⟨fun ts within => parse_print within, ?_⟩
  intro text ts isRead
  have tame := tame_parse isRead
  refine ⟨tame.aliases, ?_⟩
  rw [parse_print tame.levels, withoutEmptyAliasesAll_of_notMem ts tame.aliases]

/-- A token with an empty alias around one with a quotation mark, and a token given as an
array with a list of aliases. -/
theorem json_round_trip_alias_list :
    (Json.array (toJsonAll
        [.node "tag" (some "") [.leaf "name" (some "b c") "\"", .literal "a\n"]])).levels ≤ 127 ∧
      parse (print [.node "tag" (some "") [.leaf "name" (some "b c") "\"", .literal "a\n"]]) =
        .ok [.node "tag" none [.leaf "name" (some "b c") "\"", .literal "a\n"]] ∧
      parse "[[\"x\",[\"a\",\"b\"],\"y\"]]" = .ok [.leaf "x" (some "a b") "y"] ∧
      parse (print [.leaf "x" (some "a b") "y"]) = .ok [.leaf "x" (some "a b") "y"] := by
  have within : (Json.array (toJsonAll
      [.node "tag" (some "") [.leaf "name" (some "b c") "\"", .literal "a\n"]])).levels ≤ 127 := by
    decide
  have listed : parse "[[\"x\",[\"a\",\"b\"],\"y\"]]" = .ok [.leaf "x" (some "a b") "y"] := by
    have noBlanks : ∀ c ∈ ([] : List Char), Json.isBlank c = true := List.forall_mem_nil _
    have names : (Json.array [.string "a", .string "b"]).Textual := by
      refine .array ?_
      simp only [List.forall_mem_cons]
      exact ⟨.string "a", .string "b", fun _ none' => nomatch none'⟩
    have textual : ∀ value ∈ [Json.array [.string "x", .array [.string "a", .string "b"],
        .string "y"]], value.Textual := by
      rw [List.forall_mem_singleton]
      refine .array ?_
      simp only [List.forall_mem_cons]
      exact ⟨.string "x", names, .string "y", fun _ none' => nomatch none'⟩
    have areTokens : ofJsonAll [.array [.string "x", .array [.string "a", .string "b"],
        .string "y"]] = .ok [.leaf "x" (some "a b") "y"] := by rfl
    exact parse_print_array .compact textual (by decide) areTokens 0 noBlanks
  exact ⟨within, json_round_trip.1 _ within, listed, (json_round_trip.2 _ _ listed).2⟩

end Token

end Highlight
