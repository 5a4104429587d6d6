import Highlight.CommandLine.Arguments
import Mathlib.Logic.Basic
import Mathlib.Logic.ExistsUnique

/-!
# The units of a command line

A command line is cut from the left into units: flags, requests for help or for the version,
options with the value behind them, and names of files. What is none of these is a unit of its
own, as is an option whose value is missing at the end (`Cut`).

Each kind of unit begins with an argument of its own kind (`CommandUnit.Spelled.exists_head`), so
arguments begin with one unit only (`CommandUnit.Spelled.unique`), and there is exactly one way to
cut a command line (`Cut.exists_unique`).
-/

namespace Highlight

set_option autoImplicit false

/-! ## Units -/

/-- What a flag can switch on. -/
inductive Switch where
  | perLine
  | html
  | tokens
  | uncached
  | writeSettings
deriving DecidableEq

namespace Switch

/-- The spellings of a flag. -/
def spellings : Switch → List String
  | perLine => ["--per-line", "-l"]
  | html => ["--html"]
  | tokens => ["--tokens"]
  | uncached => ["--no-cache"]
  | writeSettings => ["--write-config"]

/-- The request with a switch on. -/
def turnOn : Switch → Request → Request
  | perLine => fun r => { r with perLine := true }
  | html => fun r => { r with html := true }
  | tokens => fun r => { r with tokens := true }
  | uncached => fun r => { r with uncached := true }
  | writeSettings => fun r => { r with writeSettings := true }

/-- Different switches make different requests of the one that asks for nothing. -/
theorem turnOn_injective {s other : Switch} (same : s.turnOn = other.turnOn) : s = other := by
  have requests := congrFun same {}
  cases s <;> cases other <;> cases requests <;> rfl

end Switch

/-- A unit of a command line. -/
inductive CommandUnit where
  | switch (s : Switch)
  | help
  | version
  | grammar (name : String)
  | file (name : String)
  | unknown (option : String)
  | unfinished (option : String)
deriving DecidableEq

namespace CommandUnit

/-- The spellings of a request for help. -/
def helpSpellings : List String := ["--help", "-h"]

/-- The spellings of a request for the version. -/
def versionSpellings : List String := ["--version", "-V"]

/-- The spellings of the option for the name of a grammar. -/
def grammarSpellings : List String := ["--syntax", "-s"]

/-- An argument that does not begin with a hyphen names a file, and so does a hyphen alone. -/
def NamesFile (argument : String) : Prop :=
  argument.toList.head? ≠ some '-' ∨ argument = "-"

instance (argument : String) : Decidable (NamesFile argument) := inferInstanceAs (Decidable (_ ∨ _))

/-- The arguments that some units consist of. -/
inductive Spelled : CommandUnit → List String → Prop where
  | switch {s : Switch} {argument : String} (known : argument ∈ s.spellings) :
      Spelled (switch s) [argument]
  | help {argument : String} (known : argument ∈ helpSpellings) : Spelled help [argument]
  | version {argument : String} (known : argument ∈ versionSpellings) : Spelled version [argument]
  | grammar {option : String} (known : option ∈ grammarSpellings) (name : String) :
      Spelled (grammar name) [option, name]
  | file {name : String} (names : NamesFile name) : Spelled (file name) [name]
  | unknown {option : String} (noFile : ¬ NamesFile option)
      (noSwitch : ∀ s : Switch, option ∉ s.spellings) (noHelp : option ∉ helpSpellings)
      (noVersion : option ∉ versionSpellings) (noGrammar : option ∉ grammarSpellings) :
      Spelled (unknown option) [option]

/-- The name of a grammar, if a unit gives one. -/
def grammar? : CommandUnit → Option String
  | grammar name => some name
  | _ => none

/-- The name of a file, if a unit gives one. -/
def file? : CommandUnit → Option String
  | file name => some name
  | _ => none

/-- Whether a unit is a flag, a grammar or a file. -/
def isOrdinary : CommandUnit → Bool
  | switch _ | grammar _ | file _ => true
  | _ => false

end CommandUnit

open CommandUnit (Spelled NamesFile helpSpellings versionSpellings grammarSpellings)

/-- Arguments cut into units from the left. An option for a grammar is not finished only if
nothing stands behind it. -/
inductive Cut : List String → List CommandUnit → Prop where
  | done : Cut [] []
  | next {unit : CommandUnit} {written rest : List String} {units : List CommandUnit}
      (spelled : Spelled unit written) (later : Cut rest units) :
      Cut (written ++ rest) (unit :: units)
  | unfinished {option : String} (known : option ∈ grammarSpellings) :
      Cut [option] [.unfinished option]

/-! ## What arguments are -/

namespace Argument

theorem ofString_of_switch {s : Switch} {argument : String} (known : argument ∈ s.spellings) :
    ofString argument = .flag s.turnOn := by
  cases s <;> simp only [Switch.spellings, List.mem_cons, List.not_mem_nil, or_false] at known
  case perLine => rcases known with rfl | rfl <;> rfl
  all_goals
    subst known
    rfl

theorem ofString_of_help {argument : String} (known : argument ∈ helpSpellings) :
    ofString argument = .help := by
  simp only [helpSpellings, List.mem_cons, List.not_mem_nil, or_false] at known
  exact if_pos known

theorem ofString_of_version {argument : String} (known : argument ∈ versionSpellings) :
    ofString argument = .version := by
  simp only [versionSpellings, List.mem_cons, List.not_mem_nil, or_false] at known
  rcases known with rfl | rfl <;> rfl

theorem ofString_of_grammar {argument : String} (known : argument ∈ grammarSpellings) :
    ofString argument = .grammar := by
  simp only [grammarSpellings, List.mem_cons, List.not_mem_nil, or_false] at known
  rcases known with rfl | rfl <;> rfl

theorem ofString_of_namesFile {argument : String} (names : NamesFile argument) :
    ofString argument = .file := by
  have other : ∀ option : String, ¬ NamesFile option → argument ≠ option := by
    rintro option noFile rfl
    exact noFile names
  have noOption : ¬ (argument.toList.head? = some '-' ∧ argument ≠ "-") := by
    rintro ⟨hyphen, more⟩
    exact names.elim (fun no => no hyphen) more
  simp only [ofString, other "--help" (by decide), other "-h" (by decide),
    other "--version" (by decide), other "-V" (by decide), other "--syntax" (by decide),
    other "-s" (by decide), other "--per-line" (by decide), other "-l" (by decide),
    other "--html" (by decide), other "--tokens" (by decide), other "--no-cache" (by decide),
    other "--write-config" (by decide), noOption, or_self, if_false]

theorem ofString_of_unknown {option : String} (noFile : ¬ NamesFile option)
    (noSwitch : ∀ s : Switch, option ∉ s.spellings) (noHelp : option ∉ helpSpellings)
    (noVersion : option ∉ versionSpellings) (noGrammar : option ∉ grammarSpellings) :
    ofString option = .unknown := by
  have perLine := noSwitch .perLine
  have html := noSwitch .html
  have tokens := noSwitch .tokens
  have uncached := noSwitch .uncached
  have writeSettings := noSwitch .writeSettings
  rw [NamesFile, not_or, not_not] at noFile
  simp only [Switch.spellings, helpSpellings, versionSpellings, grammarSpellings, List.mem_cons,
    List.not_mem_nil, or_false] at *
  simp only [ofString, noHelp, noVersion, noGrammar, perLine, html, tokens, uncached,
    writeSettings, noFile, if_false, not_false_eq_true, ne_eq, and_self, if_true]

end Argument

namespace CommandUnit

/-- What the first argument of a unit is. -/
def argument : CommandUnit → Argument
  | switch s => .flag s.turnOn
  | help => .help
  | version => .version
  | grammar _ => .grammar
  | file _ => .file
  | unknown _ => .unknown
  | unfinished _ => .grammar

variable {unit other : CommandUnit} {written more rest later : List String}

/-- A unit begins with an argument of its kind. -/
theorem Spelled.exists_head (spelled : Spelled unit written) :
    ∃ head tail, written = head :: tail ∧ Argument.ofString head = unit.argument := by
  cases spelled with
  | switch known => exact ⟨_, [], rfl, Argument.ofString_of_switch known⟩
  | help known => exact ⟨_, [], rfl, Argument.ofString_of_help known⟩
  | version known => exact ⟨_, [], rfl, Argument.ofString_of_version known⟩
  | grammar known name => exact ⟨_, [name], rfl, Argument.ofString_of_grammar known⟩
  | file names => exact ⟨_, [], rfl, Argument.ofString_of_namesFile names⟩
  | unknown noFile noSwitch noHelp noVersion noGrammar =>
      exact ⟨_, [], rfl,
        Argument.ofString_of_unknown noFile noSwitch noHelp noVersion noGrammar⟩

/-- **Arguments begin with one unit only.** -/
theorem Spelled.unique (first : Spelled unit written) (second : Spelled other more)
    (same : written ++ rest = more ++ later) : unit = other ∧ rest = later := by
  have kind : unit.argument = other.argument := by
    obtain ⟨head, tail, rfl, isFirst⟩ := first.exists_head
    obtain ⟨head', tail', rfl, isSecond⟩ := second.exists_head
    rw [List.cons_append, List.cons_append, List.cons.injEq] at same
    rw [← isFirst, ← isSecond, same.1]
  cases first <;> cases second <;> simp only [argument, reduceCtorEq] at kind <;>
    simp only [List.cons_append, List.nil_append, List.cons.injEq] at same
  case switch.switch s _ _ s' _ _ =>
    refine ⟨congrArg CommandUnit.switch (Switch.turnOn_injective ?_), same.2⟩
    exact Argument.flag.inj kind
  case help.help => exact ⟨rfl, same.2⟩
  case version.version => exact ⟨rfl, same.2⟩
  case grammar.grammar => exact ⟨congrArg CommandUnit.grammar same.2.1, same.2.2⟩
  case file.file => exact ⟨congrArg CommandUnit.file same.1, same.2⟩
  case unknown.unknown => exact ⟨congrArg CommandUnit.unknown same.1, same.2⟩

end CommandUnit

/-! ## Cutting -/

namespace Cut

variable {arguments : List String} {units others : List CommandUnit}

/-- An argument is a unit, or an option that takes the next argument as its value. -/
theorem spelled_or_mem (argument : String) :
    (∃ unit, Spelled unit [argument]) ∨ argument ∈ grammarSpellings := by
  by_cases names : NamesFile argument
  · exact Or.inl ⟨_, .file names⟩
  by_cases isSwitch : ∃ s : Switch, argument ∈ s.spellings
  · obtain ⟨s, known⟩ := isSwitch
    exact Or.inl ⟨_, .switch known⟩
  by_cases isHelp : argument ∈ helpSpellings
  · exact Or.inl ⟨_, .help isHelp⟩
  by_cases isVersion : argument ∈ versionSpellings
  · exact Or.inl ⟨_, .version isVersion⟩
  by_cases isGrammar : argument ∈ grammarSpellings
  · exact Or.inr isGrammar
  · exact Or.inl ⟨_, .unknown names (not_exists.1 isSwitch) isHelp isVersion isGrammar⟩

theorem exists_cut (arguments : List String) : ∃ units, Cut arguments units := by
  induction left : arguments.length using Nat.strongRecOn generalizing arguments with
  | ind left ih =>
      subst left
      cases arguments with
      | nil => exact ⟨[], done⟩
      | cons argument rest =>
          rcases spelled_or_mem argument with ⟨unit, spelled⟩ | isGrammar
          · obtain ⟨units, later⟩ := ih rest.length (Nat.lt_succ_self _) rest rfl
            exact ⟨unit :: units, next spelled later⟩
          · cases rest with
            | nil => exact ⟨_, unfinished isGrammar⟩
            | cons name more =>
                obtain ⟨units, later⟩ := ih more.length (by simp only [List.length_cons]; omega)
                  more rfl
                exact ⟨_, next (.grammar isGrammar name) later⟩

/-- A unit does not consist of an option that needs a value alone. -/
theorem not_spelled_singleton {unit : CommandUnit} {option : String} {rest : List String}
    {written : List String} (known : option ∈ grammarSpellings) (spelled : Spelled unit written)
    (same : written ++ rest = [option]) : False := by
  obtain ⟨head, tail, rfl, kind⟩ := spelled.exists_head
  rw [List.cons_append, List.cons.injEq] at same
  rw [same.1, Argument.ofString_of_grammar known] at kind
  cases spelled <;> simp only [CommandUnit.argument, reduceCtorEq] at kind
  cases same.2

/-- There is one way only to cut arguments. -/
theorem unique (cut : Cut arguments units) (other : Cut arguments others) : units = others := by
  induction cut generalizing others with
  | done =>
      generalize isNil : ([] : List String) = arguments at other
      cases other with
      | done => rfl
      | next spelled later =>
          obtain ⟨head, tail, rfl, -⟩ := spelled.exists_head
          cases isNil
      | unfinished known => cases isNil
  | @next unit written rest units spelled later ih =>
      generalize isCut : written ++ rest = arguments at other
      cases other with
      | done =>
          obtain ⟨head, tail, rfl, -⟩ := spelled.exists_head
          cases isCut
      | next spelled' later' =>
          obtain ⟨rfl, rfl⟩ := spelled.unique spelled' isCut
          rw [ih later']
      | unfinished known => exact (not_spelled_singleton known spelled isCut).elim
  | @unfinished option known =>
      generalize isOption : [option] = arguments at other
      cases other with
      | done => cases isOption
      | next spelled later => exact (not_spelled_singleton known spelled isOption.symm).elim
      | unfinished known' =>
          cases isOption
          rfl

/-- **There is exactly one way to cut arguments into units.** -/
theorem exists_unique (arguments : List String) : ∃! units, Cut arguments units := by
  obtain ⟨units, cut⟩ := exists_cut arguments
  exact ⟨units, cut, fun others other => other.unique cut⟩

end Cut

end Highlight
