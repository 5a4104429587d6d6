import Highlight.Proofs.CommandLine.Units
import Mathlib.Data.List.Induction

/-!
# What the units of a command line decide

A unit settles what a command is for if it asks for help or for the version, and if it is a
violation: an option that is not known or not finished, or a second file. Units are passed if
none of them settles anything behind those before it (`Passed`).

Reading ends at a unit that settles something (`Command.readAfter_of_settles`), and a unit that
is passed is added to the request (`Command.readAfter_of_passed`). So the first unit that settles
something decides, and if there is none, the request is what the units ask for
(`Command.ofArguments_eq_iff`).

For a request the order of the units matters only among names of grammars, of which the last one
counts (`Request.ofUnits_perm`).
-/

namespace Highlight

set_option autoImplicit false

open CommandUnit (Spelled grammarSpellings)

/-! ## What settles a command -/

/-- A unit is a violation behind some others. -/
inductive Violation (before : List CommandUnit) : CommandUnit → ArgumentError → Prop where
  | unknown (option : String) : Violation before (.unknown option) (.unknownOption option)
  | unfinished (option : String) : Violation before (.unfinished option) (.missingValue option)
  | secondFile {first name : String} (given : .file first ∈ before) :
      Violation before (.file name) .secondFile

/-- A unit settles what a command is for, or what is wrong with it, behind some others. -/
inductive Settles (before : List CommandUnit) :
    CommandUnit → Except ArgumentError Command → Prop where
  | help : Settles before .help (.ok .help)
  | version : Settles before .version (.ok .version)
  | violation {unit : CommandUnit} {error : ArgumentError} (wrong : Violation before unit error) :
      Settles before unit (.error error)

/-- None of some units settles anything behind those before it. -/
def Passed (units : List CommandUnit) : Prop :=
  ∀ before unit after outcome, units = before ++ unit :: after → ¬ Settles before unit outcome

/-- What units ask for that are no violations: each flag that is among them, the name of a grammar
that comes last, and the file. -/
def Request.ofUnits (units : List CommandUnit) : Request where
  file := (units.filterMap CommandUnit.file?).head?
  grammar := (units.filterMap CommandUnit.grammar?).getLast?
  perLine := decide (.switch .perLine ∈ units)
  html := decide (.switch .html ∈ units)
  tokens := decide (.switch .tokens ∈ units)
  uncached := decide (.switch .uncached ∈ units)
  writeSettings := decide (.switch .writeSettings ∈ units)

variable {before units others : List CommandUnit} {unit : CommandUnit}
  {outcome : Except ArgumentError Command}

theorem passed_nil : Passed [] := by
  intro before unit after outcome split
  exact absurd split.symm (List.append_ne_nil_of_right_ne_nil _ (List.cons_ne_nil _ _))

/-- One more unit is passed if it settles nothing behind the others. -/
theorem passed_concat_iff :
    Passed (before ++ [unit]) ↔ Passed before ∧ ∀ outcome, ¬ Settles before unit outcome := by
  constructor
  · intro passed
    refine ⟨?_, fun outcome => passed before unit [] outcome rfl⟩
    rintro first middle last outcome rfl
    apply passed first middle (last ++ [unit]) outcome
    rw [List.append_assoc, List.cons_append]
  · rintro ⟨passed, settlesNothing⟩ first middle last outcome split
    cases last using List.reverseRecOn with
    | nil =>
        obtain ⟨rfl, same⟩ := List.append_inj' split rfl
        cases same
        exact settlesNothing outcome
    | append_singleton last end' =>
        rw [← List.cons_append, ← List.append_assoc] at split
        obtain ⟨rfl, -⟩ := List.append_inj' split rfl
        exact passed first middle last outcome rfl

/-! ## Reading a unit -/

namespace Request

theorem file_ofUnits_ne_none_iff :
    (ofUnits units).file ≠ none ↔ ∃ name, CommandUnit.file name ∈ units := by
  rw [ofUnits, ne_eq, List.head?_eq_none_iff]
  constructor
  · intro some'
    obtain ⟨name, member⟩ := List.exists_mem_of_ne_nil _ some'
    obtain ⟨unit, isUnit, names⟩ := List.mem_filterMap.1 member
    cases unit <;> cases names
    exact ⟨name, isUnit⟩
  · rintro ⟨name, member⟩
    exact List.ne_nil_of_mem (List.mem_filterMap.2 ⟨_, member, rfl⟩)

theorem ofUnits_concat_switch (s : Switch) :
    ofUnits (before ++ [.switch s]) = s.turnOn (ofUnits before) := by
  cases s <;>
    simp [ofUnits, Switch.turnOn, List.filterMap_append, CommandUnit.file?, CommandUnit.grammar?]

theorem ofUnits_concat_grammar (name : String) :
    ofUnits (before ++ [.grammar name]) = { ofUnits before with grammar := some name } := by
  simp [ofUnits, List.filterMap_append, CommandUnit.file?, CommandUnit.grammar?]

theorem ofUnits_concat_file (name : String) (noFile : (ofUnits before).file = none) :
    ofUnits (before ++ [.file name]) = { ofUnits before with file := some name } := by
  have none : before.filterMap CommandUnit.file? = [] := List.head?_eq_none_iff.1 noFile
  simp [ofUnits, List.filterMap_append, CommandUnit.file?, CommandUnit.grammar?, none]

end Request

namespace Command

variable {written rest : List String}

/-- **Reading ends at a unit that settles something.** -/
theorem readAfter_of_settles (spelled : Spelled unit written)
    (settles : Settles before unit outcome) :
    readAfter (.ofUnits before) (written ++ rest) = outcome := by
  cases settles with
  | help =>
      cases spelled with
      | help known =>
          rw [List.singleton_append, readAfter.eq_def]
          simp only [Argument.ofString_of_help known]
  | version =>
      cases spelled with
      | version known =>
          rw [List.singleton_append, readAfter.eq_def]
          simp only [Argument.ofString_of_version known]
  | violation wrong =>
      cases wrong with
      | unknown option =>
          cases spelled with
          | unknown noFile noSwitch noHelp noVersion noGrammar =>
              rw [List.singleton_append, readAfter.eq_def]
              simp only
                [Argument.ofString_of_unknown noFile noSwitch noHelp noVersion noGrammar]
      | unfinished option => cases spelled
      | @secondFile first name given =>
          obtain ⟨other, isOther⟩ :=
            Option.ne_none_iff_exists'.1 (Request.file_ofUnits_ne_none_iff.2 ⟨first, given⟩)
          cases spelled with
          | file names =>
              rw [List.singleton_append, readAfter.eq_def]
              simp only [Argument.ofString_of_namesFile names, isOther]

/-- **Reading a unit that settles nothing adds it to the request.** -/
theorem readAfter_of_passed (spelled : Spelled unit written)
    (settlesNothing : ∀ outcome, ¬ Settles before unit outcome) :
    readAfter (.ofUnits before) (written ++ rest) =
      readAfter (.ofUnits (before ++ [unit])) rest := by
  cases spelled with
  | switch known =>
      rw [List.singleton_append, readAfter.eq_def, Request.ofUnits_concat_switch]
      simp only [Argument.ofString_of_switch known]
  | help known => exact absurd .help (settlesNothing _)
  | version known => exact absurd .version (settlesNothing _)
  | grammar known name =>
      rw [List.cons_append, readAfter.eq_def, Request.ofUnits_concat_grammar]
      simp only [Argument.ofString_of_grammar known, List.singleton_append]
  | @file name names =>
      have noFile : (Request.ofUnits before).file = none := by
        by_contra some'
        obtain ⟨first, given⟩ := Request.file_ofUnits_ne_none_iff.1 some'
        exact settlesNothing _ (.violation (.secondFile given))
      rw [List.singleton_append, readAfter.eq_def, Request.ofUnits_concat_file name noFile]
      simp only [Argument.ofString_of_namesFile names, noFile]
  | unknown => exact absurd (.violation (.unknown _)) (settlesNothing _)

end Command

/-! ## Reading all units -/

/-- What units decide: the first one that settles something has its outcome, and if there is none
they are a request. -/
inductive Decides (units : List CommandUnit) : Except ArgumentError Command → Prop where
  | settled {before after : List CommandUnit} {unit : CommandUnit}
      {outcome : Except ArgumentError Command} (split : units = before ++ unit :: after)
      (passed : Passed before) (settles : Settles before unit outcome) : Decides units outcome
  | request (passed : Passed units) : Decides units (.ok (.run (.ofUnits units)))

theorem Settles.unique {other : Except ArgumentError Command} (first : Settles before unit outcome)
    (second : Settles before unit other) : outcome = other := by
  cases first with
  | help =>
      cases second with
      | help => rfl
      | violation wrong => cases wrong
  | version =>
      cases second with
      | version => rfl
      | violation wrong => cases wrong
  | violation wrong =>
      cases wrong <;> cases second <;> rename_i wrong' <;> cases wrong' <;> rfl

/-- **Units decide one thing only.** -/
theorem Decides.unique {other : Except ArgumentError Command} (first : Decides units outcome)
    (second : Decides units other) : outcome = other := by
  cases first with
  | settled split passed settles =>
      cases second with
      | settled split' passed' settles' =>
          rw [split, List.append_eq_append_iff] at split'
          rcases split' with ⟨between, longer, rest⟩ | ⟨between, longer, rest⟩
          · cases between with
            | nil =>
                rw [List.append_nil] at longer
                cases rest
                exact settles.unique (longer ▸ settles')
            | cons unit more =>
                cases rest
                exact absurd settles (passed' _ _ _ _ longer)
          · cases between with
            | nil =>
                rw [List.append_nil] at longer
                cases rest
                exact settles.unique (longer ▸ settles')
            | cons unit more =>
                cases rest
                exact absurd settles' (passed _ _ _ _ longer)
      | request passed' => exact absurd settles (passed' _ _ _ _ split)
  | request passed =>
      cases second with
      | settled split passed' settles => exact absurd settles (passed _ _ _ _ split)
      | request => rfl

/-- Arguments behind some units that are passed have the outcome that all the units decide. -/
theorem Cut.decides {arguments : List String} (cut : Cut arguments units)
    (passed : Passed before) :
    Decides (before ++ units) (Command.readAfter (.ofUnits before) arguments) := by
  induction cut generalizing before with
  | done =>
      rw [List.append_nil]
      exact .request passed
  | @next unit written rest units spelled later ih =>
      by_cases nothing : ∀ outcome, ¬ Settles before unit outcome
      · have decided := ih (passed_concat_iff.2 ⟨passed, nothing⟩)
        rw [List.append_assoc, List.singleton_append] at decided
        rwa [Command.readAfter_of_passed spelled nothing]
      · simp only [not_forall, not_not] at nothing
        obtain ⟨outcome, settles⟩ := nothing
        rw [Command.readAfter_of_settles spelled settles]
        exact .settled rfl passed settles
  | @unfinished option known =>
      have missing : Command.readAfter (.ofUnits before) [option] =
          .error (.missingValue option) := by
        simp only [Command.readAfter, Argument.ofString_of_grammar known]
      rw [missing]
      exact .settled rfl passed (.violation (.unfinished option))

/-- **The outcome of arguments is what their units decide.** -/
theorem Command.ofArguments_eq_iff {arguments : List String} (cut : Cut arguments units) :
    ofArguments arguments = outcome ↔ Decides units outcome := by
  have decided : Decides units (ofArguments arguments) := cut.decides passed_nil
  constructor
  · rintro rfl
    exact decided
  · intro other
    exact decided.unique other

/-! ## The order of units -/

/-- A unit settles nothing exactly if it is a flag, a grammar or a file, and not a second file. -/
theorem settlesNothing_iff :
    (∀ outcome, ¬ Settles before unit outcome) ↔
      unit.isOrdinary = true ∧ (unit.file? = none ∨ before.filterMap CommandUnit.file? = []) := by
  constructor
  · intro settlesNothing
    cases unit with
    | switch s => exact ⟨rfl, Or.inl rfl⟩
    | grammar name => exact ⟨rfl, Or.inl rfl⟩
    | file name =>
        refine ⟨rfl, Or.inr ?_⟩
        by_contra some'
        obtain ⟨first, given⟩ :=
          Request.file_ofUnits_ne_none_iff.1 (mt List.head?_eq_none_iff.1 some')
        exact settlesNothing _ (.violation (.secondFile given))
    | help => exact absurd .help (settlesNothing _)
    | version => exact absurd .version (settlesNothing _)
    | unknown option => exact absurd (.violation (.unknown option)) (settlesNothing _)
    | unfinished option => exact absurd (.violation (.unfinished option)) (settlesNothing _)
  · rintro ⟨ordinary, alone⟩ outcome settles
    cases settles with
    | help => cases ordinary
    | version => cases ordinary
    | violation wrong =>
        cases wrong with
        | unknown option => cases ordinary
        | unfinished option => cases ordinary
        | @secondFile first name given =>
            have noFile := alone.resolve_left (Option.some_ne_none name)
            have member : first ∈ before.filterMap CommandUnit.file? :=
              List.mem_filterMap.2 ⟨_, given, rfl⟩
            rw [noFile] at member
            exact List.not_mem_nil member

/-- **Units are passed** exactly if each of them is a flag, a grammar or a file, and there is one
file at most. -/
theorem passed_iff :
    Passed units ↔ (∀ unit ∈ units, unit.isOrdinary = true) ∧
      (units.filterMap CommandUnit.file?).length ≤ 1 := by
  induction units using List.reverseRecOn with
  | nil => exact iff_of_true passed_nil ⟨fun _ member => absurd member List.not_mem_nil, by simp⟩
  | append_singleton before unit ih =>
      rw [passed_concat_iff, ih, settlesNothing_iff, List.forall_mem_append,
        List.forall_mem_singleton, List.filterMap_append, List.length_append]
      cases names : unit.file? with
      | none =>
          rw [List.filterMap_cons_none names, List.filterMap_nil, List.length_nil, Nat.add_zero]
          tauto
      | some name =>
          rw [List.filterMap_cons_some names, List.filterMap_nil, List.length_singleton,
            ← List.length_eq_zero_iff]
          simp only [reduceCtorEq, false_or]
          constructor
          · rintro ⟨⟨earlier, _⟩, ordinary, none⟩
            exact ⟨⟨earlier, ordinary⟩, by omega⟩
          · rintro ⟨⟨earlier, ordinary⟩, one⟩
            exact ⟨⟨earlier, by omega⟩, ordinary, by omega⟩

/-- Units that are passed are passed in any order. -/
theorem Passed.perm (passed : Passed units) (same : units.Perm others) : Passed others := by
  obtain ⟨ordinary, one⟩ := passed_iff.1 passed
  rw [(same.filterMap _).length_eq] at one
  exact passed_iff.2 ⟨fun unit member => ordinary unit (same.mem_iff.2 member), one⟩

/-- **Units in another order ask for the same**, if the names of grammars among them stay in
order. -/
theorem Request.ofUnits_perm (passed : Passed units) (same : units.Perm others)
    (inOrder : units.filterMap CommandUnit.grammar? = others.filterMap CommandUnit.grammar?) :
    ofUnits units = ofUnits others := by
  have files : units.filterMap CommandUnit.file? = others.filterMap CommandUnit.file? := by
    have one := (passed_iff.1 passed).2
    have sameFiles := same.filterMap CommandUnit.file?
    rcases names : units.filterMap CommandUnit.file? with _ | ⟨name, _ | ⟨second, more⟩⟩
    · rw [names] at sameFiles
      exact sameFiles.nil_eq
    · rw [names] at sameFiles
      exact (List.singleton_perm.1 sameFiles)
    · rw [names, List.length_cons, List.length_cons] at one
      omega
  simp only [ofUnits, files, inOrder, same.mem_iff]

namespace Command

/-- **Command lines are read by their units.** Every command line can be cut into units in one
way. It asks for help or for the version exactly if such a unit comes behind units that are
passed, and it is wrong exactly if a violation does, with the error of that violation. In all
other cases it is a request, for what its units ask for: each flag that is among them, the
grammar that is named last, and the file. The units of a request can be put in any other order
that keeps the names of grammars in order. -/
theorem outcome_of_units (arguments : List String) :
    (∃! units, Cut arguments units) ∧
    ∀ units, Cut arguments units →
      (ofArguments arguments = .ok .help ↔
        ∃ before after, units = before ++ .help :: after ∧ Passed before) ∧
      (ofArguments arguments = .ok .version ↔
        ∃ before after, units = before ++ .version :: after ∧ Passed before) ∧
      (∀ error, ofArguments arguments = .error error ↔
        ∃ before unit after, units = before ++ unit :: after ∧ Passed before ∧
          Violation before unit error) ∧
      (∀ request, ofArguments arguments = .ok (.run request) ↔
        Passed units ∧ request = .ofUnits units) ∧
      ∀ others rearranged, Passed units → units.Perm others →
        units.filterMap CommandUnit.grammar? = others.filterMap CommandUnit.grammar? →
        Cut rearranged others → ofArguments rearranged = ofArguments arguments := by
  refine ⟨Cut.exists_unique arguments, fun units cut => ⟨?_, ?_, ?_, ?_, ?_⟩⟩
  · rw [ofArguments_eq_iff cut]
    constructor
    · intro decided
      cases decided with
      | settled split passed settles =>
          cases settles
          exact ⟨_, _, split, passed⟩
    · rintro ⟨before, after, split, passed⟩
      exact .settled split passed .help
  · rw [ofArguments_eq_iff cut]
    constructor
    · intro decided
      cases decided with
      | settled split passed settles =>
          cases settles
          exact ⟨_, _, split, passed⟩
    · rintro ⟨before, after, split, passed⟩
      exact .settled split passed .version
  · intro error
    rw [ofArguments_eq_iff cut]
    constructor
    · intro decided
      cases decided with
      | settled split passed settles =>
          cases settles with
          | violation wrong => exact ⟨_, _, _, split, passed, wrong⟩
    · rintro ⟨before, unit, after, split, passed, wrong⟩
      exact .settled split passed (.violation wrong)
  · intro request
    rw [ofArguments_eq_iff cut]
    constructor
    · intro decided
      cases decided with
      | settled split passed settles => cases settles
      | request passed => exact ⟨passed, rfl⟩
    · rintro ⟨passed, rfl⟩
      exact .request passed
  · intro others rearranged passed same inOrder cut'
    have request : ofArguments arguments = .ok (.run (.ofUnits units)) :=
      (ofArguments_eq_iff cut).2 (.request passed)
    rw [request, ofArguments_eq_iff cut', Request.ofUnits_perm passed same inOrder]
    exact .request (passed.perm same)

/-- The name of a grammar may look like an option. Names of grammars change places with other
units, a flag can be spelled otherwise, and what stands behind a request for the version is not
looked at. -/
theorem outcome_of_units_rearranged :
    let request : Request := { file := some "a.c", grammar := some "c", perLine := true }
    ofArguments ["-s", "-V", "a.c", "-l", "--syntax", "c"] = .ok (.run request) ∧
      ofArguments ["--per-line", "-s", "-V", "--syntax", "c", "a.c"] = .ok (.run request) ∧
      ofArguments ["a.c", "-V", "b.c", "--bogus"] = .ok .version := by
  intro request
  have value (rest : List String) (units : List CommandUnit) (later : Cut rest units) :
      Cut ("-s" :: "-V" :: rest) (.grammar "-V" :: units) :=
    .next (.grammar (by decide) "-V") later
  have value' (rest : List String) (units : List CommandUnit) (later : Cut rest units) :
      Cut ("--syntax" :: "c" :: rest) (.grammar "c" :: units) :=
    .next (.grammar (by decide) "c") later
  have file (rest : List String) (units : List CommandUnit) (later : Cut rest units) :
      Cut ("a.c" :: rest) (.file "a.c" :: units) :=
    .next (.file (by decide)) later
  let units : List CommandUnit := [.grammar "-V", .file "a.c", .switch .perLine, .grammar "c"]
  have cut : Cut ["-s", "-V", "a.c", "-l", "--syntax", "c"] units :=
    value _ _ (file _ _ (.next (.switch (by decide)) (value' _ _ .done)))
  have passed : Passed units := passed_iff.2 ⟨by decide, by decide⟩
  obtain ⟨-, outcome⟩ := outcome_of_units ["-s", "-V", "a.c", "-l", "--syntax", "c"]
  obtain ⟨-, -, -, isRequest, reordered⟩ := outcome units cut
  have accepted := (isRequest request).2 ⟨passed, rfl⟩
  refine ⟨accepted, ?_, ?_⟩
  · rw [← accepted]
    refine reordered [.switch .perLine, .grammar "-V", .grammar "c", .file "a.c"] _ passed
      (by decide) rfl ?_
    exact .next (.switch (by decide)) (value _ _ (value' _ _ (file _ _ .done)))
  · have noSwitch : ∀ s : Switch, "--bogus" ∉ s.spellings := by
      intro s
      cases s <;> decide
    have bogus : Spelled (.unknown "--bogus") ["--bogus"] :=
      .unknown (by decide) noSwitch (by decide) (by decide) (by decide)
    have cut : Cut ["a.c", "-V", "b.c", "--bogus"]
        [.file "a.c", .version, .file "b.c", .unknown "--bogus"] :=
      file _ _ (.next (.version (by decide)) (.next (.file (by decide)) (.next bogus .done)))
    obtain ⟨-, outcome⟩ := outcome_of_units ["a.c", "-V", "b.c", "--bogus"]
    obtain ⟨-, isVersion, -⟩ := outcome _ cut
    exact isVersion.2 ⟨[.file "a.c"], _, rfl, passed_iff.2 ⟨by decide, by decide⟩⟩

end Command

end Highlight
