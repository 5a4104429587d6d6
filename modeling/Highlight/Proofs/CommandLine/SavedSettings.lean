import Highlight.CommandLine.Run
import Highlight.Proofs.Settings.RoundTrip

/-!
# The settings that the command saves

Asked to write the settings, the command takes those it finds, changes them as its flags say
and writes them. It can do so exactly if there is a home directory and no directory stands at
the place of the settings file; what else stands there does not matter
(`Request.exitCode_save_eq_zero_iff`).

The next command finds the settings as they were written (`Request.settings_after_save`). As
flags change nothing that they have already changed (`Request.override_override`), the same
command again writes the same file (`Command.settings_are_kept`).
-/

namespace Highlight

set_option autoImplicit false

namespace Surroundings

/-- The settings that a command finds: those of the settings file, and the standard ones where
there is no home directory for it. -/
def settings (surroundings : Surroundings) : Settings :=
  match surroundings.home with
  | some _ => Settings.ofFile surroundings.settingsFile
  | none => .standard

/-- What the next command finds: the settings file is the one that was written, if one was. -/
def after (surroundings : Surroundings) (outcome : Outcome) : Surroundings :=
  { surroundings with settingsFile := outcome.written.or surroundings.settingsFile }

/-- There is a place for the settings file at which a file can be written. -/
structure Writable (surroundings : Surroundings) : Prop where
  home : surroundings.home.isSome = true
  place : surroundings.settingsFile ≠ some .directory

end Surroundings

namespace Request

/-- Settings as the flags of a request change them. -/
def override (request : Request) (settings : Settings) : Settings :=
  { settings with
    perLine := settings.perLine || request.perLine
    cached := settings.cached && !request.uncached }

variable {request : Request} {surroundings : Surroundings}

/-- The settings in effect are those that are found, as the flags change them. -/
theorem settings_eq_override :
    request.settings surroundings = request.override surroundings.settings := rfl

/-- Flags change nothing that they have already changed. -/
theorem override_override (settings : Settings) :
    request.override (request.override settings) = request.override settings := by
  simp only [override, Bool.or_assoc, Bool.or_self, Bool.and_assoc, Bool.and_self]

/-! ## Saving -/

/-- The outcome if the settings can be written. -/
theorem exists_save_eq (writable : surroundings.Writable) :
    ∃ home, surroundings.home = some home ∧ request.save surroundings =
      { output := Command.linesText ["Wrote " ++ Settings.pathIn home]
        written := some (.ofText (request.override surroundings.settings).print) } := by
  obtain ⟨home, isHome⟩ := Option.isSome_iff_exists.1 writable.home
  refine ⟨home, isHome, ?_⟩
  simp only [save, isHome, Settings.save_eq_ok _ writable.place, settings_eq_override]

/-- **Saving succeeds** exactly if there is a place for the file. -/
theorem exitCode_save_eq_zero_iff :
    (request.save surroundings).exitCode = 0 ↔ surroundings.Writable := by
  constructor
  · intro success
    cases isHome : surroundings.home with
    | none =>
        simp only [save, isHome] at success
        cases success
    | some home =>
        refine ⟨by rw [isHome]; rfl, fun isDirectory => ?_⟩
        simp only [save, isHome, isDirectory, Settings.save] at success
        cases success
  · intro writable
    obtain ⟨home, -, outcome⟩ := request.exists_save_eq writable
    rw [outcome]
    rfl

/-- **The next command finds the settings that were saved.** -/
theorem settings_after_save (writable : surroundings.Writable) :
    (surroundings.after (request.save surroundings)).settings =
      request.override surroundings.settings := by
  obtain ⟨home, isHome, outcome⟩ := request.exists_save_eq writable
  simp only [outcome, Surroundings.after, Surroundings.settings, isHome, Option.some_or,
    Settings.ofFile_ofText_print]

/-- What is found after saving can be saved again. -/
theorem writable_after_save (writable : surroundings.Writable) :
    (surroundings.after (request.save surroundings)).Writable := by
  obtain ⟨home, isHome, outcome⟩ := request.exists_save_eq writable
  refine ⟨writable.home, ?_⟩
  simp only [outcome, Surroundings.after, Option.some_or, FileEntry.ofText]
  intro isDirectory
  cases isDirectory

/-- Saving again has the same outcome. -/
theorem save_after_save (writable : surroundings.Writable) :
    request.save (surroundings.after (request.save surroundings)) =
      request.save surroundings := by
  obtain ⟨home, isHome, outcome⟩ := request.exists_save_eq writable
  obtain ⟨again, isAgain, outcome'⟩ := request.exists_save_eq (request.writable_after_save writable)
  have same : again = home := Option.some.inj (isAgain.symm.trans isHome)
  rw [outcome', request.settings_after_save writable, override_override, outcome, same]

end Request

namespace Command

/-- **Settings are kept.** Settings are read as they were written, whatever is in their
strings, and found again at every place at which they can be saved. A command that is asked to
write the settings succeeds exactly if there is such a place. Whatever stood there, the next
command finds the settings found before, as the flags change them, and the same command again
has the same outcome, the file that is written included. -/
theorem settings_are_kept :
    (∀ settings : Settings, Settings.parse settings.print = .ok settings) ∧
    (∀ (settings : Settings) (place : Option FileEntry), place ≠ some .directory →
      ∃ entry, settings.save place = .ok entry ∧ Settings.ofFile (some entry) = settings) ∧
    ∀ (arguments : List String) (request : Request) (surroundings : Surroundings),
      ofArguments arguments = .ok (.run request) → request.writeSettings = true →
      let outcome := execute arguments surroundings
      let later := surroundings.after outcome
      (outcome.exitCode = 0 ↔ surroundings.Writable) ∧
        (outcome.exitCode = 0 →
          outcome.written.isSome = true ∧
          later.settings = request.override surroundings.settings ∧
          execute arguments later = outcome ∧
          (later.after (execute arguments later)).settingsFile = later.settingsFile) := by
  refine ⟨Settings.parse_print, ?_, ?_⟩
  · intro settings place notDirectory
    have saved := settings.save_eq_ok notDirectory
    exact ⟨_, saved, Settings.ofFile_of_save_eq_ok saved⟩
  · intro arguments request surroundings isRun writes outcome later
    have executed : ∀ found, execute arguments found = request.save found := by
      intro found
      simp only [execute, isRun, Request.run, writes, if_true]
    have isOutcome : outcome = request.save surroundings := executed surroundings
    have succeeds : outcome.exitCode = 0 ↔ surroundings.Writable := by
      rw [isOutcome]
      exact Request.exitCode_save_eq_zero_iff
    refine ⟨succeeds, fun success => ?_⟩
    have writable := succeeds.1 success
    have again : execute arguments later = outcome := by
      simp only [later, isOutcome, executed]
      exact Request.save_after_save writable
    obtain ⟨home, -, written⟩ := request.exists_save_eq writable
    refine ⟨?_, ?_, again, ?_⟩
    · rw [isOutcome, written]
      rfl
    · simp only [later, isOutcome]
      exact Request.settings_after_save writable
    · rw [again]
      simp only [later, isOutcome, written, Surroundings.after, Option.some_or]

/-- A grammar is named with quotes of both kinds, three in a row, a backslash, a line break
and control characters. -/
theorem settings_are_kept_quotes :
    let settings : Settings := { grammar := "'''\"\"\"\\\r\n\t\x00" }
    let surroundings : Surroundings :=
      ⟨some "/root", some (.ofText settings.print), fun _ => .error .notFound⟩
    let arguments := ["-l", "--no-cache", "--write-config"]
    let outcome := execute arguments surroundings
    let later := surroundings.after outcome
    outcome.exitCode = 0 ∧
      later.settings = { settings with perLine := true, cached := false } ∧
      execute arguments later = outcome := by
  intro settings surroundings arguments outcome later
  obtain ⟨-, saved, kept⟩ := settings_are_kept
  let request : Request := { perLine := true, uncached := true, writeSettings := true }
  have isRun : ofArguments arguments = .ok (.run request) := rfl
  obtain ⟨succeeds, success⟩ := kept arguments request surroundings isRun rfl
  have found : surroundings.settings = settings := by
    obtain ⟨entry, isEntry, found⟩ := saved settings none nofun
    cases isEntry
    exact found
  have writable : surroundings.Writable := ⟨rfl, nofun⟩
  obtain ⟨-, changed, again, -⟩ := success (succeeds.2 writable)
  rw [found] at changed
  exact ⟨succeeds.2 writable, changed, again⟩

end Command

end Highlight
