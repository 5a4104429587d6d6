import Highlight.Proofs.CommandLine.Page
import Highlight.Proofs.Document.LineEndings
import Highlight.Proofs.Render.Terminal

/-!
# The colors that the command shows

Asked for nothing else, the command shows a file in the colors of a terminal. It does so for
every file that can be read, whatever the grammar and the settings are
(`Request.exists_run_terminal_eq`).

If there is no escape sign in the file, what is seen of the output is the text of the block
and a line break: colors add control sequences and nothing else, and no line is lost. The
cache never shows: with it or without it the outcome is the same
(`Request.run_uncached`), as what a decorator comes to does not depend on it.
-/

namespace Highlight

set_option autoImplicit false

namespace Request

/-- A request for the colors of a terminal: it asks neither for HTML nor for tokens, nor for
the settings to be written. -/
structure ForTerminal (request : Request) : Prop where
  html : request.html = false
  tokens : request.tokens = false
  writeSettings : request.writeSettings = false

variable {request : Request} {surroundings : Surroundings} {path source : String}

/-- A readable file is shown by its block. -/
theorem run_eq_showBlock (forTerminal : request.ForTerminal) (file : request.file = some path)
    (read : surroundings.read path = .ok source) :
    let settings := request.settings surroundings
    let grammar := request.grammarFor settings path
    request.run surroundings =
      request.showBlock settings (blockOf settings grammar source) grammar := by
  simp only [run, forTerminal.writeSettings, forTerminal.tokens, file, read, Bool.false_eq_true,
    if_false]

/-- **A readable file is shown in colors**, line by line. -/
theorem exists_run_terminal_eq (forTerminal : request.ForTerminal)
    (file : request.file = some path) (read : surroundings.read path = .ok source) :
    let settings := request.settings surroundings
    let grammar := request.grammarFor settings path
    ∃ texts : List MarkedText, texts.map MarkedText.text =
        (blockOf settings grammar source).fragments.map Fragment.text ∧
      request.run surroundings =
        { output := Command.linesText (texts.map (Renderer.terminal .standard).text) } := by
  intro settings grammar
  obtain ⟨texts, isOk⟩ := exists_decorateBlock_blockOf
    { Options.ofSettings settings with renderer := .terminal .standard } settings grammar source
  refine ⟨texts, Decorator.texts_of_decorateFragments isOk, ?_⟩
  rw [run_eq_showBlock forTerminal file read]
  simp only [showBlock, forTerminal.html, Bool.false_eq_true, if_false, settings, grammar] at isOk ⊢
  rw [isOk]
  simp only [List.nil_append, List.append_nil]

/-! ## The text that is seen -/

/-- Every character of the block's lines is one of the file or a line break. -/
theorem notMem_text_blockOf {c : Char} (notMem : c ∉ source.toList) (settings : Settings)
    (grammar : String) : c ∉ (blockOf settings grammar source).text.toList :=
  fun member => notMem (Block.mem_of_mem_text_ofSource settings.codeKind .full member)

/-- The lines of the block, one below the other. -/
theorem closedLines_of_texts {texts : List MarkedText} {settings : Settings} {grammar : String}
    (same : texts.map MarkedText.text =
      (blockOf settings grammar source).fragments.map Fragment.text) :
    closedLines (texts.map MarkedText.text) =
      (blockOf settings grammar source).text.toList ++ [lineBreak] := by
  rw [same, Block.text]
  refine closedLines_eq_joinLines fun none => ?_
  exact fragments_blockOf_ne_nil settings grammar source (List.map_eq_nil_iff.1 none)

/-! ## The cache -/

/-- A block is shown in the same way with the cache and without it. -/
theorem showBlock_cached (request : Request) (settings : Settings) (cached : Bool)
    (grammar source : String) :
    request.showBlock { settings with cached } (blockOf settings grammar source) grammar =
      request.showBlock settings (blockOf settings grammar source) grammar := by
  let options : Options := { Options.ofSettings settings with
    renderer := if request.html then .html else .terminal .standard }
  have same := (decorateBlock_blockOf options cached settings grammar source).trans
    (decorateBlock_blockOf options settings.cached settings grammar source).symm
  simp only [showBlock, Options.ofSettings, options] at same ⊢
  rw [same]

/-- **The cache never shows.** A request that asks for it not to be used, or does not, has the
same outcome. -/
theorem run_uncached (forTerminal : request.ForTerminal) (file : request.file = some path)
    (read : surroundings.read path = .ok source) (uncached : Bool) :
    ({ request with uncached } : Request).run surroundings = request.run surroundings := by
  have other : ({ request with uncached } : Request).ForTerminal :=
    ⟨forTerminal.html, forTerminal.tokens, forTerminal.writeSettings⟩
  rw [run_eq_showBlock other file read, run_eq_showBlock forTerminal file read]
  exact showBlock_cached request (request.settings surroundings) _ _ source

end Request

namespace Command

/-! ## The flag for no cache -/

/-- A flag does not depend on the one for no cache. -/
theorem set_uncached {text : String} {set : Request → Request}
    (isFlag : Argument.ofString text = .flag set) (request : Request) :
    set { request with uncached := true } = { set request with uncached := true } := by
  simp only [Argument.ofString] at isFlag
  repeat' split at isFlag
  all_goals cases isFlag
  all_goals rfl

/-- Arguments ask for the same after the flag for no cache, and for no cache. -/
theorem readAfter_uncached {request result : Request} {arguments : List String}
    (isRun : readAfter request arguments = .ok (.run result)) :
    readAfter { request with uncached := true } arguments =
      .ok (.run { result with uncached := true }) := by
  fun_induction readAfter request arguments with
  | case1 request =>
      cases isRun
      rfl
  | case2 | case3 | case5 | case7 | case8 => cases isRun
  | case4 request argument rest set isFlag ih =>
      rw [readAfter.eq_def]
      simp only [isFlag, set_uncached isFlag]
      exact ih isRun
  | case6 request argument rest isFile noFile ih =>
      rw [readAfter.eq_def]
      simp only [isFile, noFile]
      exact ih isRun
  | case9 request argument isGrammar value rest ih =>
      rw [readAfter.eq_def]
      simp only [isGrammar]
      exact ih isRun

/-- The flag for no cache in front of arguments. -/
theorem ofArguments_uncached {arguments : List String} {request : Request}
    (isRun : ofArguments arguments = .ok (.run request)) :
    ofArguments ("--no-cache" :: arguments) = .ok (.run { request with uncached := true }) :=
  readAfter_uncached isRun

/-- **Colors are all that is added to the text.** Whatever the grammar, the settings and the
flags for lines and for the cache are, a command that is to show a readable file without
escape signs succeeds. Without its control sequences the output is the text of the block and
a line break. The outcome is the same with the flag for no cache in front, and for any other
arguments that ask for the same with the cache or without. -/
theorem output_shows_text {arguments : List String} {request : Request}
    {surroundings : Surroundings} (isRun : ofArguments arguments = .ok (.run request))
    (forTerminal : request.ForTerminal) {path source : String} (file : request.file = some path)
    (read : surroundings.read path = .ok source) (noEscape : escapeSign ∉ source.toList) :
    let settings := request.settings surroundings
    let grammar := request.grammarFor settings path
    let block := Request.blockOf settings grammar source
    let outcome := execute arguments surroundings
    outcome.exitCode = 0 ∧ visible outcome.output.toList = block.text.toList ++ [lineBreak] ∧
      execute ("--no-cache" :: arguments) surroundings = outcome ∧
      ∀ other uncached, ofArguments other = .ok (.run { request with uncached }) →
        execute other surroundings = outcome := by
  intro settings grammar block outcome
  have executed : outcome = request.run surroundings := by
    simp only [outcome, execute, isRun]
  obtain ⟨texts, same, shown⟩ := Request.exists_run_terminal_eq forTerminal file read
  have lines : closedLines (texts.map MarkedText.text) = block.text.toList ++ [lineBreak] :=
    Request.closedLines_of_texts same
  have clean : escapeSign ∉ closedLines (texts.map MarkedText.text) := by
    rw [lines, List.mem_append, not_or]
    exact ⟨Request.notMem_text_blockOf noEscape settings grammar, by decide⟩
  have alike (other : List String) (uncached : Bool)
      (isOther : ofArguments other = .ok (.run { request with uncached })) :
      execute other surroundings = outcome := by
    rw [executed, ← Request.run_uncached forTerminal file read uncached]
    simp only [execute, isOther]
  refine ⟨?_, ?_, alike _ true (ofArguments_uncached isRun), alike⟩
  · rw [executed, shown]
    rfl
  · rw [executed, shown, toList_linesText, Renderer.visible_closedLines_terminal _ clean, lines]

/-- A keyword in a file with Windows line endings, line by line. -/
theorem output_shows_text_keyword :
    let surroundings : Surroundings := ⟨none, none, fun _ => .ok "let x\r\n"⟩
    let outcome := execute ["-l", "a.js"] surroundings
    outcome.exitCode = 0 ∧ visible outcome.output.toList = "let x\n\n".toList ∧
      execute ["--no-cache", "-l", "a.js"] surroundings = outcome := by
  intro surroundings outcome
  let request : Request := { file := some "a.js", perLine := true }
  have isRun : ofArguments ["-l", "a.js"] = .ok (.run request) := rfl
  have read : surroundings.read "a.js" = .ok "let x\r\n" := rfl
  have noEscape : escapeSign ∉ "let x\r\n".toList := by decide
  have text : (Request.blockOf (request.settings surroundings)
      (request.grammarFor (request.settings surroundings) "a.js") "let x\r\n").text =
      "let x\n" := by
    decide +kernel
  have whole := output_shows_text isRun ⟨rfl, rfl, rfl⟩ rfl read noEscape
  simp only [text] at whole
  exact ⟨whole.1, whole.2.1, whole.2.2.1⟩

end Command

end Highlight
