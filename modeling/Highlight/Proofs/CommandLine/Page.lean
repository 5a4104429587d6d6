import Highlight.CommandLine.Run
import Highlight.Proofs.Decoration.Additions
import Highlight.Proofs.Render.Page

/-!
# The page that the command shows

Asked for HTML, the command shows a page with the lines of the file. It does so for every
file that can be read, whatever the grammar is called and whether it is known
(`Request.failure_run_iff`): a registry's tokens always fit, and without tokens the lines
are shown as they are.

What stands behind the first tag says the text of the block and nothing else, whatever is
in the file, the arguments and the settings. The first tag has the name of the grammar in
it as it was given. The output is therefore a page, free of markup that comes from data,
exactly if none of the signs of markup is in that name (`Command.isPage_output_iff`).
-/

namespace Highlight

set_option autoImplicit false

open Html

namespace Request

/-- A request for a page: it asks for HTML, and neither for tokens nor for the settings to
be written. -/
structure ForPage (request : Request) : Prop where
  html : request.html = true
  tokens : request.tokens = false
  writeSettings : request.writeSettings = false

/-! ## The block -/

/-- A source text has at least one line. -/
theorem fragments_blockOf_ne_nil (settings : Settings) (grammar source : String) :
    (blockOf settings grammar source).fragments ≠ [] := by
  have some' : linesOf source ≠ [] := fun none =>
    parts_ne_nil lineBreak source.toList (List.pmap_eq_nil_iff.1 none)
  simp only [blockOf, Block.withData, Block.ofSource]
  cases isLines : linesOf source with
  | nil => exact absurd isLines some'
  | cons line rest => exact List.cons_ne_nil _ _

/-- The block of a file is decorated as it is when everything is tokenized anew, with a cache
or without. -/
theorem decorateBlock_blockOf (options : Options) (cached : Bool) (settings : Settings)
    (grammar source : String) :
    ((Decorator.new Registry.builtin.tokenizer { options with cached }).decorateBlock
        (blockOf settings grammar source)).1 =
      options.blockDecoration Registry.builtin.tokenizer (blockOf settings grammar source) := by
  let edits : List Edit :=
    [.ofSource settings.codeKind source, .withData 0 Block.grammarName grammar]
  have live : blockOf settings grammar source ∈ (Pool.empty.run edits).blocks :=
    List.mem_singleton.2 rfl
  have sound := Pool.sound_empty.run edits
  have serves : (Decorator.new Registry.builtin.tokenizer { options with cached }).Serves
      Registry.builtin.tokenizer options (Pool.empty.run edits) :=
    Decorator.serves_new cached
  exact (serves.decorateBlock sound live).1

/-- The block of a file is decorated without a fault. -/
theorem exists_decorateBlock_blockOf (options : Options) (settings : Settings)
    (grammar source : String) :
    ∃ texts, ((Decorator.new Registry.builtin.tokenizer options).decorateBlock
      (blockOf settings grammar source)).1 = .ok texts := by
  obtain ⟨texts, isOk⟩ := Options.exists_blockDecoration_eq_ok Registry.builtin options
    (blockOf settings grammar source)
  exact ⟨texts, (decorateBlock_blockOf options options.cached settings grammar source).trans isOk⟩

/-! ## The outcome -/

variable {request : Request} {surroundings : Surroundings}

/-- The lines that are shown when a page is asked for. -/
theorem showBlock_of_ok (html : request.html = true) {settings : Settings} {block : Block}
    {texts : List MarkedText}
    (isOk : ((Decorator.new Registry.builtin.tokenizer
      { Options.ofSettings settings with renderer := .html }).decorateBlock block).1 = .ok texts)
    (grammar : String) :
    request.showBlock settings block grammar =
      { output := Command.linesText
          (htmlHeading grammar :: texts.map Renderer.html.text ++ [htmlEnding]) } := by
  simp only [showBlock, html, if_true, isOk, List.singleton_append]

/-- **A readable file is shown as a page**, with lines that have the block's texts. -/
theorem exists_run_eq (forPage : request.ForPage) {path source : String}
    (file : request.file = some path) (read : surroundings.read path = .ok source) :
    let settings := request.settings surroundings
    let grammar := request.grammarFor settings path
    ∃ texts : List MarkedText, texts.map MarkedText.text =
        (blockOf settings grammar source).fragments.map Fragment.text ∧
      request.run surroundings =
        { output := Command.linesText
            (htmlHeading grammar :: texts.map Renderer.html.text ++ [htmlEnding]) } := by
  intro settings grammar
  obtain ⟨texts, isOk⟩ := exists_decorateBlock_blockOf
    { Options.ofSettings settings with renderer := .html } settings grammar source
  refine ⟨texts, Decorator.texts_of_decorateFragments isOk, ?_⟩
  rw [← showBlock_of_ok forPage.html isOk grammar]
  simp only [run, forPage.writeSettings, forPage.tokens, file, read, Bool.false_eq_true, if_false,
    settings, grammar]

/-- **A page is shown** exactly if a file is named and can be read. -/
theorem failure_run_iff (forPage : request.ForPage) :
    (request.run surroundings).failure = none ↔
      ∃ path source, request.file = some path ∧ surroundings.read path = .ok source := by
  constructor
  · intro success
    simp only [run, forPage.writeSettings, Bool.false_eq_true, if_false] at success
    split at success
    · cases success
    · next path file =>
      split at success
      · cases success
      · next source read => exact ⟨path, source, file, read⟩
  · rintro ⟨path, source, file, read⟩
    obtain ⟨texts, _, outcome⟩ := exists_run_eq forPage file read
    rw [outcome]

end Request

/-! ## The output -/

namespace Command

theorem toList_linesText (lines : List String) : (linesText lines).toList = closedLines lines := by
  have ending : "\n".toList = [lineBreak] := rfl
  simp only [linesText, String.toList_join, List.flatMap_map, String.toList_append, ending,
    closedLines]

theorem toList_htmlHeading (grammar : String) :
    (Request.htmlHeading grammar).toList =
      (Part.tag (preTag grammar.toList)).written ++ (Part.tag codeTag).written := by
  have beginning : "<pre class=\"language-".toList = '<' :: preStart := rfl
  have ending : "\"><code>".toList = '"' :: '>' :: (Part.tag codeTag).written := rfl
  calc (Request.htmlHeading grammar).toList
    _ = ("<pre class=\"language-" ++ grammar).toList ++ "\"><code>".toList := String.toList_append
    _ = '<' :: preStart ++ grammar.toList ++ '"' :: '>' :: (Part.tag codeTag).written :=
        congrArg₂ (· ++ ·) (String.toList_append.trans (congrArg (· ++ grammar.toList) beginning))
          ending
    _ = (Part.tag (preTag grammar.toList)).written ++ (Part.tag codeTag).written := by
        simp only [Part.written, preTag, List.append_assoc, List.cons_append, List.nil_append]

theorem toList_htmlEnding :
    Request.htmlEnding.toList = (Part.tag codeEnd).written ++ (Part.tag preEnd).written :=
  rfl

/-- The output is the first tag, as it is written, and the body of a page. -/
theorem toList_page (grammar : String) (texts : List MarkedText) :
    (linesText (Request.htmlHeading grammar :: texts.map Renderer.html.text ++
        [Request.htmlEnding])).toList =
      (Part.tag (preTag grammar.toList)).written ++
        (bodyParts (linesParts texts)).flatMap Part.written := by
  have ending : closedLines [Request.htmlEnding] =
      (Part.tag codeEnd).written ++ (Part.tag preEnd).written ++ [lineBreak] := by
    rw [closedLines_cons, toList_htmlEnding]
    rfl
  have split : closedLines (texts.map Renderer.html.text ++ [Request.htmlEnding]) =
      closedLines (texts.map Renderer.html.text) ++ closedLines [Request.htmlEnding] :=
    List.flatMap_append
  rw [toList_linesText, List.cons_append, closedLines_cons, split, ending, toList_htmlHeading,
    written_bodyParts]
  simp only [List.append_assoc, List.cons_append]

/-- **The page is free of foreign markup** exactly if the name of the grammar is. Whatever
the arguments, the settings and the file are, a successful command that was asked for a
page has read the file. What it prints behind the first tag is always the body of a page
that says the block's text. All that it prints is a page, with the name escaped in the
first tag, exactly if no sign of markup is in the name of the grammar. -/
theorem isPage_output_iff {arguments : List String} {request : Request}
    {surroundings : Surroundings} (isRun : ofArguments arguments = .ok (.run request))
    (forPage : request.ForPage) (success : (execute arguments surroundings).failure = none) :
    ∃ path source, request.file = some path ∧ surroundings.read path = .ok source ∧
      let settings := request.settings surroundings
      let grammar := request.grammarFor settings path
      let block := Request.blockOf settings grammar source
      let output := (execute arguments surroundings).output.toList
      (∃ body, output = (Part.tag (preTag grammar.toList)).written ++ body ∧
        IsPage [] body block.text) ∧
      (IsPage [.tag (preTag (escape grammar).toList)] output block.text ↔
        ∀ c ∈ grammar.toList, c ∉ signs) := by
  have executed : execute arguments surroundings = request.run surroundings := by
    simp only [execute, isRun]
  rw [executed] at success ⊢
  obtain ⟨path, source, file, read⟩ := (Request.failure_run_iff forPage).1 success
  obtain ⟨texts, same, outcome⟩ := Request.exists_run_eq forPage file read
  have lines : closedLines (texts.map MarkedText.text) =
      (Request.blockOf (request.settings surroundings)
        (request.grammarFor (request.settings surroundings) path) source).text.toList ++
        [lineBreak] := by
    rw [same, Block.text]
    refine closedLines_eq_joinLines fun none => ?_
    exact Request.fragments_blockOf_ne_nil _ _ source (List.map_eq_nil_iff.1 none)
  have isBody := isPage_body lines
  refine ⟨path, source, file, read, ?_⟩
  rw [outcome]
  intro settings grammar block output
  have shown : output = _ := toList_page grammar texts
  refine ⟨⟨_, shown, isBody⟩, ?_⟩
  rw [shown, toList_escape]
  exact isPage_heading_iff grammar.toList isBody

/-- The page for a file with a sign of markup in it. -/
theorem isPage_output_less_than :
    let surroundings : Surroundings := ⟨none, none, fun _ => .ok "a < b"⟩
    IsPage [.tag (preTag "c".toList)]
      (execute ["--html", "--syntax", "c", "a.c"] surroundings).output.toList "a < b" := by
  intro surroundings
  let request : Request := { file := some "a.c", grammar := some "c", html := true }
  have isRun : ofArguments ["--html", "--syntax", "c", "a.c"] = .ok (.run request) := rfl
  have forPage : request.ForPage := ⟨rfl, rfl, rfl⟩
  have success : (execute ["--html", "--syntax", "c", "a.c"] surroundings).failure = none := by
    simp only [execute, isRun]
    exact (Request.failure_run_iff forPage).2 ⟨"a.c", "a < b", rfl, rfl⟩
  have name : (escape "c").toList = "c".toList := by decide +kernel
  have text : (Request.blockOf (request.settings surroundings) "c" "a < b").text = "a < b" := rfl
  have clean : ∀ c ∈ "c".toList, c ∉ signs := List.forall_mem_singleton.2 (by decide)
  obtain ⟨path, source, file, read, _, page⟩ := isPage_output_iff isRun forPage success
  cases file
  cases read
  rw [← name, ← text]
  exact page.2 clean

/-- A name with markup in it ends the first tag and brings a tag of its own. -/
theorem output_with_foreign_tag :
    let surroundings : Surroundings := ⟨none, none, fun _ => .ok "x"⟩
    let outcome := execute ["--html", "--syntax", "\"><b>", "a.txt"] surroundings
    outcome.exitCode = 0 ∧
      outcome.output = "<pre class=\"language-\"><b>\"><code>\nx\n</code></pre>\n" ∧
      Part.tag ['b'] ∈ partsOf outcome.output.toList ∧
      ¬ IsPage [.tag (preTag (escape "\"><b>").toList)] outcome.output.toList "x" := by
  intro surroundings outcome
  have shown : outcome.exitCode = 0 ∧
      outcome.output = "<pre class=\"language-\"><b>\"><code>\nx\n</code></pre>\n" := by
    decide +kernel
  have read : ∃ rest, partsOf outcome.output.toList = .tag (preTag []) :: .tag ['b'] :: rest := by
    rw [shown.2]
    exact ⟨_, rfl⟩
  obtain ⟨rest, read⟩ := read
  refine ⟨shown.1, shown.2, ?_, fun isPage => ?_⟩
  · rw [read]
    exact List.mem_cons_of_mem _ List.mem_cons_self
  · obtain ⟨lines, _, expected⟩ := isPage.parts
    have same := Part.tag.inj (List.cons.inj (read.symm.trans expected)).1
    have differ : preTag [] ≠ preTag (escape "\"><b>").toList := by decide +kernel
    exact differ same

end Command

end Highlight
