import Highlight.CommandLine.Run
import Highlight.Proofs.Decoration.Failure
import Highlight.Proofs.Grammar.Depth
import Highlight.Proofs.Grammar.Naming

/-!
# The token tree that the command shows

Asked for tokens, the command prints the tokens of the file's text as JSON spread over lines.
It does so whenever the file can be read and a language of the grammar's name is known, and
fails without output if none is (`Request.run_of_known`, `Request.run_of_unknown`).

The rules of the languages are nested so little, and name their aliases so, that what is
printed is read back as the very tokens that the tokenizer gave, and these have the text that
was tokenized (`Command.tokens_read_back`).
-/

namespace Highlight

set_option autoImplicit false

namespace Request

/-- A request for tokens: it asks for them, and not for the settings to be written. -/
structure ForTokens (request : Request) : Prop where
  tokens : request.tokens = true
  writeSettings : request.writeSettings = false

variable {request : Request} {surroundings : Surroundings} (forTokens : request.ForTokens)
  {path source : String} (file : request.file = some path)
  (read : surroundings.read path = .ok source)
include forTokens file read

/-- A readable file is asked for the tokens of its block. -/
theorem run_eq_showTokens :
    request.run surroundings =
      showTokens
        (blockOf (request.settings surroundings)
          (request.grammarFor (request.settings surroundings) path) source)
        (request.grammarFor (request.settings surroundings) path) := by
  simp only [run, forTokens.writeSettings, forTokens.tokens, file, read, Bool.false_eq_true,
    if_false, if_true]

/-- Where the grammar is known its tokens are shown. -/
theorem run_of_known {g : Grammar}
    (known : Registry.builtin.get? (request.grammarFor (request.settings surroundings) path) =
      some g) :
    request.run surroundings =
      { output := Command.linesText [Token.printSpread (g.tokenize
          (blockOf (request.settings surroundings)
            (request.grammarFor (request.settings surroundings) path) source).text)] } := by
  rw [run_eq_showTokens forTokens file read, showTokens, Registry.tokenizer, known]
  rfl

/-- Where it is not known the command fails. -/
theorem run_of_unknown
    (unknown : Registry.builtin.get? (request.grammarFor (request.settings surroundings) path) =
      none) :
    request.run surroundings =
      .failed (.unknownGrammar (request.grammarFor (request.settings surroundings) path)) := by
  rw [run_eq_showTokens forTokens file read, showTokens, Registry.tokenizer, unknown]
  rfl

end Request

namespace Command

theorem linesText_singleton (line : String) : linesText [line] = line ++ "\n" := by
  rw [linesText, List.map_singleton, String.join_cons, String.join_nil, String.append_empty]

/-- **The tokens that are shown are read back.** Whatever the file, the arguments and the
settings are, a command that was asked for the tokens of a readable file succeeds exactly if
the name of the grammar is known. From its output the tokens are read that the tokenizer
gives for the text of the block, and that text is theirs. -/
theorem tokens_read_back {arguments : List String} {request : Request}
    {surroundings : Surroundings} (isRun : ofArguments arguments = .ok (.run request))
    (forTokens : request.ForTokens) {path source : String} (file : request.file = some path)
    (read : surroundings.read path = .ok source) :
    let settings := request.settings surroundings
    let grammar := request.grammarFor settings path
    let block := Request.blockOf settings grammar source
    let outcome := execute arguments surroundings
    (outcome.exitCode = 0 ↔ (Registry.builtin.get? grammar).isSome = true) ∧
      ((Registry.builtin.get? grammar).isSome = true →
        ∃ tokens, Registry.builtin.tokenizer block.text grammar = some tokens ∧
          Token.parse outcome.output = .ok tokens ∧ Token.textAll tokens = block.text) := by
  intro settings grammar block outcome
  have executed : outcome = request.run surroundings := by
    simp only [outcome, execute, isRun]
  cases known : Registry.builtin.get? grammar with
  | none =>
      rw [executed, Request.run_of_unknown forTokens file read known]
      refine ⟨⟨?_, ?_⟩, ?_⟩
      · intro success
        cases success
      · intro isSome
        cases isSome
      · intro isSome
        cases isSome
  | some g =>
      have plain : g.Plain := Language.plain_grammars g (Registry.mem_of_get? known)
      have tokens : Registry.builtin.tokenizer block.text grammar =
          some (g.tokenize block.text) := by
        rw [Registry.tokenizer, known, Option.map_some]
      rw [executed, Request.run_of_known forTokens file read known]
      refine ⟨⟨fun _ => rfl, fun _ => rfl⟩, fun _ => ⟨_, tokens, ?_, g.textAll_tokenize block.text⟩⟩
      show Token.parse (linesText [Token.printSpread (g.tokenize block.text)]) = _
      rw [linesText_singleton]
      exact plain.parse_printSpread_tokenize block.text

/-- The tokens of a tag with an attribute, by the grammar for the file's extension. -/
theorem tokens_read_back_tag :
    let surroundings : Surroundings := ⟨none, none, fun _ => .ok "<b c=\"d\">\r\n"⟩
    let outcome := execute ["--tokens", "a.html"] surroundings
    outcome.exitCode = 0 ∧ ∃ tokens,
      Registry.builtin.tokenizer "<b c=\"d\">\n" "markup" = some tokens ∧
        Token.parse outcome.output = .ok tokens ∧ Token.textAll tokens = "<b c=\"d\">\n" := by
  intro surroundings outcome
  let request : Request := { file := some "a.html", tokens := true }
  have isRun : ofArguments ["--tokens", "a.html"] = .ok (.run request) := rfl
  have grammar : request.grammarFor (request.settings surroundings) "a.html" = "markup" := by
    decide +kernel
  have known : (Registry.builtin.get? "markup").isSome = true := by decide +kernel
  have text : (Request.blockOf (request.settings surroundings) "markup" "<b c=\"d\">\r\n").text =
      "<b c=\"d\">\n" := by
    decide +kernel
  have read : surroundings.read "a.html" = .ok "<b c=\"d\">\r\n" := rfl
  have whole := tokens_read_back isRun ⟨rfl, rfl⟩ rfl read
  simp only [grammar, text] at whole
  exact ⟨whole.1.2 known, whole.2 known⟩

end Command

end Highlight
