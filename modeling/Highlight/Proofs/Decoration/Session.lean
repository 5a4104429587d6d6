import Highlight.Proofs.Decoration.Caching

/-!
# A decorator at work

A session is a program that works on its blocks and has them decorated, by one
decorator, in any order: it makes, copies and changes blocks, has fragments, blocks
and documents of them decorated, and switches the cache on and off. A fragment that
it asks for can be of any origin.

Every session keeps its blocks sound and its decorator's cache faithful
(`Session.Sound`, `Sound.after`). So a cache cannot be told from no cache:
every answer is the one of a decorator that has just been made and uses no cache
(`Session.answers_start`).
-/

namespace Highlight

set_option autoImplicit false

/-- What a decorator can be asked for. -/
inductive Demand where
  | fragment (fragment : Fragment) (block : Block)
  | block (block : Block)
  | document (document : Document)

/-- What a decorator answers. -/
inductive Answer where
  | fragment (marked : Except Fault MarkedText)
  | block (marked : Except Fault (List MarkedText))
  | document (marked : Except Fault (List (BlockKey × List MarkedText)))

namespace Demand

/-- The blocks that a demand names. -/
def blocks : Demand → List Block
  | .fragment _ b => [b]
  | .block b => [b]
  | .document d => d.blocks

/-- The answer to a demand if everything is tokenized anew. -/
def answerAnew (tokenizer : Tokenizer) (options : Options) : Demand → Answer
  | .fragment f b => .fragment (options.decoration tokenizer b f)
  | .block b => .block (options.blockDecoration tokenizer b)
  | .document d => .document (options.blocksDecoration tokenizer d.blocks)

end Demand

namespace Decorator

/-- What a decorator answers to a demand, and the decorator afterwards. -/
def answer (d : Decorator) : Demand → Answer × Decorator
  | .fragment fragment block => (d.decorate fragment block).map .fragment id
  | .block block => (d.decorateBlock block).map .block id
  | .document document => (d.decorateDocument document).map .document id

/-- A decorator with a faithful cache answers as if it tokenized anew. -/
theorem Serves.answer {d : Decorator} {tokenizer : Tokenizer} {options : Options} {p : Pool}
    (serves : d.Serves tokenizer options p) (sound : p.Sound) {demand : Demand}
    (live : ∀ b ∈ demand.blocks, b ∈ p.blocks) :
    (d.answer demand).1 = demand.answerAnew tokenizer options ∧
      (d.answer demand).2.Serves tokenizer options p := by
  cases demand with
  | fragment f b =>
      obtain ⟨result, after⟩ := serves.decorate sound (live b List.mem_cons_self) f
      exact ⟨congrArg Answer.fragment result, after⟩
  | block b =>
      obtain ⟨result, after⟩ := serves.decorateBlock sound (live b List.mem_cons_self)
      exact ⟨congrArg Answer.block result, after⟩
  | document document =>
      obtain ⟨result, after⟩ := serves.decorateDocument sound live
      exact ⟨congrArg Answer.document result, after⟩

end Decorator

/-- One thing that a program does with its blocks and its decorator. A block is
told by its index. -/
inductive Action where
  | edit (edit : Edit)
  | setCached (cached : Bool)
  | decorate (fragment : Fragment) (index : Nat)
  | decorateBlock (index : Nat)
  | decorateDocument (indexes : List Nat)

namespace Action

/-- The pool after an action. -/
def pool (p : Pool) : Action → Pool
  | edit e => p.edit e
  | _ => p

/-- What a decorator is asked for by an action, if it is asked for something that
there is. -/
def demand? (p : Pool) : Action → Option Demand
  | decorate fragment index => p.blocks[index]?.map (.fragment fragment)
  | decorateBlock index => p.blocks[index]?.map .block
  | decorateDocument indexes => some (.document ⟨indexes.filterMap (p.blocks[·]?)⟩)
  | _ => none

/-- The blocks that an action asks for are among those of the program. -/
theorem live_demand? {p : Pool} {a : Action} {demand : Demand} (asked : a.demand? p = some demand) :
    ∀ b ∈ demand.blocks, b ∈ p.blocks := by
  cases a with
  | edit e => cases asked
  | setCached cached => cases asked
  | decorate f index =>
      obtain ⟨b, at', rfl⟩ := Option.map_eq_some_iff.1 asked
      intro c member
      cases List.mem_singleton.1 member
      exact List.mem_of_getElem? at'
  | decorateBlock index =>
      obtain ⟨b, at', rfl⟩ := Option.map_eq_some_iff.1 asked
      intro c member
      cases List.mem_singleton.1 member
      exact List.mem_of_getElem? at'
  | decorateDocument indexes =>
      cases asked
      intro c member
      obtain ⟨index, _, at'⟩ := List.mem_filterMap.1 member
      exact List.mem_of_getElem? at'

/-- Asking for something changes no block. -/
theorem pool_of_demand? {p : Pool} {a : Action} {demand : Demand}
    (asked : a.demand? p = some demand) : a.pool p = p := by
  cases a with
  | edit e => cases asked
  | _ => rfl

end Action

/-- A program's blocks and its decorator. -/
structure Session where
  pool : Pool
  decorator : Decorator

namespace Session

/-- A program that has made a decorator and no block. -/
def start (tokenizer : Tokenizer) (options : Options) : Session :=
  ⟨.empty, .new tokenizer options⟩

/-- The answer that an action brings, if it asks for something, and the session after
it. -/
def step (s : Session) (a : Action) : Option Answer × Session :=
  match a.demand? s.pool with
  | some demand => ((s.decorator.answer demand).map some fun d => ⟨s.pool, d⟩)
  | none =>
      match a with
      | .setCached cached => (none, ⟨s.pool, s.decorator.setCached cached⟩)
      | a => (none, ⟨a.pool s.pool, s.decorator⟩)

/-- The session after some actions, one after the other. -/
def after (s : Session) (actions : List Action) : Session :=
  actions.foldl (fun s a => (s.step a).2) s

/-- The answers that some actions bring, one after the other. -/
def answers (s : Session) : List Action → List Answer
  | [] => []
  | a :: rest => (s.step a).1.toList ++ (s.step a).2.answers rest

/-- The answers that some actions would bring if a decorator without a cache were made
for each demand. -/
def freshAnswers (tokenizer : Tokenizer) (options : Options) (p : Pool) :
    List Action → List Answer
  | [] => []
  | a :: rest =>
      ((a.demand? p).map fun demand =>
          ((Decorator.new tokenizer { options with cached := false }).answer demand).1).toList ++
        freshAnswers tokenizer options (a.pool p) rest

/-- The blocks of a session are sound, and its decorator's cache is faithful to
them. -/
structure Sound (s : Session) (tokenizer : Tokenizer) (options : Options) : Prop where
  pool : s.pool.Sound
  decorator : s.decorator.Serves tokenizer options s.pool

variable {s : Session} {tokenizer : Tokenizer} {options : Options}

theorem sound_start (tokenizer : Tokenizer) (options : Options) :
    (start tokenizer options).Sound tokenizer options :=
  ⟨Pool.sound_empty, Decorator.serves_new options.cached⟩

/-- The pool of a session depends on its edits only. -/
theorem pool_step (s : Session) (a : Action) : (s.step a).2.pool = a.pool s.pool := by
  cases asked : a.demand? s.pool with
  | some demand =>
      simp only [step, asked]
      exact (Action.pool_of_demand? asked).symm
  | none =>
      simp only [step, asked]
      cases a <;> rfl

/-- **One action** keeps a session sound, and its answer is made anew. -/
theorem Sound.step (sound : s.Sound tokenizer options) (a : Action) :
    (s.step a).1 = (a.demand? s.pool).map (·.answerAnew tokenizer options) ∧
      (s.step a).2.Sound tokenizer options := by
  cases asked : a.demand? s.pool with
  | some demand =>
      obtain ⟨result, after⟩ := sound.decorator.answer sound.pool (Action.live_demand? asked)
      simp only [Session.step, asked]
      exact ⟨congrArg some result, sound.pool, after⟩
  | none =>
      simp only [Session.step, asked]
      cases a with
      | setCached cached => exact ⟨rfl, sound.pool, sound.decorator.setCached cached⟩
      | edit e =>
          have follows := sound.pool.follows_edit e
          exact ⟨rfl, sound.pool.of_follows follows, sound.decorator.follows follows⟩
      | decorate f index => exact ⟨rfl, sound⟩
      | decorateBlock index => exact ⟨rfl, sound⟩
      | decorateDocument indexes => exact ⟨rfl, sound⟩

/-- Every session that actions lead to is sound. -/
theorem Sound.after (sound : s.Sound tokenizer options) (actions : List Action) :
    (s.after actions).Sound tokenizer options := by
  induction actions generalizing s with
  | nil => exact sound
  | cons a rest ih => exact ih (sound.step a).2

/-- A decorator without a cache answers as if it tokenized anew. -/
theorem answer_fresh {p : Pool} (sound : p.Sound) {demand : Demand}
    (live : ∀ b ∈ demand.blocks, b ∈ p.blocks) :
    ((Decorator.new tokenizer { options with cached := false }).answer demand).1 =
      demand.answerAnew tokenizer options :=
  ((Decorator.serves_new false).answer sound live).1

/-- A sound session answers like decorators without a cache. -/
theorem Sound.answers (sound : s.Sound tokenizer options) (actions : List Action) :
    s.answers actions = freshAnswers tokenizer options s.pool actions := by
  induction actions generalizing s with
  | nil => rfl
  | cons a rest ih =>
      obtain ⟨result, after⟩ := sound.step a
      have fresh : (a.demand? s.pool).map (·.answerAnew tokenizer options) =
          (a.demand? s.pool).map fun demand =>
            ((Decorator.new tokenizer { options with cached := false }).answer demand).1 := by
        refine Option.map_congr fun demand asked => ?_
        exact (answer_fresh sound.pool (Action.live_demand? asked)).symm
      simp only [Session.answers, freshAnswers]
      rw [ih after, result, fresh, pool_step]

/-- **A cache cannot be told from no cache.** Whatever is done to blocks, copies
and the cache in between, every answer of a decorator is the one that a decorator
just made, with its cache off, would give. -/
theorem answers_start (tokenizer : Tokenizer) (options : Options) (actions : List Action) :
    (start tokenizer options).answers actions =
      freshAnswers tokenizer options .empty actions :=
  (sound_start tokenizer options).answers actions

end Session

end Highlight
