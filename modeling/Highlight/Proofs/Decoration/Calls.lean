import Highlight.Proofs.Decoration.Uses
import Highlight.Proofs.Document.Layout
import Mathlib.Logic.Function.Iterate

/-!
# How often a decorator calls its tokenizer

A request is the decoration of a fragment of an eligible block that has it. It asks for
the tokens of a block in a state by a grammar (`Query`). All else that is done with a
decorator is no request, and calls the tokenizer as little as it touches the cache.

The entry of the cache is for the query of the last request, as long as a request was
made with the cache on since the cache was made or last switched off
(`Decorator.Keeps`). So whether a request calls the tokenizer can be told from what was
done before, without looking into the cache (`Decorator.Keeps.calls_request`). What the
tokenizer answered, and whether the lengths agreed, does not matter.

A request that was made with the cache off leaves no entry. When the cache is on again,
the same request calls the tokenizer a second time (`Session.calls_after_off`).
-/

namespace Highlight

set_option autoImplicit false

/-- What a request asks for: the tokens of a block in a state, by a grammar. -/
structure Query where
  block : BlockKey
  revision : Revision
  grammar : String
deriving DecidableEq

/-- The query that an entry of a cache answers. -/
def CacheEntry.query (e : CacheEntry) : Query := ⟨e.block, e.revision, e.grammar⟩

namespace Options

/-- The query for a block. -/
def query (options : Options) (block : Block) : Query :=
  ⟨block.key, block.revision, options.grammar block⟩

/-- The query of a use that is a request. -/
def query? (options : Options) : Use → Option Query
  | .decorate fragment block =>
      if fragment.key ∈ block.keys ∧ options.eligible block = true then some (options.query block)
      else none
  | .setCached _ => none

/-- Whether the cache is on after a history. -/
def cachedAfter (options : Options) : List Use → Bool
  | [] => options.cached
  | .setCached cached :: _ => cached
  | .decorate _ _ :: earlier => options.cachedAfter earlier

/-- The query of the last request of a history. -/
def lastQuery? (options : Options) (history : List Use) : Option Query :=
  history.findSome? options.query?

/-- The requests since the cache was made or last switched off, each with whether the
cache was on. -/
def requestsSinceOff (options : Options) : List Use → List (Query × Bool)
  | [] => []
  | .setCached true :: earlier => options.requestsSinceOff earlier
  | .setCached false :: _ => []
  | .decorate fragment block :: earlier =>
      ((options.query? (.decorate fragment block)).map (·, options.cachedAfter earlier)).toList ++
        options.requestsSinceOff earlier

/-- Whether a request was made with the cache on since the cache was made or last
switched off. -/
def Asked (options : Options) (history : List Use) : Prop :=
  ∃ r ∈ options.requestsSinceOff history, r.2 = true

instance (options : Options) (history : List Use) : Decidable (options.Asked history) :=
  inferInstanceAs (Decidable (∃ r ∈ options.requestsSinceOff history, r.2 = true))

/-- Whether a query misses the cache, told from a history: it was not asked with the
cache on since the cache was made or last switched off, or the last request asked
something else. -/
def Misses (options : Options) (history : List Use) (q : Query) : Prop :=
  ¬ options.Asked history ∨ options.lastQuery? history ≠ some q

instance (options : Options) (history : List Use) (q : Query) :
    Decidable (options.Misses history q) :=
  inferInstanceAs (Decidable (_ ∨ _))

variable {options : Options}

theorem query?_of_request {f : Fragment} {b : Block} {q : Query}
    (request : options.query? (.decorate f b) = some q) :
    f.key ∈ b.keys ∧ options.eligible b = true ∧ q = options.query b := by
  simp only [query?, Option.ite_none_right_eq_some, Option.some.injEq] at request
  exact ⟨request.1.1, request.1.2, request.2.symm⟩

/-- With the cache off there is no request with the cache on since it was switched
off. -/
theorem not_asked_of_off {history : List Use} (off : options.cachedAfter history = false) :
    ¬ options.Asked history := by
  induction history with
  | nil => exact fun ⟨_, member, _⟩ => absurd member List.not_mem_nil
  | cons u earlier ih =>
      cases u with
      | setCached cached =>
          cases off
          exact fun ⟨_, member, _⟩ => absurd member List.not_mem_nil
      | decorate f b =>
          have before : options.cachedAfter earlier = false := off
          rintro ⟨r, member, on⟩
          rcases List.mem_append.1 member with here | past
          · obtain ⟨q, _, rfl⟩ := Option.map_eq_some_iff.1 (Option.mem_toList.1 here)
            exact Bool.false_ne_true (before.symm.trans on)
          · exact ih before ⟨r, past, on⟩

end Options

/-! ## Hits and misses -/

namespace Cache

theorem isFor_iff (e : CacheEntry) (b : Block) (grammar : String) :
    e.isFor b grammar = true ↔ e.query = ⟨b.key, b.revision, grammar⟩ := by
  simp only [CacheEntry.isFor, CacheEntry.query, decide_eq_true_eq, Query.mk.injEq]

/-- A cache has an entry for a block exactly if its entry answers the query for it. -/
theorem entryFor?_isSome_iff (c : Cache) (b : Block) (grammar : String) :
    (c.entryFor? b grammar).isSome = true ↔
      c.entry.map CacheEntry.query = some ⟨b.key, b.revision, grammar⟩ := by
  rw [entryFor?, Option.isSome_filter]
  cases c.entry with
  | none => simp
  | some e => simp [isFor_iff]

end Cache

namespace Decorator

/-- What a decorator's cache is after a history: it is on or off as it was switched
last, and its entry is for the query of the last request, if it was asked. Lines
tokenized by themselves never get to the cache. -/
structure Keeps (d : Decorator) (options : Options) (history : List Use) : Prop where
  sameOptions : d.options = { options with cached := options.cachedAfter history }
  enabled : d.cache.enabled = options.cachedAfter history
  entry : options.mode = .joined → ∀ q, d.cache.entry.map CacheEntry.query = some q ↔
    options.Asked history ∧ options.lastQuery? history = some q

/-- What is no request leaves a decorator as it is. -/
theorem decorate_of_no_request {d : Decorator} {f : Fragment} {b : Block}
    (none : d.options.query? (.decorate f b) = none) : (d.decorate f b).2 = d := by
  simp only [Options.query?, ite_eq_right_iff, reduceCtorEq, imp_false, not_and] at none
  simp only [decorate]
  cases found : b.indexOf? f.key with
  | none => rfl
  | some index =>
      have member : f.key ∈ b.keys := by
        by_contra notMem
        rw [Block.indexOf?_eq_none_iff.2 notMem] at found
        cases found
      simp only [none member]
      rfl

/-- A request makes a decorator tokenize or look into its cache. -/
theorem decorate_of_request {d : Decorator} {f : Fragment} {b : Block} {q : Query}
    (request : d.options.query? (.decorate f b) = some q) :
    ∃ index, (d.decorate f b).2 = (d.basis f b index).2 := by
  obtain ⟨member, eligible, _⟩ := Options.query?_of_request request
  obtain ⟨index, found⟩ := Block.exists_indexOf?_of_mem member
  refine ⟨index, ?_⟩
  simp only [decorate, found, if_pos eligible]

section Basis

variable (d : Decorator) (f : Fragment) (b : Block) (index : Nat)

/-- Lines tokenized by themselves take a call each and leave the cache alone. -/
theorem basis_plain (plain : d.options.mode = .plain) :
    (d.basis f b index).2 = { d with calls := d.calls + 1 } := by
  simp only [basis, plain, call]

/-- Without a cache every block takes a call. -/
theorem basis_off (joined : d.options.mode = .joined) (off : d.cache.enabled = false) :
    (d.basis f b index).2 = { d with calls := d.calls + 1 } := by
  simp only [basis, joined, Cache.fetch, off, Bool.false_eq_true, if_false, call]

/-- A hit takes no call and leaves the cache as it is. -/
theorem basis_hit (joined : d.options.mode = .joined) (on : d.cache.enabled = true)
    (hit : d.cache.entry.map CacheEntry.query = some (d.options.query b)) :
    (d.basis f b index).2 = d := by
  obtain ⟨e, found⟩ := Option.isSome_iff_exists.1
    ((d.cache.entryFor?_isSome_iff b (d.options.grammar b)).2 hit)
  simp only [basis, joined, Cache.fetch, on, if_true, found]

/-- A miss takes a call and replaces the entry. -/
theorem basis_miss (joined : d.options.mode = .joined) (on : d.cache.enabled = true)
    (miss : d.cache.entry.map CacheEntry.query ≠ some (d.options.query b)) :
    ∃ e : CacheEntry, e.query = d.options.query b ∧
      (d.basis f b index).2 = { d with cache := ⟨true, some e⟩, calls := d.calls + 1 } := by
  have none : d.cache.entryFor? b (d.options.grammar b) = none := by
    rw [← Option.not_isSome_iff_eq_none, Cache.entryFor?_isSome_iff]
    exact miss
  refine ⟨⟨b.key, b.revision, d.options.grammar b, d.tokenizer b.text (d.options.grammar b)⟩,
    rfl, ?_⟩
  simp only [basis, joined, Cache.fetch, on, if_true, none, call]

end Basis

namespace Keeps

variable {d : Decorator} {options : Options} {history : List Use}

theorem new (tokenizer : Tokenizer) (options : Options) :
    (Decorator.new tokenizer options).Keeps options [] where
  sameOptions := rfl
  enabled := rfl
  entry _ q := by
    simp [Decorator.new, Cache.empty, Options.Asked, Options.requestsSinceOff]

variable (keeps : d.Keeps options history)
include keeps

theorem query_eq (b : Block) : d.options.query b = options.query b := by
  rw [keeps.sameOptions]
  rfl

theorem query?_eq (u : Use) : d.options.query? u = options.query? u := by
  rw [keeps.sameOptions]
  cases u <;> rfl

theorem mode_eq : d.options.mode = options.mode := by rw [keeps.sameOptions]

/-- Switching the cache on keeps its entry, and switching it off forgets what was
asked. -/
theorem setCached (cached : Bool) :
    (d.setCached cached).Keeps options (.setCached cached :: history) where
  sameOptions := by
    simp only [Decorator.setCached, keeps.sameOptions]
    rfl
  enabled := rfl
  entry joined q := by
    cases cached with
    | true => exact keeps.entry joined q
    | false =>
        simp [Decorator.setCached, Cache.setEnabled, Options.Asked, Options.requestsSinceOff]

/-- What is no request leaves the cache as it is. -/
theorem no_request {f : Fragment} {b : Block}
    (none : options.query? (.decorate f b) = none) :
    (d.decorate f b).2.Keeps options (.decorate f b :: history) := by
  rw [decorate_of_no_request ((keeps.query?_eq _).trans none)]
  refine ⟨keeps.sameOptions, keeps.enabled, ?_⟩
  intro joined q
  simp only [Options.Asked, Options.requestsSinceOff, Options.lastQuery?, List.findSome?_cons, none,
    Option.map_none, Option.toList_none, List.nil_append]
  exact keeps.entry joined q

/-- A request leaves an entry for its query, unless the cache is off. -/
theorem request {f : Fragment} {b : Block} {q : Query}
    (request : options.query? (.decorate f b) = some q) :
    (d.decorate f b).2.Keeps options (.decorate f b :: history) := by
  obtain ⟨_, _, rfl⟩ := Options.query?_of_request request
  obtain ⟨index, isBasis⟩ := decorate_of_request ((keeps.query?_eq _).trans request)
  rw [isBasis]
  have last : options.lastQuery? (.decorate f b :: history) = some (options.query b) := by
    simp only [Options.lastQuery?, List.findSome?_cons, request]
  cases mode : options.mode with
  | plain =>
      rw [d.basis_plain f b index (keeps.mode_eq.trans mode)]
      exact ⟨keeps.sameOptions, keeps.enabled, fun joined => nomatch mode.symm.trans joined⟩
  | joined =>
      have joined := keeps.mode_eq.trans mode
      cases switched : options.cachedAfter history with
      | false =>
          have off : options.cachedAfter (.decorate f b :: history) = false := switched
          rw [d.basis_off f b index joined (keeps.enabled.trans switched)]
          refine ⟨keeps.sameOptions, keeps.enabled, fun isJoined q => ?_⟩
          have before := Options.not_asked_of_off switched
          have after := Options.not_asked_of_off off
          simp only [keeps.entry isJoined q, before, after, false_and]
      | true =>
          have on := keeps.enabled.trans switched
          have asked : options.Asked (.decorate f b :: history) := by
            refine ⟨(options.query b, true), ?_, rfl⟩
            simp [Options.requestsSinceOff, request, switched]
          have answers : ∀ q, some (options.query b) = some q ↔
              options.Asked (.decorate f b :: history) ∧
                options.lastQuery? (.decorate f b :: history) = some q := by
            intro q
            simp only [asked, last, true_and]
          by_cases hit : d.cache.entry.map CacheEntry.query = some (d.options.query b)
          · rw [d.basis_hit f b index joined on hit]
            refine ⟨keeps.sameOptions, keeps.enabled, fun _ q => ?_⟩
            rw [hit, keeps.query_eq]
            exact answers q
          · obtain ⟨e, isQuery, missed⟩ := d.basis_miss f b index joined on hit
            rw [missed]
            refine ⟨keeps.sameOptions, switched.symm, fun _ q => ?_⟩
            simp only [Option.map_some, isQuery, keeps.query_eq]
            exact answers q

/-- A request calls the tokenizer once, unless it asks what the last one asked of the
cache. -/
theorem calls_request {f : Fragment} {b : Block} {q : Query}
    (request : options.query? (.decorate f b) = some q) :
    (d.decorate f b).2.calls = d.calls +
      if options.mode = .plain ∨ options.cachedAfter history = false ∨ options.Misses history q
      then 1 else 0 := by
  obtain ⟨_, _, rfl⟩ := Options.query?_of_request request
  obtain ⟨index, isBasis⟩ := decorate_of_request ((keeps.query?_eq _).trans request)
  rw [isBasis]
  cases mode : options.mode with
  | plain => simp [d.basis_plain f b index (keeps.mode_eq.trans mode)]
  | joined =>
      have joined := keeps.mode_eq.trans mode
      cases switched : options.cachedAfter history with
      | false => simp [d.basis_off f b index joined (keeps.enabled.trans switched)]
      | true =>
          have on := keeps.enabled.trans switched
          have entry := keeps.entry mode (options.query b)
          rw [← keeps.query_eq] at entry ⊢
          by_cases hit : d.cache.entry.map CacheEntry.query = some (d.options.query b)
          · have same : ¬ options.Misses history (d.options.query b) := by
              obtain ⟨asked, last⟩ := entry.1 hit
              rintro (unasked | other)
              · exact unasked asked
              · exact other last
            simp [d.basis_hit f b index joined on hit, same]
          · have misses : options.Misses history (d.options.query b) := by
              by_cases asked : options.Asked history
              · exact Or.inr fun last => hit (entry.2 ⟨asked, last⟩)
              · exact Or.inl asked
            obtain ⟨e, _, missed⟩ := d.basis_miss f b index joined on hit
            simp [missed, misses]

theorem afterUse (u : Use) : (d.afterUse u).Keeps options (u :: history) := by
  cases u with
  | setCached cached => exact keeps.setCached cached
  | decorate f b =>
      cases isQuery : options.query? (.decorate f b) with
      | none => exact keeps.no_request isQuery
      | some q => exact keeps.request isQuery

end Keeps

/-- **A decorator's cache after a history** is what the history says. -/
theorem keeps_afterUses (tokenizer : Tokenizer) (options : Options) (history : List Use) :
    ((new tokenizer options).afterUses history).Keeps options history := by
  induction history with
  | nil => exact .new tokenizer options
  | cons u earlier ih => exact ih.afterUse u

/-! ## Blocks -/

/-- A decorator whose cache has the tokens of a block. -/
structure Has (d : Decorator) (b : Block) : Prop where
  joined : d.options.mode = .joined
  on : d.cache.enabled = true
  hit : d.cache.entry.map CacheEntry.query = some (d.options.query b)

variable {d : Decorator} {b : Block}

/-- With a block's tokens in the cache its fragments are decorated without a trace. -/
theorem Has.decorate (has : d.Has b) (f : Fragment) : (d.decorate f b).2 = d := by
  cases isQuery : d.options.query? (.decorate f b) with
  | none => exact decorate_of_no_request isQuery
  | some q =>
      obtain ⟨index, isBasis⟩ := decorate_of_request isQuery
      rw [isBasis, d.basis_hit f b index has.joined has.on has.hit]

/-- The decoration of some fragments ends with the first one or goes on with the
others. -/
theorem decorateFragments_cons (d : Decorator) (f : Fragment) (rest : List Fragment) :
    (d.decorateFragments b (f :: rest)).2 = (d.decorate f b).2 ∨
      (d.decorateFragments b (f :: rest)).2 = ((d.decorate f b).2.decorateFragments b rest).2 := by
  simp only [decorateFragments]
  generalize d.decorate f b = decorated
  obtain ⟨_ | text, after⟩ := decorated
  · exact Or.inl rfl
  · refine Or.inr ?_
    simp only
    generalize after.decorateFragments b rest = others
    obtain ⟨_ | texts, _⟩ := others <;> rfl

theorem Has.decorateFragments (has : d.Has b) (fragments : List Fragment) :
    (d.decorateFragments b fragments).2 = d := by
  induction fragments with
  | nil => rfl
  | cons f rest ih =>
      rcases d.decorateFragments_cons f rest with ends | goesOn
      · rw [ends, has.decorate f]
      · rw [goesOn, has.decorate f, ih]

/-- What the decoration of a block can do to a decorator: nothing, or one call that
leaves the block's tokens in the cache. -/
def Tokenized (b : Block) (d after : Decorator) : Prop :=
  after = d ∨ (after.Has b ∧ after.calls = d.calls + 1)

theorem tokenized_decorate (joined : d.options.mode = .joined) (on : d.cache.enabled = true)
    (f : Fragment) : Tokenized b d (d.decorate f b).2 := by
  cases isQuery : d.options.query? (.decorate f b) with
  | none => exact Or.inl (decorate_of_no_request isQuery)
  | some q =>
      obtain ⟨index, isBasis⟩ := decorate_of_request isQuery
      rw [isBasis]
      by_cases hit : d.cache.entry.map CacheEntry.query = some (d.options.query b)
      · exact Or.inl (d.basis_hit f b index joined on hit)
      · obtain ⟨e, answers, missed⟩ := d.basis_miss f b index joined on hit
        rw [missed]
        exact Or.inr ⟨⟨joined, rfl, congrArg some answers⟩, rfl⟩

theorem tokenized_decorateFragments (joined : d.options.mode = .joined)
    (on : d.cache.enabled = true) (fragments : List Fragment) :
    Tokenized b d (d.decorateFragments b fragments).2 := by
  induction fragments with
  | nil => exact Or.inl rfl
  | cons f rest ih =>
      have first : Tokenized b d (d.decorate f b).2 := tokenized_decorate joined on f
      rcases d.decorateFragments_cons f rest with ends | goesOn
      · exact ends ▸ first
      · rw [goesOn]
        rcases first with same | ⟨has, calls⟩
        · rw [same]
          exact ih
        · rw [has.decorateFragments rest]
          exact Or.inr ⟨has, calls⟩

/-- **A block that does not change is tokenized once at most**, however often it is
decorated. -/
theorem tokenized_decorateBlock (joined : d.options.mode = .joined) (on : d.cache.enabled = true)
    (times : Nat) : Tokenized b d ((fun d => (d.decorateBlock b).2)^[times] d) := by
  induction times with
  | zero => exact Or.inl rfl
  | succ times ih =>
      rw [Function.iterate_succ_apply']
      rcases ih with same | ⟨has, calls⟩
      · rw [same]
        exact tokenized_decorateFragments joined on b.fragments
      · have still := has.decorateFragments b.fragments
        exact Or.inr ⟨by rwa [decorateBlock, still], by rwa [decorateBlock, still]⟩

end Decorator

namespace Session

/-- **When the tokenizer is called.** What a session does with its decorator comes to the
uses of its history, and after any history each use calls the tokenizer as follows.
Where lines are tokenized by themselves, or without a cache, every request calls it
once. Else a request calls it once if no request was made with the cache on since the
cache was made or last switched off, or if the last request asked something else, and
not at all otherwise, whatever the answers were. What is no request leaves the
decorator as it is, switching the cache calls nothing, and a block that does not
change takes one call at most, however often it is decorated. -/
theorem calls_exact (tokenizer : Tokenizer) (options : Options) :
    let fresh := Decorator.new tokenizer options
    (∀ actions, ((start tokenizer options).after actions).decorator =
        fresh.afterUses ((start tokenizer options).history actions)) ∧
      ∀ history : List Use,
        let d := fresh.afterUses history
        (∀ f b q, options.query? (.decorate f b) = some q →
          (options.mode = .plain ∨ options.cachedAfter history = false →
            (d.decorate f b).2.calls = d.calls + 1) ∧
          (options.mode = .joined → options.cachedAfter history = true →
            (d.decorate f b).2.calls = d.calls + if options.Misses history q then 1 else 0)) ∧
        (∀ f b, options.query? (.decorate f b) = none → (d.decorate f b).2 = d) ∧
        (∀ cached, (d.setCached cached).calls = d.calls) ∧
        (options.mode = .joined → options.cachedAfter history = true → ∀ b times,
          ((fun d => (d.decorateBlock b).2)^[times] d).calls ≤ d.calls + 1) := by
  intro fresh
  refine ⟨(start tokenizer options).decorator_after, ?_⟩
  intro history d
  have keeps : d.Keeps options history := Decorator.keeps_afterUses tokenizer options history
  refine ⟨?_, ?_, fun _ => rfl, ?_⟩
  · intro f b q request
    have calls := keeps.calls_request request
    refine ⟨?_, ?_⟩
    · intro uncached
      rw [calls, if_pos (or_assoc.1 (Or.inl uncached))]
    · intro joined on
      simpa [joined, on] using calls
  · intro f b none
    exact Decorator.decorate_of_no_request ((keeps.query?_eq _).trans none)
  · intro joined on b times
    rcases Decorator.tokenized_decorateBlock (b := b) (keeps.mode_eq.trans joined)
      (keeps.enabled.trans on) times with same | ⟨_, calls⟩
    · rw [same]
      exact Nat.le_succ _
    · exact Nat.le_of_eq calls

/-- A grammar that is not known is not asked for again. -/
theorem calls_exact_unknown_grammar :
    let tokenizer : Tokenizer := fun _ _ => none
    let b := (Block.code "rust" "a" .full).1
    let f : Fragment := ⟨⟨3⟩, ⟨"a", by decide⟩, []⟩
    let d := (Decorator.new tokenizer .standard).afterUses [.decorate f b]
    Options.standard.query? (.decorate f b) = some (Options.standard.query b) ∧
      d.calls = 1 ∧ (d.decorate f b).2.calls = 1 := by
  intro tokenizer b f d
  have request : Options.standard.query? (.decorate f b) = some (Options.standard.query b) := by
    decide
  have first : d.calls = 1 := by decide
  obtain ⟨_, after⟩ := calls_exact tokenizer .standard
  have calls := ((after [.decorate f b]).1 f b _ request).2 rfl rfl
  have hit : ¬ Options.standard.Misses [.decorate f b] (Options.standard.query b) := by decide
  rw [if_neg hit] at calls
  exact ⟨request, first, calls.trans first⟩

/-- **A request with the cache off is not remembered.** The cache is made off, a request
is made, the cache is switched on, and the same request calls the tokenizer again. -/
theorem calls_after_off :
    let tokenizer : Tokenizer := fun _ _ => some [.literal "a"]
    let options : Options := { Options.standard with cached := false }
    let b := (Block.code "rust" "a" .full).1
    let f : Fragment := ⟨⟨3⟩, ⟨"a", by decide⟩, []⟩
    let actions : List Action := [.edit (.code "rust" "a"), .decorate f 0, .setCached true]
    let s := (start tokenizer options).after actions
    let history := (start tokenizer options).history actions
    b ∈ s.pool.blocks ∧ f ∈ b.fragments ∧
      options.mode = .joined ∧ options.cachedAfter history = true ∧
      options.query? (.decorate f b) = some (options.query b) ∧
      options.requestsSinceOff history ≠ [] ∧
      options.lastQuery? history = some (options.query b) ∧
      (s.decorator.decorate f b).2.calls = s.decorator.calls + 1 := by
  decide

end Session

end Highlight
