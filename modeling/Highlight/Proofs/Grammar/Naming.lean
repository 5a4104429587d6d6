import Highlight.Language.All
import Highlight.Proofs.Text.SmallLetters
import Mathlib.Data.List.Induction

/-!
# What names lead to

A registry holds, under every name, the grammar that was added last with it
(`get?_grammars`), and every alias leads to the name of the grammar that was added last
with it (`get?_aliases`). Names and aliases are asked for in small letters, aliases
first (`get?_ofList`).

So a grammar is found under its own name exactly if no grammar has this name for an
alias, or the last one that has it is of that name itself
(`own_name_unless_alias`). An alias that another grammar declares, before or
after, leads away from it (`alias_hides_name`).
-/

namespace Highlight

set_option autoImplicit false

/-- The names of a dictionary are those with a value. -/
theorem Dictionary.mem_names_iff {α : Type} {d : Dictionary α} {name : String} :
    name ∈ d.names ↔ (d.get? name).isSome = true := by
  have inEntries : ∀ entries : List (String × α),
      name ∈ entries.map (·.1) ↔ (findEntry name entries).isSome = true := by
    intro entries
    induction entries with
    | nil => simp [findEntry]
    | cons entry rest ih =>
        simp only [List.map_cons, List.mem_cons, ih, findEntry]
        by_cases same : entry.1 = name
        · simp [same]
        · simp [same, Ne.symm same]
  exact inEntries d.entries

namespace Registry

/-- The grammar that was added last under a name. -/
def latest? (added : List Grammar) (name : String) : Option Grammar :=
  added.reverse.find? fun g => lowercaseText g.name = name

/-- The grammar that was added last with an alias. -/
def claimant? (added : List Grammar) (name : String) : Option Grammar :=
  added.reverse.find? fun g => name ∈ g.aliases.map lowercaseText

/-- The grammar that was added last with a name among those of some kind. -/
def latestWith? (kind : Grammar → List String) (added : List Grammar) (name : String) :
    Option Grammar :=
  added.reverse.find? fun g => name ∈ (kind g).map lowercaseText

theorem ofList_concat (added : List Grammar) (g : Grammar) :
    ofList (added ++ [g]) = (ofList added).add g := by
  rw [ofList, List.foldl_append]
  rfl

theorem latest?_concat (added : List Grammar) (g : Grammar) (name : String) :
    latest? (added ++ [g]) name =
      if lowercaseText g.name = name then some g else latest? added name := by
  simp only [latest?, List.reverse_append, List.reverse_singleton, List.singleton_append,
    List.find?_cons]
  split <;> simp_all

theorem latestWith?_concat (kind : Grammar → List String) (added : List Grammar) (g : Grammar)
    (name : String) : latestWith? kind (added ++ [g]) name =
      if name ∈ (kind g).map lowercaseText then some g else latestWith? kind added name := by
  simp only [latestWith?, List.reverse_append, List.reverse_singleton, List.singleton_append,
    List.find?_cons]
  split <;> simp_all

theorem claimant?_concat (added : List Grammar) (g : Grammar) (name : String) :
    claimant? (added ++ [g]) name =
      if name ∈ g.aliases.map lowercaseText then some g else claimant? added name :=
  latestWith?_concat Grammar.aliases added g name

/-- Names made to lead to a target do so, and no others. -/
theorem get?_leadAll (target : String) (names : List String) (d : Dictionary String)
    (other : String) :
    (leadAll target names d).get? other =
      if other ∈ names.map lowercaseText then some target else d.get? other := by
  induction names generalizing d with
  | nil => rfl
  | cons name rest ih =>
      have step : leadAll target (name :: rest) d =
          leadAll target rest (d.put (lowercaseText name) target) := rfl
      rw [step, ih, Dictionary.get?_put, List.map_cons]
      by_cases later : other ∈ rest.map lowercaseText
      · simp [later]
      · simp [later]

/-- **Under a name** there is the grammar that was added last with it. -/
theorem get?_grammars (added : List Grammar) (name : String) :
    (ofList added).grammars.get? name = latest? added name := by
  induction added using List.reverseRecOn with
  | nil => rfl
  | append_singleton earlier g ih =>
      rw [ofList_concat, latest?_concat, add, Dictionary.get?_put, ih]
      simp only [eq_comm]

/-- If every grammar makes its names of some kind lead to its own, such a name leads to that
of the grammar that was added last with it. -/
theorem get?_leading (kind : Grammar → List String) {leads : Registry → Dictionary String}
    (none' : leads empty = ∅)
    (step : ∀ r g, leads (add r g) = leadAll (lowercaseText g.name) (kind g) (leads r))
    (added : List Grammar) (name : String) :
    (leads (ofList added)).get? name =
      (latestWith? kind added name).map fun g => lowercaseText g.name := by
  induction added using List.reverseRecOn with
  | nil => exact congrArg (Dictionary.get? · name) none'
  | append_singleton earlier g ih =>
      rw [ofList_concat, latestWith?_concat, step, get?_leadAll, ih]
      split <;> rfl

/-- **An alias leads** to the name of the grammar that was added last with it. -/
theorem get?_aliases (added : List Grammar) (name : String) :
    (ofList added).aliases.get? name =
      (claimant? added name).map fun g => lowercaseText g.name :=
  get?_leading Grammar.aliases rfl (fun _ _ => rfl) added name

/-- **An extension leads** to the name of the grammar that was added last with it. -/
theorem get?_extensions (added : List Grammar) (name : String) :
    (ofList added).extensions.get? name =
      (latestWith? Grammar.extensions added name).map fun g => lowercaseText g.name :=
  get?_leading Grammar.extensions rfl (fun _ _ => rfl) added name

/-- What a registry finds: the grammar that an alias leads to, and else the one of the
name. -/
theorem get?_ofList (added : List Grammar) (text : String) :
    (ofList added).get? text =
      latest? added
        (((claimant? added (lowercaseText text)).map fun g => lowercaseText g.name).getD
          (lowercaseText text)) := by
  rw [get?, get?_aliases, get?_grammars]

theorem lowercase_of_latest? {added : List Grammar} {name : String} {g : Grammar}
    (found : latest? added name = some g) : lowercaseText g.name = name := by
  have passes := List.find?_some found
  exact of_decide_eq_true passes

/-- The grammar added last under a name that is listed. -/
theorem exists_latest?_of_mem_names {added : List Grammar} {name : String}
    (listed : name ∈ (ofList added).names) : ∃ g, latest? added name = some g := by
  have found := Dictionary.mem_names_iff.1 listed
  rw [get?_grammars] at found
  exact Option.isSome_iff_exists.1 found

/-- The grammar added last under the name of one that was added. -/
theorem exists_latest?_of_mem {added : List Grammar} {g : Grammar} (member : g ∈ added) :
    ∃ h, latest? added (lowercaseText g.name) = some h := by
  refine Option.isSome_iff_exists.1 (List.find?_isSome.2 ⟨g, List.mem_reverse.2 member, ?_⟩)
  exact decide_eq_true rfl

theorem mem_of_claimant? {added : List Grammar} {name : String} {g : Grammar}
    (found : claimant? added name = some g) : g ∈ added :=
  List.mem_reverse.1 (List.mem_of_find?_eq_some found)

/-- What a registry finds was added to it. -/
theorem mem_of_get? {added : List Grammar} {text : String} {g : Grammar}
    (found : (ofList added).get? text = some g) : g ∈ added := by
  rw [get?_ofList] at found
  exact List.mem_reverse.1 (List.mem_of_find?_eq_some found)

/-- **A grammar is found under its own name unless an alias leads away.** For any
grammars that are known from the start and any that are added, every name that is
listed is that of the grammar added last under it. If no grammar has the name for an
alias, or the last one that has it is of that name itself, this grammar is found under
the name, in any case of letters, and tokenizes what is to be tokenized by the name.
Otherwise the name leads to the grammar of another name. -/
theorem own_name_unless_alias (known added : List Grammar) {name : String}
    (listed : name ∈ (added.foldl add (ofList known)).names) :
    let r := added.foldl add (ofList known)
    ∃ g, latest? (known ++ added) name = some g ∧ lowercaseText g.name = name ∧
      ∀ text, text = name ∨ lowercaseText text = name →
        ((∀ h, claimant? (known ++ added) name = some h → lowercaseText h.name = name) →
          r.get? text = some g ∧ ∀ source, r.tokenizer source text = some (g.tokenize source)) ∧
        ∀ h, claimant? (known ++ added) name = some h → lowercaseText h.name ≠ name →
          ∃ other, latest? (known ++ added) (lowercaseText h.name) = some other ∧
            r.get? text = some other ∧ r.get? text ≠ some g := by
  intro r
  have isList : r = ofList (known ++ added) := (List.foldl_append).symm
  have among : name ∈ (ofList (known ++ added)).names := isList ▸ listed
  obtain ⟨g, latest⟩ := exists_latest?_of_mem_names among
  have isName := lowercase_of_latest? latest
  refine ⟨g, latest, isName, ?_⟩
  intro text spelled
  have lower : lowercaseText text = name := by
    rcases spelled with rfl | lower
    · rw [← isName, lowercaseText_lowercaseText]
    · exact lower
  have found := get?_ofList (known ++ added) text
  rw [← isList, lower] at found
  refine ⟨?_, ?_⟩
  · intro own
    have isOwn : r.get? text = some g := by
      rw [found]
      cases claims : claimant? (known ++ added) name with
      | none => exact latest
      | some h => rw [Option.map_some, Option.getD_some, own h claims, latest]
    refine ⟨isOwn, fun source => ?_⟩
    rw [tokenizer, isOwn, Option.map_some]
  · intro h claims away
    obtain ⟨other, isOther⟩ := exists_latest?_of_mem (mem_of_claimant? claims)
    rw [claims, Option.map_some, Option.getD_some, isOther] at found
    refine ⟨other, isOther, found, ?_⟩
    rw [found]
    rintro ⟨rfl⟩
    exact away ((lowercase_of_latest? isOther).symm.trans isName)

/-- A grammar added to the languages that are known takes the place of one of them. -/
theorem own_name_unless_alias_replaced :
    let mine : Grammar := ⟨"Rust", ["rust", "rs"], [], []⟩
    let r := [mine].foldl add (ofList Language.grammars)
    "rust" ∈ r.names ∧ r.get? "RUST" = some mine := by
  intro mine r
  have listed : "rust" ∈ r.names := by decide +kernel
  obtain ⟨g, latest, _, spelled⟩ := own_name_unless_alias Language.grammars [mine] listed
  have isMine : latest? (Language.grammars ++ [mine]) "rust" = some mine := by
    rw [latest?_concat, if_pos (by decide)]
  have claims : claimant? (Language.grammars ++ [mine]) "rust" = some mine := by
    rw [claimant?_concat, if_pos (by decide)]
  cases isMine.symm.trans latest
  refine ⟨listed, ((spelled "RUST" (Or.inr (by decide))).1 ?_).1⟩
  intro h isClaimant
  cases claims.symm.trans isClaimant
  decide

/-- **An alias hides a grammar of that name.** The grammar is listed, and the name leads
to the one that declares the alias. -/
theorem alias_hides_name :
    let r := ofList [⟨"a", [], [], []⟩, ⟨"b", ["a"], [], []⟩]
    "a" ∈ r.names ∧ (r.get? "a").map Grammar.name = some "b" := by
  decide

end Registry

end Highlight
