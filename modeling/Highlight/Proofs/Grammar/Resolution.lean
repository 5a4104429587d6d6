import Highlight.Proofs.Grammar.Naming

/-!
# Names of grammars that are loaded no more

A grammar takes the place of one of the same name, but the aliases and the extensions of that
one stay and lead to the new grammar (`Registry.names_of_replaced`). So what a name leads to
declares the name itself exactly if it is the grammar that declared it last
(`Registry.declares_iff`), and a replaced grammar leaves names that no loaded one declares
(`Registry.replaced_names_stay`).

On the other hand no name is ever lost: a grammar can be replaced but not taken away, so every
alias and every extension leads to a grammar, by the name of which there is one
(`Registry.no_dangling_names`).
-/

namespace Highlight

set_option autoImplicit false

/-- The names of a dictionary ascend. -/
theorem Dictionary.pairwise_names {α : Type} (d : Dictionary α) : d.names.Pairwise (· < ·) :=
  List.pairwise_map.2 d.ascending

namespace Registry

/-- Grammars added to others are all in one list. -/
theorem foldl_add_ofList (known added : List Grammar) :
    added.foldl add (ofList known) = ofList (known ++ added) :=
  (List.foldl_append).symm

/-! ## What the last grammar of a name declares -/

section Kinds

variable (kind : Grammar → List String) {added : List Grammar} {name spelled : String}
  {g h : Grammar}

theorem mem_of_latestWith? (found : latestWith? kind added spelled = some h) :
    h ∈ added ∧ spelled ∈ (kind h).map lowercaseText := by
  have passes := List.find?_some found
  exact ⟨List.mem_reverse.1 (List.mem_of_find?_eq_some found), of_decide_eq_true passes⟩

/-- A name that some grammar declares was declared last by one. -/
theorem exists_latestWith? (member : g ∈ added) (declares : spelled ∈ (kind g).map lowercaseText) :
    ∃ h, latestWith? kind added spelled = some h :=
  Option.isSome_iff_exists.1
    (List.find?_isSome.2 ⟨g, List.mem_reverse.2 member, decide_eq_true declares⟩)

/-- The grammar that was added last under a name, if it declares a name that one of the same
name was the last to declare, is that one. -/
theorem latestWith?_eq_of_latest? (latest : latest? added name = some g)
    (declares : spelled ∈ (kind g).map lowercaseText)
    (last : latestWith? kind added spelled = some h) (same : lowercaseText h.name = name) :
    h = g := by
  induction added using List.reverseRecOn with
  | nil => cases latest
  | append_singleton earlier k ih =>
      rw [latest?_concat] at latest
      rw [latestWith?_concat] at last
      by_cases newest : lowercaseText k.name = name
      · rw [if_pos newest] at latest
        cases latest
        rw [if_pos declares] at last
        exact (Option.some.inj last).symm
      · rw [if_neg newest] at latest
        by_cases declaresToo : spelled ∈ (kind k).map lowercaseText
        · rw [if_pos declaresToo] at last
          cases last
          exact absurd same newest
        · rw [if_neg declaresToo] at last
          exact ih latest last

/-- **What a name leads to declares it** exactly if it was the last to do so. -/
theorem declares_iff (latest : latest? added name = some g)
    (last : latestWith? kind added spelled = some h) (same : lowercaseText h.name = name) :
    spelled ∈ (kind g).map lowercaseText ↔ h = g := by
  constructor
  · exact fun declares => latestWith?_eq_of_latest? kind latest declares last same
  · rintro rfl
    exact (mem_of_latestWith? kind last).2

end Kinds

/-! ## What is found -/

/-- A name that no grammar has for an alias leads to the grammar of that name, and an alias to
the one of the name of the grammar that declared it last. -/
theorem get?_cases (added : List Grammar) (text : String) :
    (claimant? added (lowercaseText text) = none ∧
        (ofList added).get? text = latest? added (lowercaseText text)) ∨
      ∃ h, claimant? added (lowercaseText text) = some h ∧
        (ofList added).get? text = latest? added (lowercaseText h.name) := by
  rw [get?_ofList]
  cases claims : claimant? added (lowercaseText text) with
  | none => exact Or.inl ⟨rfl, rfl⟩
  | some h => exact Or.inr ⟨h, rfl, rfl⟩

/-- What a file is detected to be is the name of the grammar that declared its extension
last. -/
theorem exists_of_detect? {added : List Grammar} {path name : String}
    (found : (ofList added).detect? path = some name) :
    ∃ extension h, fileExtension? path = some extension ∧
      latestWith? Grammar.extensions added (lowercaseText extension) = some h ∧
        lowercaseText h.name = name := by
  rw [detect?] at found
  cases written : fileExtension? path with
  | none =>
      rw [written] at found
      cases found
  | some extension =>
      rw [written] at found
      simp only [get?_extensions, Option.map_eq_some_iff] at found
      obtain ⟨h, last, isName⟩ := found
      exact ⟨extension, h, rfl, last, isName⟩

/-- **The names of a replaced grammar stay.** Whatever grammars are added to those that are
known from the start, a name that leads to a grammar is its own name, or an alias that was
declared last by it or by a grammar of the same name, the place of which it has taken; and it is
among the grammar's own aliases exactly if it was declared last by it. It is the same with files:
what a file is detected to be is the name of a grammar that is loaded, and its extension was
declared last by this grammar or by one of the same name. -/
theorem names_of_replaced (known added : List Grammar) :
    let r := added.foldl add (ofList known)
    (∀ text g, r.get? text = some g →
        (claimant? (known ++ added) (lowercaseText text) = none ∧
            lowercaseText text = lowercaseText g.name) ∨
          ∃ h, claimant? (known ++ added) (lowercaseText text) = some h ∧
            lowercaseText h.name = lowercaseText g.name ∧
              (lowercaseText text ∈ g.aliases.map lowercaseText ↔ h = g)) ∧
      ∀ path name, r.detect? path = some name →
        ∃ extension g h, fileExtension? path = some extension ∧ r.grammars.get? name = some g ∧
          latestWith? Grammar.extensions (known ++ added) (lowercaseText extension) = some h ∧
            lowercaseText h.name = name ∧
              (lowercaseText extension ∈ g.extensions.map lowercaseText ↔ h = g) := by
  intro r
  have isList : r = ofList (known ++ added) := foldl_add_ofList known added
  rw [isList]
  refine ⟨fun text g found => ?_, fun path name found => ?_⟩
  · rcases get?_cases (known ++ added) text with ⟨unclaimed, same⟩ | ⟨h, claims, same⟩
    · exact Or.inl ⟨unclaimed, (lowercase_of_latest? (same.symm.trans found)).symm⟩
    · have latest := same.symm.trans found
      have isName := (lowercase_of_latest? latest).symm
      exact Or.inr ⟨h, claims, isName,
        declares_iff Grammar.aliases latest claims rfl⟩
  · obtain ⟨extension, h, written, last, isName⟩ := exists_of_detect? found
    obtain ⟨g, latest⟩ := exists_latest?_of_mem (mem_of_latestWith? Grammar.extensions last).1
    rw [isName] at latest
    exact ⟨extension, g, h, written, (get?_grammars _ _).trans latest, last, isName,
      declares_iff Grammar.extensions latest last isName⟩

/-- An alias that only the replaced grammar declares leads to the one in its place. -/
theorem names_of_replaced_alias :
    let old : Grammar := ⟨"A", ["Js"], ["x"], []⟩
    let new : Grammar := ⟨"a", [], [], []⟩
    let r := [old, new].foldl add (ofList [])
    r.get? "JS" = some new ∧ lowercaseText "JS" ≠ lowercaseText new.name ∧
      lowercaseText "JS" ∉ new.aliases.map lowercaseText ∧ claimant? [old, new] "js" = some old ∧
        old ≠ new := by
  intro old new r
  have claims : claimant? ([old] ++ [new]) (lowercaseText "JS") = some old := by
    rw [claimant?_concat, if_neg (by decide), ← List.nil_append [old], claimant?_concat,
      if_pos (by decide)]
  have latest : latest? ([old] ++ [new]) (lowercaseText old.name) = some new := by
    rw [latest?_concat, if_pos (by decide)]
  have found : r.get? "JS" = some new := by
    refine (get?_ofList ([old] ++ [new]) "JS").trans ?_
    rw [claims, Option.map_some, Option.getD_some, latest]
  have other : lowercaseText "JS" ≠ lowercaseText new.name := by decide
  refine ⟨found, other, ?_⟩
  rcases (names_of_replaced [] [old, new]).1 "JS" new found with ⟨_, own⟩ | ⟨h, isLast, _, declares⟩
  · exact absurd own other
  · cases claims.symm.trans isLast
    have different : old ≠ new := fun same => absurd (congrArg Grammar.aliases same) (by decide)
    exact ⟨mt declares.1 different, claims, different⟩

/-- **A replaced grammar leaves names that no loaded one declares**: its aliases and its
extensions lead to the grammar in its place. -/
theorem replaced_names_stay :
    let r := ofList [⟨"a", ["x"], ["y"], []⟩, ⟨"a", [], [], []⟩]
    (¬ ∀ text g, r.get? text = some g → lowercaseText text = lowercaseText g.name ∨
        lowercaseText text ∈ g.aliases.map lowercaseText) ∧
      ¬ ∀ path name, r.detect? path = some name →
        ∃ extension g, fileExtension? path = some extension ∧ r.grammars.get? name = some g ∧
          lowercaseText extension ∈ g.extensions.map lowercaseText := by
  intro r
  refine ⟨fun own => ?_, fun own => ?_⟩
  · have found : (r.get? "x").map (fun g => (g.name, g.aliases)) = some ("a", []) := by decide
    obtain ⟨g, leads, same⟩ := Option.map_eq_some_iff.1 found
    obtain ⟨isName, isNone⟩ := Prod.mk.inj same
    have either := own "x" g leads
    rw [isName, isNone] at either
    exact absurd either (by decide)
  · have stored : (r.grammars.get? "a").map Grammar.extensions = some [] := by decide
    obtain ⟨extension, g, _, leads, declares⟩ := own "f.y" "a" (by decide)
    rw [leads, Option.map_some] at stored
    rw [Option.some.inj stored] at declares
    exact absurd declares List.not_mem_nil

/-! ## No name is lost -/

/-- Grammars are found under the names that some grammar has or declares, and under no
others. -/
theorem get?_ne_none_iff {added : List Grammar} {text : String} :
    (ofList added).get? text ≠ none ↔ ∃ g ∈ added,
      lowercaseText g.name = lowercaseText text ∨
        lowercaseText text ∈ g.aliases.map lowercaseText := by
  rcases get?_cases added text with ⟨unclaimed, same⟩ | ⟨h, claims, same⟩
  · rw [same]
    constructor
    · intro some
      obtain ⟨g, latest⟩ := Option.ne_none_iff_exists'.1 some
      exact ⟨g, List.mem_reverse.1 (List.mem_of_find?_eq_some latest),
        Or.inl (lowercase_of_latest? latest)⟩
    · rintro ⟨g, member, isName | declares⟩
      · obtain ⟨h, latest⟩ := exists_latest?_of_mem member
        rw [← isName, latest]
        exact Option.some_ne_none h
      · obtain ⟨h, last⟩ := exists_latestWith? Grammar.aliases member declares
        exact absurd (last.symm.trans unclaimed) (Option.some_ne_none h)
  · have declared := mem_of_latestWith? Grammar.aliases claims
    obtain ⟨g, latest⟩ := exists_latest?_of_mem declared.1
    rw [same, latest]
    exact iff_of_true (Option.some_ne_none g) ⟨h, declared.1, Or.inr declared.2⟩

/-- A name leads to a grammar that is loaded, and texts are tokenized by this grammar if they are
to be tokenized by the name. -/
def LeadsOn (r : Registry) (name : String) : Prop :=
  ∃ g, r.grammars.get? (lowercaseText g.name) = some g ∧ r.get? name = some g ∧
    ∀ source, r.tokenizer source name = some (g.tokenize source)

/-- What is found is what is loaded under its own name. -/
theorem loaded_of_get? {added : List Grammar} {text : String} {g : Grammar}
    (found : (ofList added).get? text = some g) :
    (ofList added).grammars.get? (lowercaseText g.name) = some g := by
  rw [get?_ofList] at found
  rw [get?_grammars, lowercase_of_latest? found]
  exact found

/-- A name that some grammar has or declares leads on. -/
theorem leadsOn_of_declared {added : List Grammar} {text : String} {g : Grammar}
    (member : g ∈ added) (declares : lowercaseText g.name = lowercaseText text ∨
      lowercaseText text ∈ g.aliases.map lowercaseText) : (ofList added).LeadsOn text := by
  obtain ⟨found, leads⟩ :=
    Option.ne_none_iff_exists'.1 (get?_ne_none_iff.2 ⟨g, member, declares⟩)
  refine ⟨found, loaded_of_get? leads, leads, fun source => ?_⟩
  rw [tokenizer, leads, Option.map_some]

/-- **No name dangles.** Whatever grammars are added to those that are known from the start,
every alias that any of them has declared leads to a grammar that is loaded, and so does every
name that a file is detected to be; the case of letters never matters; and the names that are
listed ascend and are those of the grammars that were added, in small letters. -/
theorem no_dangling_names (known added : List Grammar) :
    let r := added.foldl add (ofList known)
    (∀ g ∈ known ++ added, ∀ other ∈ g.aliases, r.LeadsOn other) ∧
      (∀ path name, r.detect? path = some name → r.LeadsOn name) ∧
      (∀ text, r.get? text = r.get? (lowercaseText text)) ∧
      r.names.Pairwise (· < ·) ∧
      ∀ name, name ∈ r.names ↔ ∃ g ∈ known ++ added, lowercaseText g.name = name := by
  intro r
  have isList : r = ofList (known ++ added) := foldl_add_ofList known added
  rw [isList]
  refine ⟨fun g member other declares => ?_, fun path name found => ?_, fun text => ?_,
    Dictionary.pairwise_names _, fun name => ⟨fun listed => ?_, ?_⟩⟩
  · exact leadsOn_of_declared member (Or.inr (List.mem_map_of_mem declares))
  · obtain ⟨extension, h, _, last, isName⟩ := exists_of_detect? found
    refine leadsOn_of_declared (mem_of_latestWith? Grammar.extensions last).1 (Or.inl ?_)
    rw [← isName, lowercaseText_lowercaseText]
  · simp only [get?, lowercaseText_lowercaseText]
  · obtain ⟨g, latest⟩ := exists_latest?_of_mem_names listed
    exact ⟨g, List.mem_reverse.1 (List.mem_of_find?_eq_some latest), lowercase_of_latest? latest⟩
  · rintro ⟨g, member, rfl⟩
    obtain ⟨h, latest⟩ := exists_latest?_of_mem member
    refine Dictionary.mem_names_iff.2 ?_
    rw [get?_grammars, latest]
    rfl

/-- The names of a language that is known from the start and of the one put in its place. -/
theorem no_dangling_names_builtin :
    let mine : Grammar := ⟨"JavaScript", ["Mine"], ["Mine"], []⟩
    let r := [mine].foldl add (ofList Language.grammars)
    r.LeadsOn "js" ∧ r.LeadsOn "Mine" ∧ r.detect? "a.MINE" = some "javascript" ∧
      r.LeadsOn "javascript" := by
  intro mine r
  obtain ⟨aliases, files, _⟩ := no_dangling_names Language.grammars [mine]
  have detected : r.detect? "a.MINE" = some "javascript" := by decide +kernel
  exact ⟨aliases Language.JavaScript.grammar (List.mem_append_left _ List.mem_cons_self) "js"
      List.mem_cons_self,
    aliases mine (List.mem_append_right _ List.mem_cons_self) "Mine" List.mem_cons_self,
    detected, files _ _ detected⟩

end Registry

end Highlight
