import Highlight.Text.Lowercase

/-!
# Small letters stay as they are

A text in small letters is not changed by putting it into small letters again
(`lowercaseText_lowercaseText`).

What carries it is that no stretch of the mapping sends a character to where a stretch
takes characters from (`lowercaseMapping_apart`): the stretches are compared in pairs by
their ends and, where they take every second character only, by which one they begin with
(`CaseRun.apart`). So the small form of a character is its own small form, and it is
neither of the two capitals with a rule of their own (`isSmall_smallForm`).
-/

namespace Highlight

set_option autoImplicit false

namespace CaseRun

/-- Whether ascending stretches take none of the images under a stretch: each lies below
them all, between them or, with all that follow, above them all. -/
def apart (run : CaseRun) : List CaseRun → Bool
  | [] => true
  | other :: rest =>
      Nat.blt (run.image run.last) other.first ||
        ((Nat.blt other.last (run.image run.first) ||
            (other.step == 2 && (run.step == 2 || run.first == run.last) &&
              (run.image run.first + other.first) % 2 == 1)) &&
          run.apart rest)

/-- Whether a code point is outside the images under a stretch. -/
def misses (run : CaseRun) (code : Nat) : Bool :=
  Nat.blt (run.image run.last) code || Nat.blt code (run.image run.first)

/-- What a stretch that holds a code point says of it. -/
theorem bounds_of_holds {run : CaseRun} {code : Nat} (holds : run.holds code = true) :
    run.first ≤ code ∧ code ≤ run.last ∧ (code - run.first) % run.step = 0 := by
  simp only [CaseRun.holds, Bool.and_eq_true, decide_eq_true_eq, beq_iff_eq] at holds
  exact ⟨holds.1.1, holds.1.2, holds.2⟩

theorem image_bounds {run : CaseRun} {code : Nat} (holds : run.holds code = true) :
    run.image run.first ≤ run.image code ∧ run.image code ≤ run.image run.last := by
  obtain ⟨low, high, _⟩ := bounds_of_holds holds
  simp only [image, Int.ofNat_eq_natCast]
  omega

theorem image_ne_of_misses {run : CaseRun} {code missed : Nat} (holds : run.holds code = true)
    (misses : run.misses missed = true) : run.image code ≠ missed := by
  have bounds := image_bounds holds
  simp only [CaseRun.misses, Bool.or_eq_true, Nat.blt_eq] at misses
  omega

/-- Stretches that lie apart from the images under a stretch leave them where they
are. -/
theorem imageIn_image {run : CaseRun} {runs : List CaseRun}
    (forward : 0 ≤ Int.ofNat run.first + run.shift) (apart : run.apart runs = true) {code : Nat}
    (holds : run.holds code = true) : imageIn runs (run.image code) = run.image code := by
  obtain ⟨low, high, steps⟩ := bounds_of_holds holds
  induction runs with
  | nil => rfl
  | cons other rest ih =>
      simp only [CaseRun.apart, Bool.or_eq_true, Bool.and_eq_true, Nat.blt_eq, beq_iff_eq] at apart
      simp only [imageIn]
      rcases apart with above | ⟨beside, apart⟩
      · rw [if_pos (Nat.lt_of_le_of_lt (image_bounds holds).2 above)]
      · have notHeld : ¬ other.holds (run.image code) = true := by
          intro held
          obtain ⟨low', high', steps'⟩ := bounds_of_holds held
          simp only [image, Int.ofNat_eq_natCast] at *
          rcases beside with below | ⟨⟨twoOther, two | same⟩, odd⟩
          · omega
          · rw [two] at steps
            rw [twoOther] at steps'
            omega
          · rw [twoOther] at steps'
            omega
        rw [if_neg notHeld, ih apart, ite_self]

/-- Stretches leave a code point where it is, or one of them holds it and sends it to
its image. -/
theorem imageIn_cases (runs : List CaseRun) (code : Nat) :
    imageIn runs code = code ∨
      ∃ run ∈ runs, run.holds code = true ∧ imageIn runs code = run.image code := by
  induction runs with
  | nil => exact Or.inl rfl
  | cons run rest ih =>
      simp only [imageIn]
      split
      · exact Or.inl rfl
      · split
        · next holds => exact Or.inr ⟨run, List.mem_cons_self, holds, rfl⟩
        · rcases ih with stays | ⟨other, member, holds, isImage⟩
          · exact Or.inl stays
          · exact Or.inr ⟨other, List.mem_cons_of_mem _ member, holds, isImage⟩

end CaseRun

open CaseRun

/-- No stretch of the mapping sends a character to where one takes characters from, or
to the dotted capital I. -/
theorem lowercaseMapping_apart :
    (lowercaseMapping.all fun run =>
      decide (0 ≤ Int.ofNat run.first + run.shift) && run.misses dottedCapitalI.toNat &&
        run.apart lowercaseMapping) = true := by
  decide +kernel

/-- The small form of a character that has one by itself. -/
def smallForm (c : Char) : Char := Char.ofNat (imageIn lowercaseMapping c.toNat)

/-- A character that is its own small form wherever it stands. -/
structure IsSmall (c : Char) : Prop where
  notDotted : c ≠ dottedCapitalI
  notSigma : c ≠ capitalSigma
  settled : smallForm c = c

/-- **The small form of a character is small**, but for the two capitals with a rule of
their own. -/
theorem isSmall_smallForm {c : Char} (notDotted : c ≠ dottedCapitalI)
    (notSigma : c ≠ capitalSigma) : IsSmall (smallForm c) := by
  rcases imageIn_cases lowercaseMapping c.toNat with stays | ⟨run, member, holds, isImage⟩
  · have same : smallForm c = c := by rw [smallForm, stays, Char.ofNat_toNat]
    rw [same]
    exact ⟨notDotted, notSigma, same⟩
  · have isForm : smallForm c = Char.ofNat (run.image c.toNat) := congrArg Char.ofNat isImage
    have each := List.all_eq_true.1 lowercaseMapping_apart run member
    simp only [Bool.and_eq_true, decide_eq_true_eq] at each
    obtain ⟨⟨forward, misses⟩, apart⟩ := each
    by_cases valid : (run.image c.toNat).isValidChar
    · have code : (smallForm c).toNat = run.image c.toNat := by
        rw [isForm, Char.ofNat, dif_pos valid]
        rfl
      have settled : smallForm (smallForm c) = smallForm c := by
        rw [smallForm, code, imageIn_image forward apart holds, isForm]
      refine ⟨?_, ?_, settled⟩
      · intro same
        exact image_ne_of_misses holds misses (code.symm.trans (congrArg Char.toNat same))
      · intro same
        rw [same] at settled
        exact absurd settled (by decide)
    · have zero : smallForm c = Char.ofNat 0 := by
        rw [isForm, Char.ofNat, dif_neg valid]
        rfl
      rw [zero]
      exact ⟨by decide, by decide, by decide⟩

/-! ## Texts -/

theorem smallForms_small : ∀ c ∈ ['i', Char.ofNat 0x307, Char.ofNat 0x3C2, Char.ofNat 0x3C3],
    c ≠ dottedCapitalI ∧ c ≠ capitalSigma ∧ smallForm c = c := by
  have all : ['i', Char.ofNat 0x307, Char.ofNat 0x3C2, Char.ofNat 0x3C3].all fun c =>
      c ≠ dottedCapitalI ∧ c ≠ capitalSigma ∧ smallForm c = c := by
    decide
  exact fun c among => of_decide_eq_true (List.all_eq_true.1 all c among)

/-- All that is put for a character is small. -/
theorem isSmall_of_mem_lowercaseChar {before after : List Char} {c d : Char}
    (member : d ∈ lowercaseChar before c after) : IsSmall d := by
  have special : d ∈ ['i', Char.ofNat 0x307, Char.ofNat 0x3C2, Char.ofNat 0x3C3] → IsSmall d :=
    fun among => ⟨(smallForms_small d among).1, (smallForms_small d among).2.1,
      (smallForms_small d among).2.2⟩
  simp only [lowercaseChar] at member
  split at member
  · exact special (List.mem_append_left [Char.ofNat 0x3C2, Char.ofNat 0x3C3] member)
  · next notDotted =>
    split at member
    · split at member
      · exact special (by simp_all)
      · exact special (by simp_all)
    · next notSigma =>
      cases List.mem_singleton.1 member
      exact isSmall_smallForm notDotted notSigma

theorem isSmall_of_mem_lowercaseList {before rest : List Char} {d : Char}
    (member : d ∈ lowercaseList before rest) : IsSmall d := by
  induction rest generalizing before with
  | nil => exact absurd member List.not_mem_nil
  | cons c rest ih =>
      rcases List.mem_append.1 member with here | later
      · exact isSmall_of_mem_lowercaseChar here
      · exact ih later

/-- Small characters are left as they are. -/
theorem lowercaseList_of_isSmall {before rest : List Char} (small : ∀ c ∈ rest, IsSmall c) :
    lowercaseList before rest = rest := by
  induction rest generalizing before with
  | nil => rfl
  | cons c rest ih =>
      have first := small c List.mem_cons_self
      have stays : lowercaseChar before c rest = [c] := by
        simp only [lowercaseChar, if_neg first.notDotted, if_neg first.notSigma]
        exact congrArg (fun d => [d]) first.settled
      rw [lowercaseList, stays, ih fun d member => small d (List.mem_cons_of_mem _ member)]
      rfl

/-- **Small letters stay as they are.** -/
theorem lowercaseText_lowercaseText (text : String) :
    lowercaseText (lowercaseText text) = lowercaseText text := by
  simp only [lowercaseText, String.toList_ofList]
  rw [lowercaseList_of_isSmall fun _ member => isSmall_of_mem_lowercaseList member]

end Highlight
