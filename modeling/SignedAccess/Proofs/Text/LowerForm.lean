import Mathlib.Data.List.Basic
import SignedAccess.Proofs.Text.Trim

/-!
# Texts in lower case

Lower case leads to characters that are their own lower case: what a run of the table leads to is
moved by no run (`lowerRuns_miss`).  Nor does it lead to a blank, so that a text without blanks at
its ends has none at the ends of its lower case.

    lower (lower t) = lower t                                        (lower_lower)
    trim t = t → trim (lower t) = lower t                            (trim_lower)
-/

namespace SignedAccess.Text

/-! ## The table -/

/-- Whether a run leads to none of every `step` from `first` to `last`: to code points below or
above all of them, or between them. -/
def misses (run : Nat × Nat × Nat × Int) (first last step : Nat) : Bool :=
  let low := (run.1 + run.2.2.2).toNat
  let high := (run.2.1 + run.2.2.2).toNat
  Nat.blt high first || Nat.blt last low ||
    (step == 2 && (run.2.2.1 == 2 || low == high) && (low + first) % 2 == 1)

/-- What a run of lower case leads to is moved by none, and is neither the capital I with a dot nor
a blank. -/
theorem lowerRuns_miss : ∀ run ∈ lowerRuns, 0 ≤ run.1 + run.2.2.2 ∧
    (lowerRuns.all fun other => misses run other.1 other.2.1 other.2.2.1) ∧
      misses run 0x130 0x130 1 ∧ blankRanges.all fun range => misses run range.1 range.2 1 := by
  decide +kernel

theorem not_liesIn_of_misses {run : Nat × Nat × Nat × Int} {n m : Nat}
    (hstart : 0 ≤ run.1 + run.2.2.2) (hrun : LiesIn run n) (hm : (m : Int) = n + run.2.2.2)
    (other : Nat × Nat × Nat × Int) (h : misses run other.1 other.2.1 other.2.2.1 = true) :
    ¬LiesIn other m := by
  obtain ⟨hfirst, hlast, hstep⟩ := hrun
  rintro ⟨hfirst', hlast', hstep'⟩
  simp only [misses, Bool.or_eq_true, Bool.and_eq_true, Nat.blt_eq, beq_iff_eq] at h
  rcases h with (h | h) | ⟨⟨htwo, hrun | hone⟩, hodd⟩
  · omega
  · omega
  · rw [htwo] at hstep'
    rw [hrun] at hstep
    omega
  · rw [htwo] at hstep'
    omega

/-! ## Characters -/

def IsLower (c : Char) : Prop := c ≠ 'Σ' ∧ lowerChar c = [c]

instance (c : Char) : Decidable (IsLower c) :=
  inferInstanceAs (Decidable (c ≠ 'Σ' ∧ lowerChar c = [c]))

theorem isLower_toLower : ∀ n, n < 0x80 → IsLower (Char.ofNat n).toLower := by
  decide +kernel

/-- Lower case leads to characters in lower case. -/
theorem isLower_of_mem_lowerChar {c x : Char} (hsigma : c ≠ 'Σ') (hx : x ∈ lowerChar c) :
    IsLower x := by
  by_cases hc : c.toNat < 0x80
  · rw [lowerChar_of_ascii hc, List.mem_singleton] at hx
    have hlower := isLower_toLower c.toNat hc
    rwa [Char.ofNat_toNat, ← hx] at hlower
  · rcases lowerChar_cases (by omega) hx with
      ⟨rfl, hself⟩ | rfl | rfl | rfl | ⟨hbeyond, run, hrun, hlies, hx⟩
    · exact ⟨hsigma, hself⟩
    · decide +kernel
    · decide +kernel
    · decide +kernel
    · obtain ⟨hstart, hothers, hdot, -⟩ := lowerRuns_miss run hrun
      have hmoved (other) (hother : other ∈ lowerRuns) : ¬LiesIn other x.toNat :=
        not_liesIn_of_misses hstart hlies hx other (List.all_eq_true.1 hothers other hother)
      have hne : x.toNat ≠ 0x130 := fun heq =>
        not_liesIn_of_misses hstart hlies hx (0x130, 0x130, 1, 0) hdot
          ⟨Nat.le_of_eq heq.symm, Nat.le_of_eq heq, Nat.mod_one _⟩
      have hshifted : shifted lowerRuns x.toNat = x.toNat := by
        rcases shifted_cases lowerRuns x.toNat with hs | ⟨other, hother, hlies', -⟩
        · exact hs
        · exact absurd hlies' (hmoved other hother)
      refine ⟨?_, ?_⟩
      · -- the capital sigma lies in a run
        rintro rfl
        exact hmoved (0x3A3, 0x3AB, 1, 32) (by decide +kernel) ⟨by decide, by decide, by decide⟩
      · rw [lowerChar, if_neg (by omega), if_neg hne, hshifted, Char.ofNat_toNat]

/-- Lower case leads to no blank from another character. -/
theorem isBlank_of_mem_lowerChar {c x : Char} (hx : x ∈ lowerChar c) (hblank : isBlank x = true) :
    isBlank c = true := by
  by_cases hc : c.toNat < 0x80
  · rw [lowerChar_of_ascii hc, List.mem_singleton] at hx
    rwa [hx, isBlank_toLower] at hblank
  · rcases lowerChar_cases (by omega) hx with
      ⟨rfl, -⟩ | rfl | rfl | rfl | ⟨-, run, hrun, hlies, hx⟩
    · exact hblank
    · exact absurd hblank (by decide)
    · exact absurd hblank (by decide)
    · exact absurd hblank (by decide)
    · obtain ⟨hstart, -, -, hblanks⟩ := lowerRuns_miss run hrun
      obtain ⟨range, hrange, hfirst, hlast⟩ := exists_range_of_inRanges hblank
      exact absurd ⟨hfirst, hlast, Nat.mod_one _⟩
        (not_liesIn_of_misses hstart hlies hx (range.1, range.2, 1, 0)
          (List.all_eq_true.1 hblanks range hrange))

/-! ## Texts -/

theorem isLower_of_mem_lowerFrom {afterCased : Bool} {t : Text} {x : Char}
    (hx : x ∈ lowerFrom afterCased t) : IsLower x := by
  induction t generalizing afterCased with
  | nil => cases hx
  | cons c t ih =>
    rw [lowerFrom, List.mem_append] at hx
    rcases hx with hx | hx
    · split at hx
      · rw [List.mem_singleton] at hx
        rw [hx]
        split
        · decide +kernel
        · decide +kernel
      · next hsigma => exact isLower_of_mem_lowerChar hsigma hx
    · exact ih hx

theorem lowerFrom_of_isLower {t : Text} (h : ∀ c ∈ t, IsLower c) (afterCased : Bool) :
    lowerFrom afterCased t = t := by
  induction t generalizing afterCased with
  | nil => rfl
  | cons c t ih =>
    obtain ⟨hsigma, hself⟩ := h c List.mem_cons_self
    rw [lowerFrom, if_neg hsigma, hself, ih fun x hx => h x (List.mem_cons_of_mem _ hx),
      List.singleton_append]

/-- A text in lower case is its own lower case. -/
theorem lower_lower (t : Text) : lower (lower t) = lower t :=
  lowerFrom_of_isLower (fun _ hx => isLower_of_mem_lowerFrom hx) false

/-! ## Ends of texts -/

theorem lowerChar_ne_nil (c : Char) : lowerChar c ≠ [] := by
  unfold lowerChar
  split
  · exact List.cons_ne_nil _ _
  · split
    · exact List.cons_ne_nil _ _
    · exact List.cons_ne_nil _ _

/-- Lower case begins with what the first character leads to, which is no blank unless that
character is one. -/
theorem exists_lowerFrom_cons (afterCased : Bool) (c : Char) (t : Text) :
    ∃ image afterCased', lowerFrom afterCased (c :: t) = image ++ lowerFrom afterCased' t ∧
      image ≠ [] ∧ ∀ x ∈ image, isBlank x = true → isBlank c = true := by
  refine ⟨_, _, rfl, ?_⟩
  split
  · refine ⟨List.cons_ne_nil _ _, fun x hx hblank => ?_⟩
    rw [List.mem_singleton] at hx
    rw [hx] at hblank
    split at hblank
    · exact absurd hblank (by decide)
    · exact absurd hblank (by decide)
  · exact ⟨lowerChar_ne_nil c, fun x => isBlank_of_mem_lowerChar⟩

theorem exists_lowerFrom_append (afterCased : Bool) (s t : Text) :
    ∃ front afterCased', lowerFrom afterCased (s ++ t) = front ++ lowerFrom afterCased' t := by
  induction s generalizing afterCased with
  | nil => exact ⟨[], afterCased, rfl⟩
  | cons c s ih =>
    obtain ⟨image, afterCased', hcons, -⟩ := exists_lowerFrom_cons afterCased c (s ++ t)
    obtain ⟨front, afterCased'', hrest⟩ := ih afterCased'
    refine ⟨image ++ front, afterCased'', ?_⟩
    rw [List.cons_append, hcons, hrest, List.append_assoc]

/-- A text without blanks at its ends has none at the ends of its lower case. -/
theorem trim_lower {t : Text} (h : trim t = t) : trim (lower t) = lower t := by
  obtain ⟨hfirst, hlast⟩ := trim_eq_self_iff.1 h
  refine trim_eq_self_iff.2 ⟨?_, ?_⟩
  · cases t with
    | nil => exact fun x hx => (nomatch hx)
    | cons c t =>
      obtain ⟨image, afterCased, hcons, hne, hblank⟩ := exists_lowerFrom_cons false c t
      obtain ⟨y, image, rfl⟩ := List.exists_cons_of_ne_nil hne
      intro x hx
      rw [lower, hcons, List.cons_append, List.head?_cons, Option.mem_some_iff] at hx
      refine Bool.eq_false_iff.2 fun hx' => ?_
      have hc := hblank y List.mem_cons_self (hx ▸ hx')
      rw [hfirst c rfl] at hc
      cases hc
  · rcases List.eq_nil_or_concat t with rfl | ⟨init, c, rfl⟩
    · exact fun x hx => (nomatch hx)
    · obtain ⟨front, afterCased, happend⟩ := exists_lowerFrom_append false init [c]
      obtain ⟨image, afterCased', hcons, hne, hblank⟩ := exists_lowerFrom_cons afterCased c []
      have hnil : lowerFrom afterCased' [] = [] := rfl
      rw [hnil, List.append_nil] at hcons
      intro x hx
      rw [List.concat_eq_append, lower, happend, hcons,
        List.getLast?_append_of_ne_nil _ hne] at hx
      refine Bool.eq_false_iff.2 fun hx' => ?_
      have hc := hblank x (List.mem_of_mem_getLast? hx) hx'
      rw [hlast c (by simp)] at hc
      cases hc

end SignedAccess.Text
