import Mathlib.Data.List.Chain
import SignedAccess.Text

/-!
# Runs of a character

A run is shortened wherever it stands: what other characters separate is shortened apart, and one
more character in a run makes no difference.  A text in which no two of the character stand side by
side is left alone, and only such a text is.

    collapse c (a ++ d :: b) = collapse c a ++ d :: collapse c b     (collapse_append_cons, d ≠ c)
    collapse c (a ++ c :: c :: b) = collapse c (a ++ c :: b)         (collapse_append_cons_cons)
    collapse c t = t ↔ NoRun c t                                     (collapse_eq_self_iff)
-/

namespace SignedAccess.Text

/-- Another character separates runs. -/
theorem collapse_append_cons {c d : Char} (h : d ≠ c) (a b : Text) :
    collapse c (a ++ d :: b) = collapse c a ++ d :: collapse c b := by
  induction a using collapse.induct c with
  | case1 => simp [collapse, collapse_cons_of_ne h]
  | case2 x => simp [collapse, h, collapse_cons_of_ne h]
  | case3 x y rest hxy ih => simpa [collapse, hxy] using ih
  | case4 x y rest hxy ih => simpa [collapse, hxy] using ih

/-- A run is as long as its first character. -/
theorem collapse_append_cons_cons (c : Char) (a b : Text) :
    collapse c (a ++ c :: c :: b) = collapse c (a ++ c :: b) := by
  induction a using collapse.induct c with
  | case1 => simp [collapse]
  | case2 x => by_cases hx : x = c <;> simp [collapse, hx]
  | case3 x y rest hxy ih => simpa [collapse, hxy] using ih
  | case4 x y rest hxy ih => simpa [collapse, hxy] using ih

/-! ## Texts without runs -/

/-- Whether no two of a character stand side by side. -/
def NoRun (c : Char) (t : Text) : Prop := t.IsChain fun x y => ¬(x = c ∧ y = c)

instance (c : Char) (t : Text) : Decidable (NoRun c t) :=
  inferInstanceAs (Decidable (t.IsChain fun x y => ¬(x = c ∧ y = c)))

theorem noRun_of_not_mem {c : Char} {t : Text} (h : c ∉ t) : NoRun c t := by
  unfold NoRun
  induction t with
  | nil => exact .nil
  | cons x t ih =>
    rw [List.mem_cons, not_or] at h
    exact List.isChain_cons.2 ⟨fun _ _ hxy => h.1 hxy.1.symm, ih h.2⟩

theorem head?_collapse (c : Char) (t : Text) : (collapse c t).head? = t.head? := by
  induction t using collapse.induct c with
  | case1 => rfl
  | case2 x => rfl
  | case3 x y rest hxy ih =>
    rw [collapse, if_pos hxy, ih, List.head?_cons, List.head?_cons, hxy.1, hxy.2]
  | case4 x y rest hxy ih => rw [collapse, if_neg hxy, List.head?_cons, List.head?_cons]

theorem getLast?_collapse (c : Char) (t : Text) : (collapse c t).getLast? = t.getLast? := by
  induction t using collapse.induct c with
  | case1 => rfl
  | case2 x => rfl
  | case3 x y rest hxy ih => rw [collapse, if_pos hxy, ih, List.getLast?_cons_cons]
  | case4 x y rest hxy ih =>
    obtain ⟨z, zs, hz⟩ := List.exists_cons_of_ne_nil (l := collapse c (y :: rest)) fun hnil => by
      have hhead := head?_collapse c (y :: rest)
      rw [hnil] at hhead
      cases hhead
    rw [collapse, if_neg hxy, List.getLast?_cons_cons, ← ih, hz, List.getLast?_cons_cons]

/-- What holds of neighbours holds of those in the shortened text: where a character is left out,
the next one stands in its place. -/
theorem isChain_collapse {r : Char → Char → Prop} (c : Char) {t : Text} (h : t.IsChain r) :
    (collapse c t).IsChain r := by
  induction t using collapse.induct c with
  | case1 => exact h
  | case2 x => exact h
  | case3 x y rest hxy ih =>
    rw [collapse, if_pos hxy]
    exact ih (List.isChain_cons.1 h).2
  | case4 x y rest hxy ih =>
    obtain ⟨hhead, htail⟩ := List.isChain_cons.1 h
    rw [collapse, if_neg hxy, List.isChain_cons, head?_collapse]
    exact ⟨hhead, ih htail⟩

/-- Shortening leaves no run. -/
theorem noRun_collapse (c : Char) (t : Text) : NoRun c (collapse c t) := by
  unfold NoRun
  induction t using collapse.induct c with
  | case1 => exact .nil
  | case2 x => exact .singleton x
  | case3 x y rest hxy ih =>
    rw [collapse, if_pos hxy]
    exact ih
  | case4 x y rest hxy ih =>
    rw [collapse, if_neg hxy, List.isChain_cons, head?_collapse]
    refine ⟨fun z hz => ?_, ih⟩
    rw [← Option.some.inj hz]
    exact hxy

/-- Just the texts without runs are left alone. -/
theorem collapse_eq_self_iff {c : Char} {t : Text} : collapse c t = t ↔ NoRun c t := by
  constructor
  · intro h
    have hno := noRun_collapse c t
    rwa [h] at hno
  · intro h
    induction t using collapse.induct c with
    | case1 => rfl
    | case2 x => rfl
    | case3 x y rest hxy ih => exact absurd hxy ((List.isChain_cons.1 h).1 y rfl)
    | case4 x y rest hxy ih => rw [collapse, if_neg hxy, ih (List.isChain_cons.1 h).2]

end SignedAccess.Text
