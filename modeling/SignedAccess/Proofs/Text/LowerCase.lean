import SignedAccess.Text.Case

/-!
# What lower case leaves alone

The lower case of a text holds an ASCII mark only where the text does: beyond ASCII, lower case
leads to letters (`lowerChar_beyond`), and within ASCII it changes letters only.

    x ∈ lower t → x ∈ t     for x in ASCII that is no letter         (mem_of_mem_lower)
    s.map toLower = t.map toLower → lower s = lower t                (lower_eq_of_map_toLower_eq)
-/

namespace SignedAccess.Text

/-! ## The table -/

/-- A run of lower case either lies in ASCII, or leads from beyond ASCII to code points beyond
ASCII that are characters; the Kelvin sign alone leads back into ASCII. -/
theorem lowerRuns_props : ∀ run ∈ lowerRuns,
    run.2.1 < 0x80 ∨ run = (0x212A, 0x212A, 1, -8383) ∨ 0x80 ≤ run.1 ∧ 0x80 ≤ run.1 + run.2.2.2 ∧
      (run.2.1 + run.2.2.2 < 0xD800 ∨
        0xDFFF < run.1 + run.2.2.2 ∧ run.2.1 + run.2.2.2 < 0x110000) := by
  decide +kernel

/-- Whether a code point is among those of a run. -/
def LiesIn (run : Nat × Nat × Nat × Int) (n : Nat) : Prop :=
  run.1 ≤ n ∧ n ≤ run.2.1 ∧ (n - run.1) % run.2.2.1 = 0

/-- A code point moves by the shift of a run in which it lies, or not at all. -/
theorem shifted_cases (runs : List (Nat × Nat × Nat × Int)) (n : Nat) :
    shifted runs n = n ∨ ∃ run ∈ runs, LiesIn run n ∧ shifted runs n = (n + run.2.2.2).toNat := by
  induction runs with
  | nil => exact Or.inl rfl
  | cons run rest ih =>
    obtain ⟨first, last, step, shift⟩ := run
    rw [shifted]
    split
    · exact Or.inl rfl
    · next hfirst =>
      split
      · next h => exact Or.inr ⟨_, List.mem_cons_self, ⟨Nat.le_of_not_lt hfirst, h⟩, rfl⟩
      · rcases ih with h | ⟨run, hrun, h⟩
        · exact Or.inl h
        · exact Or.inr ⟨run, List.mem_cons_of_mem _ hrun, h⟩

theorem toNat_ofNat_of_valid {n : Nat} (h : n < 0xD800 ∨ 0xDFFF < n ∧ n < 0x110000) :
    (Char.ofNat n).toNat = n := by
  have hvalid : n.isValidChar := h
  have haux : Char.ofNat n = Char.ofNatAux n hvalid := dif_pos hvalid
  rw [haux]
  rfl

/-- Beyond ASCII, lower case leaves a character as it is, gives the capital I with a dot in two
parts, or leads to another character of the table; the Kelvin sign is the one that leads back into
ASCII. -/
theorem lowerChar_cases {c x : Char} (h : 0x80 ≤ c.toNat) (hx : x ∈ lowerChar c) :
    (x = c ∧ lowerChar c = [c]) ∨ x = 'i' ∨ x = Char.ofNat 0x307 ∨ x = 'k' ∨ (0x80 ≤ x.toNat ∧
      ∃ run ∈ lowerRuns, LiesIn run c.toNat ∧ (x.toNat : Int) = c.toNat + run.2.2.2) := by
  have hlower : lowerChar c = if c.toNat = 0x130 then ['i', Char.ofNat 0x307]
      else [Char.ofNat (shifted lowerRuns c.toNat)] := if_neg (by omega)
  rw [hlower] at hx
  split at hx
  · simp only [List.mem_cons, List.not_mem_nil, or_false] at hx
    rcases hx with rfl | rfl
    · exact Or.inr (Or.inl rfl)
    · exact Or.inr (Or.inr (Or.inl rfl))
  · next hdot =>
    rw [List.mem_singleton] at hx
    rcases shifted_cases lowerRuns c.toNat with hs | ⟨run, hrun, hlies, hs⟩
    · rw [hs, Char.ofNat_toNat] at hx
      rw [hlower, if_neg hdot, hs, Char.ofNat_toNat]
      exact Or.inl ⟨hx, rfl⟩
    · have hfirst := hlies.1
      have hlast := hlies.2.1
      rcases lowerRuns_props run hrun with hr | rfl | ⟨-, hlow, hvalid⟩
      · omega
      · simp only at hfirst hlast hs
        rw [show c.toNat = 0x212A by omega] at hs
        rw [hx, show c.toNat = 0x212A by omega, hs]
        exact Or.inr (Or.inr (Or.inr (Or.inl rfl)))
      · rw [hs] at hx
        have hnat : x.toNat = (c.toNat + run.2.2.2).toNat := by
          rw [hx, toNat_ofNat_of_valid (by omega)]
        exact Or.inr (Or.inr (Or.inr (Or.inr ⟨by omega, run, hrun, hlies, by omega⟩)))

/-- Beyond ASCII, lower case leads to characters beyond ASCII, to `i` (with a mark) or to `k`. -/
theorem lowerChar_beyond {c x : Char} (h : 0x80 ≤ c.toNat) (hx : x ∈ lowerChar c) :
    0x80 ≤ x.toNat ∨ x = 'i' ∨ x = 'k' := by
  rcases lowerChar_cases h hx with ⟨rfl, -⟩ | rfl | rfl | rfl | ⟨hx, -⟩
  · exact Or.inl h
  · exact Or.inr (Or.inl rfl)
  · exact Or.inl (by decide)
  · exact Or.inr (Or.inr rfl)
  · exact Or.inl hx

/-! ## Texts -/

theorem toLower_of_not_alpha : ∀ n, n < 0x80 → (Char.ofNat n).toLower.isAlpha = false →
    (Char.ofNat n).toLower = Char.ofNat n := by
  decide

/-- Lower case brings in no ASCII character but letters. -/
theorem eq_of_mem_lowerChar {c x : Char} (hx : x.toNat < 0x80) (halpha : x.isAlpha = false)
    (h : x ∈ lowerChar c) : x = c := by
  by_cases hc : c.toNat < 0x80
  · rw [lowerChar_of_ascii hc, List.mem_singleton] at h
    have hlower := toLower_of_not_alpha c.toNat hc
    rw [Char.ofNat_toNat, ← h] at hlower
    exact hlower halpha
  · rcases lowerChar_beyond (by omega) h with h | rfl | rfl
    · omega
    · exact absurd halpha (by decide)
    · exact absurd halpha (by decide)

theorem mem_of_mem_lowerFrom {t : Text} {x : Char} (hx : x.toNat < 0x80)
    (halpha : x.isAlpha = false) {afterCased : Bool} (h : x ∈ lowerFrom afterCased t) : x ∈ t := by
  induction t generalizing afterCased with
  | nil => exact h
  | cons c t ih =>
    rw [lowerFrom, List.mem_append] at h
    rcases h with h | h
    · split at h
      · rw [List.mem_singleton] at h
        rw [h] at hx
        split at hx <;> exact absurd hx (by decide)
      · rw [eq_of_mem_lowerChar hx halpha h]
        exact List.mem_cons_self
    · exact List.mem_cons_of_mem _ (ih h)

/-- An ASCII mark in the lower case of a text stands in the text. -/
theorem mem_of_mem_lower {t : Text} {x : Char} (hx : x.toNat < 0x80) (halpha : x.isAlpha = false)
    (h : x ∈ lower t) : x ∈ t :=
  mem_of_mem_lowerFrom hx halpha h

/-! ## ASCII letter case -/

theorem toLower_beyond {c : Char} (h : 0x80 ≤ c.toNat) : c.toLower = c := by
  have hz : ¬c.val ≤ 'Z'.val := by
    rw [UInt32.le_iff_toNat_le]
    exact Nat.not_le_of_lt (Nat.lt_of_lt_of_le (by decide) h)
  exact dif_neg fun hboth => hz hboth.2

/-- What does not tell the case of ASCII letters does not tell that of any character. -/
theorem eq_of_ascii_eq {α : Type} (f : Char → α)
    (h : ∀ n, n < 0x80 → f (Char.ofNat n).toLower = f (Char.ofNat n)) (c : Char) :
    f c.toLower = f c := by
  by_cases hc : c.toNat < 0x80
  · have heq := h c.toNat hc
    rwa [Char.ofNat_toNat] at heq
  · rw [toLower_beyond (by omega)]

theorem isCased_toLower (c : Char) : isCased c.toLower = isCased c :=
  eq_of_ascii_eq isCased (by decide +kernel) c

theorem isIgnorable_toLower (c : Char) : isIgnorable c.toLower = isIgnorable c :=
  eq_of_ascii_eq isIgnorable (by decide +kernel) c

theorem lowerChar_toLower (c : Char) : lowerChar c.toLower = lowerChar c :=
  eq_of_ascii_eq lowerChar (by decide +kernel) c

theorem toLower_eq_sigma_iff (c : Char) : c.toLower = 'Σ' ↔ c = 'Σ' :=
  eq_iff_iff.1 (eq_of_ascii_eq (· = 'Σ') (by simp only [eq_iff_iff]; decide +kernel) c)

theorem startsCased_map_toLower (t : Text) : startsCased (t.map Char.toLower) = startsCased t := by
  induction t with
  | nil => rfl
  | cons c t ih => simp only [List.map_cons, startsCased, isIgnorable_toLower, isCased_toLower, ih]

theorem lowerFrom_map_toLower (afterCased : Bool) (t : Text) :
    lowerFrom afterCased (t.map Char.toLower) = lowerFrom afterCased t := by
  induction t generalizing afterCased with
  | nil => rfl
  | cons c t ih =>
    simp only [List.map_cons, lowerFrom, toLower_eq_sigma_iff, lowerChar_toLower,
      isIgnorable_toLower, isCased_toLower, startsCased_map_toLower, ih]

/-- The case of ASCII letters does not count in lower case, not even for the sigma at the end of a
word. -/
theorem lower_eq_of_map_toLower_eq {s t : Text} (h : s.map Char.toLower = t.map Char.toLower) :
    lower s = lower t := by
  have hs : lower (s.map Char.toLower) = lower s := lowerFrom_map_toLower false s
  have ht : lower (t.map Char.toLower) = lower t := lowerFrom_map_toLower false t
  rw [← hs, ← ht, h]

end SignedAccess.Text
