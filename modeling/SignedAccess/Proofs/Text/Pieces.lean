import SignedAccess.Text

/-!
# Texts in pieces

What a reader finds who cuts a text: at every separator, at the first or the last
occurrence of a pattern.

    splitOn c (joined [c] parts) = parts ↔ no part holds c          (splitOn_joined_iff)
    a ++ c :: b = a' ++ c :: b' → a = a' ∧ b = b'                    (append_cons_inj)
    cutAtLast? (c :: s) (a ++ c :: s ++ b) = some (a, b)             (cutAtLast?_append)

The last two hold where `c` does not stand in the parts that would move the cut.
-/

namespace SignedAccess.Text

/-! ## Algorithm -/

/-- What stands before and after the first occurrence of a pattern; none if there is none. -/
def cutAt? (pattern : Text) : Text → Option (Text × Text)
  | [] => (without? pattern []).map fun rest => ([], rest)
  | c :: t =>
    match without? pattern (c :: t) with
    | some rest => some ([], rest)
    | none => (cutAt? pattern t).map fun p => (c :: p.1, p.2)

/-- What stands before and after the last occurrence of a pattern; none if there is none. -/
def cutAtLast? (pattern : Text) : Text → Option (Text × Text)
  | [] => (without? pattern []).map fun rest => ([], rest)
  | c :: t =>
    match cutAtLast? pattern t with
    | some p => some (c :: p.1, p.2)
    | none => (without? pattern (c :: t)).map fun rest => ([], rest)

/-! ## Separators -/

/-- No piece holds the separator. -/
theorem not_mem_of_mem_splitOn {c : Char} {t piece : Text} (h : piece ∈ t.splitOn c) :
    c ∉ piece := by
  induction t generalizing piece with
  | nil => simp at h; simp [h]
  | cons x t ih =>
    rw [List.splitOn_cons_eq_if_modifyHead] at h
    by_cases hx : x = c
    · subst hx
      simp only [beq_self_eq_true, if_true, List.mem_cons] at h
      rcases h with rfl | h
      · exact List.not_mem_nil
      · exact ih h
    · obtain ⟨first, rest, hpieces⟩ := List.exists_cons_of_ne_nil (List.splitOn_ne_nil c t)
      rw [if_neg (by simpa using hx), hpieces, List.modifyHead_cons, List.mem_cons] at h
      rcases h with rfl | h
      · have hfirst : c ∉ first := ih (by rw [hpieces]; exact List.mem_cons_self)
        rw [List.mem_cons, not_or]
        exact ⟨fun e => hx e.symm, hfirst⟩
      · exact ih (by rw [hpieces]; exact List.mem_cons_of_mem _ h)

/-- Joined parts are found again just when none of them holds the separator. -/
theorem splitOn_joined_iff {c : Char} {parts : List Text} (hne : parts ≠ []) :
    (joined [c] parts).splitOn c = parts ↔ ∀ part ∈ parts, c ∉ part := by
  constructor
  · intro h part hpart
    rw [← h] at hpart
    exact not_mem_of_mem_splitOn hpart
  · intro h
    exact List.splitOn_intercalate c h hne

/-- A text is cut at the first `c` in one way only. -/
theorem append_cons_inj {c : Char} {a a' b b' : Text} (ha : c ∉ a) (ha' : c ∉ a')
    (h : a ++ c :: b = a' ++ c :: b') : a = a' ∧ b = b' := by
  have hcut := (cut?_eq_some_iff c (a ++ c :: b) a b).2 ⟨rfl, ha⟩
  have hcut' := (cut?_eq_some_iff c (a ++ c :: b) a' b').2 ⟨h, ha'⟩
  rw [hcut] at hcut'
  simpa using hcut'

/-- What stands before the first `c`, where that is known. -/
theorem before_append {c : Char} {a : Text} (ha : c ∉ a) (b : Text) :
    before c (a ++ c :: b) = a := by
  have hpos : ∀ x ∈ a, decide (x ≠ c) = true := fun x hx => by
    have hne : x ≠ c := fun e => ha (e ▸ hx)
    exact decide_eq_true hne
  unfold before
  rw [List.takeWhile_append_of_pos hpos]
  simp

theorem joined_cons (sep part : Text) {rest : List Text} (h : rest ≠ []) :
    joined sep (part :: rest) = part ++ (sep ++ joined sep rest) := by
  unfold joined
  rw [List.intercalate_cons_of_ne_nil h, List.append_assoc]

theorem mem_joined {c : Char} {sep : Text} {parts : List Text} (h : c ∈ joined sep parts) :
    c ∈ sep ∨ ∃ part ∈ parts, c ∈ part := by
  induction parts with
  | nil => cases h
  | cons part rest ih =>
    by_cases hrest : rest = []
    · rw [hrest, joined, List.intercalate_singleton] at h
      exact Or.inr ⟨part, List.mem_cons_self, h⟩
    · rw [joined_cons sep part hrest, List.mem_append, List.mem_append] at h
      rcases h with h | h | h
      · exact Or.inr ⟨part, List.mem_cons_self, h⟩
      · exact Or.inl h
      · rcases ih h with h | ⟨p, hp, h⟩
        · exact Or.inl h
        · exact Or.inr ⟨p, List.mem_cons_of_mem _ hp, h⟩

theorem mem_joined_of_mem {c : Char} {sep part : Text} {parts : List Text} (hpart : part ∈ parts)
    (hc : c ∈ part) : c ∈ joined sep parts := by
  induction parts with
  | nil => cases hpart
  | cons first rest ih =>
    by_cases hrest : rest = []
    · rw [hrest] at hpart ⊢
      rw [List.mem_singleton.1 hpart] at hc
      rwa [joined, List.intercalate_singleton]
    · rw [joined_cons sep first hrest, List.mem_append, List.mem_append]
      rcases List.mem_cons.1 hpart with rfl | hpart
      · exact Or.inl hc
      · exact Or.inr (Or.inr (ih hpart))

theorem map_joined (f : Char → Char) (sep : Text) (parts : List Text) :
    (joined sep parts).map f = joined (sep.map f) (parts.map (List.map f)) := by
  induction parts with
  | nil => rfl
  | cons part rest ih =>
    by_cases hrest : rest = []
    · rw [hrest]
      simp [joined]
    · rw [joined_cons sep part hrest, List.map_append, List.map_append, ih, List.map_cons,
        joined_cons _ _ (by simpa using hrest)]

/-- What is written for characters one by one is written for parts one by one, where the separator
stays. -/
theorem flatMap_joined {c : Char} {f : Char → Text} (hc : f c = [c]) (parts : List Text) :
    (joined [c] parts).flatMap f = joined [c] (parts.map (List.flatMap f)) := by
  induction parts with
  | nil => rfl
  | cons part rest ih =>
    by_cases hrest : rest = []
    · rw [hrest]
      simp [joined]
    · rw [joined_cons [c] part hrest, List.flatMap_append, List.flatMap_append,
        List.flatMap_singleton, hc, ih, List.map_cons, joined_cons _ _ (by simpa using hrest)]

/-- Two lists of parts that are joined, and joined to each other, are one list joined. -/
theorem joined_append (sep : Text) {parts more : List Text} (hparts : parts ≠ [])
    (hmore : more ≠ []) :
    joined sep (parts ++ more) = joined sep parts ++ (sep ++ joined sep more) := by
  induction parts with
  | nil => exact absurd rfl hparts
  | cons part rest ih =>
    by_cases hrest : rest = []
    · rw [hrest, List.singleton_append, joined_cons sep part hmore]
      simp [joined]
    · have hne : rest ++ more ≠ [] := List.append_ne_nil_of_left_ne_nil hrest more
      rw [List.cons_append, joined_cons sep part hne, ih hrest, joined_cons sep part hrest]
      simp only [List.append_assoc]

/-! ## Patterns -/

theorem without?_append (start t : Text) : without? start (start ++ t) = some t := by
  induction start with
  | nil => cases t <;> rfl
  | cons c start ih => simp [without?, ih]

/-- A pattern is found where it stands if nothing before it holds its first character. -/
theorem cutAt?_append {c : Char} {s a b : Text} (ha : c ∉ a) :
    cutAt? (c :: s) (a ++ c :: s ++ b) = some (a, b) := by
  induction a with
  | nil =>
    have hw := without?_append (c :: s) b
    simp only [List.nil_append, List.cons_append] at hw ⊢
    simp only [cutAt?, hw]
  | cons x a ih =>
    rw [List.mem_cons, not_or] at ha
    have hw : without? (c :: s) (x :: (a ++ c :: s ++ b)) = none := by simp [without?, ha.1]
    simp only [List.cons_append] at hw ⊢
    simp only [List.append_assoc, List.cons_append] at hw ih ⊢
    simp only [cutAt?, hw, ih ha.2, Option.map_some]

theorem cutAtLast?_eq_none {c : Char} {s t : Text} (h : c ∉ t) : cutAtLast? (c :: s) t = none := by
  induction t with
  | nil => rfl
  | cons x t ih =>
    rw [List.mem_cons, not_or] at h
    simp [cutAtLast?, ih h.2, without?, h.1]

/-- The last occurrence of a pattern is the one behind which its first character does not
stand. -/
theorem cutAtLast?_append {c : Char} {s a b : Text} (hs : c ∉ s) (hb : c ∉ b) :
    cutAtLast? (c :: s) (a ++ c :: s ++ b) = some (a, b) := by
  induction a with
  | nil =>
    have hw := without?_append (c :: s) b
    have hnone : cutAtLast? (c :: s) (s ++ b) = none :=
      cutAtLast?_eq_none (by rw [List.mem_append, not_or]; exact ⟨hs, hb⟩)
    simp only [List.nil_append, List.cons_append] at hw ⊢
    simp only [cutAtLast?, hnone, hw, Option.map_some]
  | cons x a ih =>
    simp only [List.cons_append] at ih ⊢
    simp only [cutAtLast?, ih]

end SignedAccess.Text
