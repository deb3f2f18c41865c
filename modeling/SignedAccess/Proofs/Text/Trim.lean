import Mathlib.Data.List.DropRight
import SignedAccess.Proofs.Text.LowerCase
import SignedAccess.Text.Blank

/-!
# Blanks at the ends of a text

Blanks around a text do not count, whatever the text; within it they stay where a character that is
no blank stands on either side.

    trim (before ++ t ++ after) = trim t          for blanks before and after     (trim_around)
    trim (a ++ c :: b) = trimStart a ++ c :: trimEnd b    where c is no blank     (trim_append_cons)
    trim t = t ↔ the first and the last character of t are no blanks              (trim_eq_self_iff)
-/

namespace SignedAccess.Text

def AllBlank (t : Text) : Prop := ∀ c ∈ t, isBlank c = true

instance (t : Text) : Decidable (AllBlank t) :=
  List.decidableBAll (fun c => isBlank c = true) t

/-! ## One end -/

section
variable {p : Char → Bool} {c : Char} {a b : Text}

theorem trimEnd_eq_rdropWhile (p : Char → Bool) (t : Text) : trimEnd p t = t.rdropWhile p := rfl

theorem dropWhile_append_cons (h : p c = false) :
    (a ++ c :: b).dropWhile p = a.dropWhile p ++ c :: b := by
  rw [List.dropWhile_append, List.dropWhile_cons_of_neg (Bool.not_eq_true _ ▸ h)]
  split
  · next hempty => rw [List.isEmpty_iff.1 hempty, List.nil_append]
  · rfl

theorem trimEnd_append_cons (h : p c = false) :
    trimEnd p (a ++ c :: b) = a ++ c :: trimEnd p b := by
  unfold trimEnd
  rw [List.reverse_append, List.reverse_cons, List.append_assoc, List.singleton_append,
    dropWhile_append_cons h]
  simp

theorem trimEnd_append (h : ∀ x ∈ b, p x = true) : trimEnd p (a ++ b) = trimEnd p a := by
  unfold trimEnd
  rw [List.reverse_append, List.dropWhile_append_of_pos fun x hx => h x (List.mem_reverse.1 hx)]

end

/-! ## Both ends -/

theorem mem_of_mem_trim {c : Char} {t : Text} (h : c ∈ trim t) : c ∈ t := by
  have hmem : c ∈ t.dropWhile isBlank := (List.rdropWhile_prefix isBlank _).subset h
  exact (List.dropWhile_sublist isBlank).subset hmem

theorem trim_append_left {before : Text} (h : AllBlank before) (t : Text) :
    trim (before ++ t) = trim t := by
  unfold trim trimBoth
  rw [List.dropWhile_append_of_pos h]

theorem trim_append_right {after : Text} (h : AllBlank after) (t : Text) :
    trim (t ++ after) = trim t := by
  unfold trim trimBoth
  rw [List.dropWhile_append]
  split
  · next hempty =>
    have hnone : after.dropWhile isBlank = [] := by
      have hall := @List.dropWhile_append_of_pos _ isBlank _ [] h
      rwa [List.append_nil, List.dropWhile_nil] at hall
    rw [hnone, List.isEmpty_iff.1 hempty]
  · exact trimEnd_append h

/-- Blanks around a text do not count. -/
theorem trim_around {before after : Text} (hbefore : AllBlank before) (hafter : AllBlank after)
    (t : Text) : trim (before ++ t ++ after) = trim t := by
  rw [trim_append_right hafter, trim_append_left hbefore]

/-- A text that is trimmed at its start is trimmed as the whole. -/
theorem trim_dropWhile (t : Text) : trim (t.dropWhile isBlank) = trim t := by
  have hblank : AllBlank (t.takeWhile isBlank) := fun c hc => List.mem_takeWhile_imp hc
  have heq := trim_append_left hblank (t.dropWhile isBlank)
  rw [List.takeWhile_append_dropWhile] at heq
  exact heq.symm

/-- A text that is trimmed at its end is trimmed as the whole. -/
theorem trim_trimEnd (t : Text) : trim (trimEnd isBlank t) = trim t := by
  have hblank : AllBlank (t.rtakeWhile isBlank) := fun c hc => List.mem_rtakeWhile_imp hc
  have heq := trim_append_right hblank (trimEnd isBlank t)
  rw [trimEnd_eq_rdropWhile, List.rdropWhile_append_rtakeWhile] at heq
  exact heq.symm

theorem trim_of_allBlank {t : Text} (h : AllBlank t) : trim t = [] := by
  have hnil := trim_append_left h []
  rwa [List.append_nil] at hnil

/-- Where a character is no blank, the text before it is trimmed at its start alone and the text
behind it at its end. -/
theorem trim_append_cons {c : Char} (h : isBlank c = false) (a b : Text) :
    trim (a ++ c :: b) = a.dropWhile isBlank ++ c :: trimEnd isBlank b := by
  unfold trim trimBoth
  rw [dropWhile_append_cons h, trimEnd_append_cons h]

/-- Where characters that are no blanks stand on either side, what stands between them stays. -/
theorem trim_append_append {front back : Text} (hfront : ¬AllBlank front) (hback : ¬AllBlank back)
    (inner : Text) :
    trim (front ++ (inner ++ back)) =
      front.dropWhile isBlank ++ (inner ++ trimEnd isBlank back) := by
  have hstart : (front.dropWhile isBlank).isEmpty = false := by
    rw [List.isEmpty_eq_false_iff, ne_eq, List.dropWhile_eq_nil_iff]
    exact hfront
  have hend : (back.reverse.dropWhile isBlank).isEmpty = false := by
    rw [List.isEmpty_eq_false_iff, ne_eq, List.dropWhile_eq_nil_iff]
    exact fun h => hback fun c hc => h c (List.mem_reverse.2 hc)
  unfold trim trimBoth trimEnd
  rw [List.dropWhile_append, hstart]
  simp only [Bool.false_eq_true, if_false, List.reverse_append, List.append_assoc]
  rw [List.dropWhile_append, hend]
  simp

/-! ## Trimmed texts -/

/-- A text is trimmed just when it is at either end. -/
theorem trim_eq_self_iff_ends {t : Text} :
    trim t = t ↔ t.dropWhile isBlank = t ∧ trimEnd isBlank t = t := by
  constructor
  · intro h
    have hend : (trim t).Sublist (t.dropWhile isBlank) := (List.rdropWhile_prefix isBlank _).sublist
    rw [h] at hend
    have hstart : t.dropWhile isBlank = t :=
      (List.dropWhile_sublist isBlank).eq_of_length_le hend.length_le
    unfold trim trimBoth at h
    rw [hstart] at h
    exact ⟨hstart, h⟩
  · rintro ⟨hstart, hend⟩
    unfold trim trimBoth
    rw [hstart, hend]

/-- A text is trimmed just when it has no blank at either end. -/
theorem trim_eq_self_iff {t : Text} : trim t = t ↔
    (∀ c ∈ t.head?, isBlank c = false) ∧ ∀ c ∈ t.getLast?, isBlank c = false := by
  rw [trim_eq_self_iff_ends, List.dropWhile_eq_self_iff, trimEnd_eq_rdropWhile,
    List.rdropWhile_eq_self_iff]
  cases t with
  | nil => simp
  | cons c t => simp [List.getLast?_eq_some_getLast]

theorem trim_trim (t : Text) : trim (trim t) = trim t := by
  have heq := trim_trimEnd (t.dropWhile isBlank)
  rwa [trim_dropWhile] at heq

/-- Nothing but blanks is trimmed to nothing. -/
theorem trim_eq_nil_iff {t : Text} : trim t = [] ↔ AllBlank t := by
  constructor
  · intro h c hc
    refine Classical.byContradiction fun hblank => ?_
    obtain ⟨front, back, rfl⟩ := List.append_of_mem hc
    rw [trim_append_cons (by simpa using hblank)] at h
    exact List.append_ne_nil_of_right_ne_nil _ (List.cons_ne_nil _ _) h
  · exact trim_of_allBlank

theorem allBlank_trim_iff {t : Text} : AllBlank (trim t) ↔ AllBlank t := by
  rw [← trim_eq_nil_iff, trim_trim, trim_eq_nil_iff]

/-! ## Letter case -/

theorem isBlank_toLower (c : Char) : isBlank c.toLower = isBlank c :=
  eq_of_ascii_eq isBlank (by decide +kernel) c

theorem dropWhile_map_toLower (t : Text) :
    (t.map Char.toLower).dropWhile isBlank = (t.dropWhile isBlank).map Char.toLower := by
  have hblank : isBlank ∘ Char.toLower = isBlank := funext isBlank_toLower
  rw [List.dropWhile_map, hblank]

/-- Blanks have no case. -/
theorem trim_map_toLower (t : Text) : trim (t.map Char.toLower) = (trim t).map Char.toLower := by
  unfold trim trimBoth trimEnd
  rw [dropWhile_map_toLower, ← List.map_reverse, dropWhile_map_toLower, List.map_reverse]

end SignedAccess.Text
