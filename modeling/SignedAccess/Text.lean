/-!
# Texts

A text is the list of its code points.  The codecs of this library are written by
recursion on that list, so that each has a short inverse.

Main definitions:

* `Text` — a list of code points, compared code point by code point;
* `Text.cut?` — a text cut at the first occurrence of a character;
* `Text.joined` — texts joined by a separator;
* `Text.collapse` — every run of one character shortened to a single one;
* `Text.precedes` — the order of code points.
-/

namespace SignedAccess

/-- A text, as the list of its code points. -/
abbrev Text := List Char

abbrev Bytes := List UInt8

namespace Text

/-! ## Cutting and joining -/

/-- What stands before and after the first `c`; none if `c` does not occur. -/
def cut? (c : Char) : Text → Option (Text × Text)
  | [] => none
  | x :: xs => if x = c then some ([], xs) else (cut? c xs).map fun p => (x :: p.1, p.2)

/-- What stands before the first `c`, the whole text if `c` does not occur. -/
def before (c : Char) (t : Text) : Text := t.takeWhile (· ≠ c)

/-- The texts in order, with `sep` between neighbours. -/
def joined (sep : Text) (parts : List Text) : Text := List.intercalate sep parts

/-- `t` without `start` in front; none if it does not begin so. -/
def without? : (start t : Text) → Option Text
  | [], t => some t
  | _ :: _, [] => none
  | a :: start, b :: t => if a = b then without? start t else none

/-- `t` without `start` in front, if it begins so. -/
def dropStart (start t : Text) : Text := (without? start t).getD t

/-- `t` without the characters at its end for which `p` holds. -/
def trimEnd (p : Char → Bool) (t : Text) : Text := (t.reverse.dropWhile p).reverse

/-- `t` without the characters at either end for which `p` holds. -/
def trimBoth (p : Char → Bool) (t : Text) : Text := trimEnd p (t.dropWhile p)

/-- Fills `t` up with blanks on the right to a width. -/
def padRight (width : Nat) (t : Text) : Text := t ++ List.replicate (width - t.length) ' '

/-- Fills `t` up with zeros on the left to a width. -/
def padZeros (width : Nat) (t : Text) : Text := List.leftpad width '0' t

/-! ## Runs -/

/-- Shortens every run of `c` to a single `c`. -/
def collapse (c : Char) : Text → Text
  | [] => []
  | [x] => [x]
  | x :: y :: rest => if x = c ∧ y = c then collapse c (y :: rest) else x :: collapse c (y :: rest)

/-! ## Order -/

/-- Whether `a` stands before `b` in the order of code points: at the first place where they differ
it has the smaller one, or it ends there. -/
def precedes : (a b : Text) → Bool
  | _, [] => false
  | [], _ :: _ => true
  | x :: a, y :: b => x.toNat < y.toNat || (x == y && precedes a b)

/-! ## Lemmas -/

theorem cut?_eq_none_iff (c : Char) (t : Text) : cut? c t = none ↔ c ∉ t := by
  induction t with
  | nil => simp [cut?]
  | cons x xs ih =>
    by_cases h : x = c
    · simp [cut?, h]
    · have h' : ¬c = x := fun e => h e.symm
      simp [cut?, h, h', ih]

/-- A cut text is its two parts around the character, which the first part lacks. -/
theorem cut?_eq_some_iff (c : Char) (t a b : Text) :
    cut? c t = some (a, b) ↔ t = a ++ c :: b ∧ c ∉ a := by
  induction t generalizing a with
  | nil => simp [cut?]
  | cons x xs ih =>
    by_cases h : x = c
    · cases a with
      | nil => simp [cut?, h]
      | cons y ys => simp [cut?, h]; intro e; simp [e]
    · cases a with
      | nil => simp [cut?, h]
      | cons y ys =>
        simp only [cut?, h, if_false, Option.map_eq_some_iff, Prod.exists, Prod.mk.injEq,
          List.cons.injEq, List.cons_append, List.mem_cons, not_or]
        constructor
        · rintro ⟨a', b', e, ⟨rfl, rfl⟩, rfl⟩
          obtain ⟨e₁, e₂⟩ := (ih a').1 e
          exact ⟨⟨rfl, e₁⟩, fun e => h e.symm, e₂⟩
        · rintro ⟨⟨rfl, e₁⟩, _, e₂⟩
          exact ⟨ys, b, (ih ys).2 ⟨e₁, e₂⟩, ⟨rfl, rfl⟩, rfl⟩

theorem collapse_cons_of_ne {c x : Char} (h : x ≠ c) (t : Text) :
    collapse c (x :: t) = x :: collapse c t := by
  cases t with
  | nil => simp [collapse]
  | cons y ys => simp [collapse, h]

/-- The order of code points is the lexicographic order of lists. -/
theorem precedes_iff_lt {a b : Text} : precedes a b = true ↔ a < b := by
  induction a generalizing b with
  | nil =>
    cases b with
    | nil => simp [precedes]
    | cons y b => simp [precedes]
  | cons x a ih =>
    cases b with
    | nil => simp [precedes]
    | cons y b => simp [precedes, List.cons_lt_cons_iff, ih, Char.lt_def, UInt32.lt_iff_toNat_lt]

theorem precedes_irrefl (a : Text) : precedes a a = false :=
  Bool.eq_false_iff.2 fun h => List.lt_irrefl a (precedes_iff_lt.1 h)

theorem precedes_trans {a b c : Text} (h₁ : precedes a b = true) (h₂ : precedes b c = true) :
    precedes a c = true :=
  precedes_iff_lt.2 (List.lt_trans (precedes_iff_lt.1 h₁) (precedes_iff_lt.1 h₂))

/-- Of two different texts one stands before the other. -/
theorem precedes_of_ne {a b : Text} (hne : a ≠ b) (h : precedes a b = false) :
    precedes b a = true := by
  rw [Bool.eq_false_iff, ne_eq, precedes_iff_lt, List.not_lt, List.le_iff_lt_or_eq] at h
  exact precedes_iff_lt.2 (h.resolve_right hne.symm)

end Text

end SignedAccess
