import SignedAccess.Text

/-!
# Texts with surrogates

A string of the outside may hold surrogates that stand without a partner.  They are code points but
no characters, so that such a string is no text and has no encoding in UTF-8.

Main definitions:

* `CodePoint` — a character or a surrogate;
* `CodeText` — a string of code points;
* `CodeText.text?` — its text, if no surrogate is in it;
* `CodeText.shown` — the text in which a replacement character stands for each surrogate.
-/

namespace SignedAccess

/-- A character, or the surrogate so many places behind U+D800. -/
inductive CodePoint where
  | char (c : Char)
  | surrogate (place : Fin 0x800)
  deriving DecidableEq, Repr

/-- A string of code points. -/
abbrev CodeText := List CodePoint

namespace CodePoint

def ofNat (n : Nat) : CodePoint :=
  if h : 0xD800 ≤ n ∧ n < 0xE000 then .surrogate ⟨n - 0xD800, by omega⟩ else .char (Char.ofNat n)

def toNat : CodePoint → Nat
  | .char c => c.toNat
  | .surrogate place => 0xD800 + place

def shown : CodePoint → Char
  | .char c => c
  | .surrogate _ => '\uFFFD'

end CodePoint

namespace CodeText

def ofText (t : Text) : CodeText := t.map .char

/-- The text of a string without surrogates. -/
def text? : CodeText → Option Text
  | [] => some []
  | .char c :: rest => (text? rest).map (c :: ·)
  | .surrogate _ :: _ => none

/-- The text of a string, every surrogate being replaced. -/
def shown (t : CodeText) : Text := t.map CodePoint.shown

/-! ## Lemmas -/

@[simp] theorem text?_ofText (t : Text) : text? (ofText t) = some t := by
  induction t with
  | nil => rfl
  | cons c t ih =>
    show (text? (ofText t)).map (c :: ·) = _
    rw [ih, Option.map_some]

theorem eq_ofText_of_text? {t : CodeText} {s : Text} (h : t.text? = some s) : t = ofText s := by
  induction t generalizing s with
  | nil =>
    cases h
    rfl
  | cons p t ih =>
    cases p with
    | char c =>
      obtain ⟨rest, hrest, rfl⟩ := Option.map_eq_some_iff.1 h
      rw [ih hrest]
      rfl
    | surrogate place => cases h

@[simp] theorem shown_ofText (t : Text) : shown (ofText t) = t := by
  unfold shown ofText
  rw [List.map_map]
  exact List.map_id t

end CodeText

end SignedAccess
