import SignedAccess.Json.Reader
import SignedAccess.Json.Writer

/-!
# JSON strings read back

A text is written in printable ASCII: each character as it stands, behind a backslash, or as one or
two 16-bit units in hexadecimal digits.  Strict and lenient readers alike read back the units, and
from the units the text.

    readString? strict (t.flatMap writeChar ++ '"' :: rest) = some (.ok t, rest)
                                                                     (readString?_write)
-/

namespace SignedAccess.Json

/-! ## Units -/

def unitsOf (c : Char) : List Nat :=
  if c.toNat < 0x10000 then [c.toNat]
  else [0xD800 + (c.toNat - 0x10000) / 0x400, 0xDC00 + (c.toNat - 0x10000) % 0x400]

theorem singleOf_of_char {n : Nat} (h : n < 0xD800 ∨ 0xE000 ≤ n ∧ n < 0x110000) :
    singleOf n = .char (Char.ofNat n) := by
  unfold singleOf CodePoint.ofNat
  rw [if_pos (by omega), dif_neg (by omega)]

theorem pointsOf_cons {n : Nat} (h : n < 0xD800 ∨ 0xE000 ≤ n ∧ n < 0x110000) (units : List Nat) :
    pointsOf (n :: units) = .char (Char.ofNat n) :: pointsOf units := by
  rw [← singleOf_of_char h]
  cases units with
  | nil => rfl
  | cons l rest => rw [pointsOf, if_neg (by omega)]

theorem pointsOf_unitsOf_append (c : Char) (units : List Nat) :
    pointsOf (unitsOf c ++ units) = .char c :: pointsOf units := by
  have hvalid : c.toNat < 0xD800 ∨ 0xDFFF < c.toNat ∧ c.toNat < 0x110000 := c.valid
  unfold unitsOf
  split
  · rw [List.singleton_append, pointsOf_cons (by omega), Char.ofNat_toNat]
  · have hc : 0x10000 + (0xD800 + (c.toNat - 0x10000) / 0x400 - 0xD800) * 0x400 +
        (0xDC00 + (c.toNat - 0x10000) % 0x400 - 0xDC00) = c.toNat := by omega
    rw [List.cons_append, List.singleton_append, pointsOf, if_pos (by omega), hc, Char.ofNat_toNat]

/-- A text is read back from its units, among which surrogates come in pairs. -/
theorem pointsOf_flatMap_unitsOf (t : Text) : pointsOf (t.flatMap unitsOf) = .ofText t := by
  induction t with
  | nil => rfl
  | cons c t ih =>
    rw [List.flatMap_cons, pointsOf_unitsOf_append, ih]
    rfl

/-! ## Escapes -/

/-- Four hexadecimal digits, the first of which may be zero. -/
theorem hexDigits_four {n : Nat} (h : n < 0x10000) : Text.hexDigits 4 n =
    [Nat.digitChar (n / 4096), Nat.digitChar (n / 256 % 16), Nat.digitChar (n / 16 % 16),
      Nat.digitChar (n % 16)] := by
  have hstep (m : Nat) := @Nat.toDigits_eq_if 16 m (by decide)
  unfold Text.hexDigits Text.padZeros List.leftpad
  by_cases h1 : n < 16
  · rw [hstep, if_pos h1, show n / 4096 = 0 by omega, show n / 256 % 16 = 0 by omega,
      show n / 16 % 16 = 0 by omega, show n % 16 = n by omega]
    rfl
  · by_cases h2 : n < 256
    · rw [hstep, if_neg h1, hstep, if_pos (by omega), show n / 4096 = 0 by omega,
        show n / 256 % 16 = 0 by omega, show n / 16 % 16 = n / 16 by omega]
      rfl
    · by_cases h3 : n < 4096
      · rw [hstep, if_neg h1, hstep, if_neg (by omega), hstep, if_pos (by omega),
          show n / 4096 = 0 by omega, show n / 256 % 16 = n / 16 / 16 by omega]
        rfl
      · rw [hstep, if_neg h1, hstep, if_neg (by omega), hstep, if_neg (by omega), hstep,
          if_pos (by omega), show n / 4096 = n / 16 / 16 / 16 by omega,
          show n / 256 % 16 = n / 16 / 16 % 16 by omega]
        rfl

theorem digit?_digitChar : ∀ n, n < 16 → Hex.digit? (Nat.digitChar n) = some n := by decide

theorem unit?_digits {n : Nat} (h : n < 0x10000) :
    unit? (Nat.digitChar (n / 4096)) (Nat.digitChar (n / 256 % 16)) (Nat.digitChar (n / 16 % 16))
      (Nat.digitChar (n % 16)) = some n := by
  unfold unit?
  simp only [digit?_digitChar (n / 4096) (by omega), digit?_digitChar (n / 256 % 16) (by omega),
    digit?_digitChar (n / 16 % 16) (by omega), digit?_digitChar (n % 16) (by omega),
    Option.bind_eq_bind, Option.bind_some, Option.pure_def, Option.some.injEq]
  omega

variable (strict : Bool) (done : List Nat)

theorem readUnits?_escapeUnit {n : Nat} (h : n < 0x10000) (t : Text) :
    readUnits? strict done (escapeUnit n ++ t) = readUnits? strict (n :: done) t := by
  unfold escapeUnit
  rw [hexDigits_four h]
  show readUnits? strict done ('\\' :: 'u' :: _ :: _ :: _ :: _ :: t) = _
  simp only [readUnits?, unit?_digits h]

theorem readUnits?_cons {c : Char} (hprintable : 0x20 ≤ c.toNat) (hquote : c ≠ '"')
    (hbackslash : c ≠ '\\') (t : Text) :
    readUnits? strict done (c :: t) = readUnits? strict (c.toNat :: done) t := by
  have hmark : c ≠ surrogateMark := by
    rintro rfl
    exact absurd hprintable (by decide)
  rw [readUnits?.eq_def]
  split
  · next heq => cases heq
  · next heq => exact absurd (List.cons.inj heq).1 hquote
  · next heq => exact absurd (List.cons.inj heq).1 hbackslash
  · next heq => exact absurd (List.cons.inj heq).1 hbackslash
  · next heq =>
    obtain ⟨rfl, rfl⟩ := List.cons.inj heq
    rw [if_neg fun h => hmark h.1, if_neg (not_or.2 ⟨by omega, hbackslash⟩)]

theorem readUnits?_escape {c e : Char} (hu : e ≠ 'u') (h : escaped? e = some c) (t : Text) :
    readUnits? strict done ('\\' :: e :: t) = readUnits? strict (c.toNat :: done) t := by
  rw [readUnits?.eq_def]
  split
  · next heq => cases heq
  · next heq => exact absurd (List.cons.inj heq).1 (by decide)
  · next heq => exact absurd (List.cons.inj (List.cons.inj heq).2).1 hu
  · next heq =>
    obtain ⟨rfl, rfl⟩ := List.cons.inj (List.cons.inj heq).2
    rw [h]
  · next hne heq =>
    obtain ⟨rfl, rfl⟩ := List.cons.inj heq
    exact absurd rfl (hne e t rfl)

/-- A character is written behind a backslash, as it stands, or in units. -/
theorem writeChar_cases (c : Char) :
    (∃ e, e ≠ 'u' ∧ escaped? e = some c ∧ c.toNat < 0x10000 ∧ writeChar c = ['\\', e]) ∨
      (0x20 ≤ c.toNat ∧ c.toNat < 0x7F ∧ c ≠ '"' ∧ c ≠ '\\' ∧ writeChar c = [c]) ∨
      writeChar c = (unitsOf c).flatMap escapeUnit := by
  by_cases hnamed : c ∈ ['"', '\\', '\n', '\r', '\t', '\x08', '\x0C']
  · simp only [List.mem_cons, List.not_mem_nil, or_false] at hnamed
    refine Or.inl ?_
    rcases hnamed with rfl | rfl | rfl | rfl | rfl | rfl | rfl
    · exact ⟨'"', by decide, rfl, by decide, rfl⟩
    · exact ⟨'\\', by decide, rfl, by decide, rfl⟩
    · exact ⟨'n', by decide, rfl, by decide, rfl⟩
    · exact ⟨'r', by decide, rfl, by decide, rfl⟩
    · exact ⟨'t', by decide, rfl, by decide, rfl⟩
    · exact ⟨'b', by decide, rfl, by decide, rfl⟩
    · exact ⟨'f', by decide, rfl, by decide, rfl⟩
  · simp only [List.mem_cons, List.not_mem_nil, or_false, not_or] at hnamed
    obtain ⟨hquote, hbackslash, hn, hr, ht, hb, hf⟩ := hnamed
    refine Or.inr ?_
    unfold writeChar unitsOf
    rw [if_neg hquote, if_neg hbackslash, if_neg hn, if_neg hr, if_neg ht, if_neg hb, if_neg hf]
    by_cases hprintable : 0x20 ≤ c.toNat ∧ c.toNat < 0x7F
    · exact Or.inl ⟨hprintable.1, hprintable.2, hquote, hbackslash, if_pos hprintable⟩
    · rw [if_neg hprintable]
      by_cases hone : c.toNat < 0x10000
      · rw [if_pos hone, if_pos hone]
        exact Or.inr (List.append_nil _).symm
      · rw [if_neg hone, if_neg hone, List.flatMap_cons, List.flatMap_cons, List.flatMap_nil,
          List.append_nil]
        exact Or.inr rfl

theorem unitsOf_lt (c : Char) : ∀ n ∈ unitsOf c, n < 0x10000 := by
  have hvalid : c.toNat < 0xD800 ∨ 0xDFFF < c.toNat ∧ c.toNat < 0x110000 := c.valid
  intro n hn
  unfold unitsOf at hn
  split at hn
  · next hone =>
    rw [List.mem_singleton.1 hn]
    exact hone
  · simp only [List.mem_cons, List.not_mem_nil, or_false] at hn
    rcases hn with hn | hn
    · omega
    · omega

theorem readUnits?_flatMap_escapeUnit {units : List Nat} (h : ∀ n ∈ units, n < 0x10000) (t : Text) :
    readUnits? strict done (units.flatMap escapeUnit ++ t) =
      readUnits? strict (units.reverse ++ done) t := by
  induction units generalizing done with
  | nil => rfl
  | cons n units ih =>
    rw [List.flatMap_cons, List.append_assoc, readUnits?_escapeUnit strict done
      (h n List.mem_cons_self), ih (n :: done) fun m hm => h m (List.mem_cons_of_mem _ hm),
      List.reverse_cons, List.append_assoc]
    rfl

/-- A character is read back as its units. -/
theorem readUnits?_writeChar (c : Char) (t : Text) :
    readUnits? strict done (writeChar c ++ t) =
      readUnits? strict ((unitsOf c).reverse ++ done) t := by
  have hone (h : c.toNat < 0x10000) : (unitsOf c).reverse ++ done = c.toNat :: done := by
    rw [unitsOf, if_pos h]
    rfl
  rcases writeChar_cases c with ⟨e, hu, hescaped, hlt, hwrite⟩ |
    ⟨hlow, hhigh, hquote, hbackslash, hwrite⟩ | hwrite
  · rw [hwrite, hone hlt]
    exact readUnits?_escape strict done hu hescaped t
  · rw [hwrite, hone (by omega)]
    exact readUnits?_cons strict done hlow hquote hbackslash t
  · rw [hwrite]
    exact readUnits?_flatMap_escapeUnit strict done (unitsOf_lt c) t

theorem readUnits?_write (s t : Text) :
    readUnits? strict done (s.flatMap writeChar ++ t) =
      readUnits? strict ((s.flatMap unitsOf).reverse ++ done) t := by
  induction s generalizing done with
  | nil => rfl
  | cons c s ih =>
    rw [List.flatMap_cons, List.append_assoc, readUnits?_writeChar, ih, List.flatMap_cons,
      List.reverse_append, List.append_assoc]

/-- A string is read as the text that was written. -/
theorem readString?_write (t rest : Text) :
    readString? strict (t.flatMap writeChar ++ '"' :: rest) = some (.ok t, rest) := by
  unfold readString? textOrPoints
  rw [readUnits?_write, readUnits?, Option.map_some, List.append_nil, List.reverse_reverse,
    pointsOf_flatMap_unitsOf, CodeText.text?_ofText]

end SignedAccess.Json
