import SignedAccess.Text.Percent

/-!
# UTF-8 and percent encoding read back

The bytes of a text determine the text, and so does its percent-encoded form.

    Utf8.decode? (Utf8.encode t) = some t                            (decode?_encode)
    keep '%' = false → Percent.decode? (Percent.encode keep t) = some t   (decode?_encode)

What is written holds no other marks than kept ones and percent signs (`not_mem_encode`), and each
of these begins an escape (`isForm_encode`).
-/

namespace SignedAccess

namespace Utf8

/-! ## UTF-8 -/

theorem continuation_ofNat {count low high bits n : Nat} (rest : Bytes) (hlow : low ≤ n)
    (hhigh : n ≤ high) (hn : n < 256) :
    continuation (count + 1) low high bits (UInt8.ofNat n :: rest) =
      continuation count 0x80 0xBF (bits * 64 + n % 64) rest := by
  have e : (UInt8.ofNat n).toNat = n := by rw [UInt8.toNat_ofNat']; omega
  rw [continuation, e, if_pos ⟨hlow, hhigh⟩]

theorem readChar_ofNat {n count bits low high : Nat} (rest : Bytes) (hn : n < 256)
    (h : lead? n = some ⟨count, bits, low, high⟩) :
    readChar (UInt8.ofNat n) rest = continuation count low high bits rest := by
  have e : (UInt8.ofNat n).toNat = n := by rw [UInt8.toNat_ofNat']; omega
  simp only [readChar, e, h]

/-- The lead byte of a two-byte form. -/
theorem lead?_two {v : Nat} (h : 0x80 ≤ v) (h' : v ≤ 0x7FF) :
    lead? (v / 64 % 0x20 + 0xC0) = some ⟨1, v / 64, 0x80, 0xBF⟩ := by
  have hv : v / 64 % 0x20 + 0xC0 - 0xC0 = v / 64 := by omega
  unfold lead?
  rw [if_neg (by omega), if_neg (by omega), if_pos (by omega), hv]

/-- The lead byte of a three-byte form.  The bounds that it sets on the next byte are kept by all
code points but the surrogates. -/
theorem lead?_three {v : Nat} (h : 0x800 ≤ v) (h' : v ≤ 0xFFFF) (hv : v < 0xD800 ∨ 0xDFFF < v) :
    ∃ low high, lead? (v / 4096 % 0x10 + 0xE0) = some ⟨2, v / 4096, low, high⟩ ∧
      low ≤ v / 64 % 0x40 + 0x80 ∧ v / 64 % 0x40 + 0x80 ≤ high := by
  unfold lead?
  rw [if_neg (by omega), if_neg (by omega), if_neg (by omega)]
  split
  · exact ⟨_, _, by rw [show v / 4096 = 0 by omega], by omega, by omega⟩
  · split
    · exact ⟨_, _, by rw [show v / 4096 = 0xD by omega], by omega, by omega⟩
    · rw [if_pos (by omega)]
      exact ⟨_, _, by rw [show v / 4096 % 0x10 + 0xE0 - 0xE0 = v / 4096 by omega], by omega,
        by omega⟩

/-- The lead byte of a four-byte form, with the bounds that it sets on the next byte. -/
theorem lead?_four {v : Nat} (h : 0x10000 ≤ v) (h' : v < 0x110000) :
    ∃ low high, lead? (v / 262144 % 0x08 + 0xF0) = some ⟨3, v / 262144, low, high⟩ ∧
      low ≤ v / 4096 % 0x40 + 0x80 ∧ v / 4096 % 0x40 + 0x80 ≤ high := by
  unfold lead?
  rw [if_neg (by omega), if_neg (by omega), if_neg (by omega), if_neg (by omega),
    if_neg (by omega), if_neg (by omega)]
  split
  · exact ⟨_, _, by rw [show v / 262144 = 0 by omega], by omega, by omega⟩
  · split
    · exact ⟨_, _, by rw [show v / 262144 % 0x08 + 0xF0 - 0xF0 = v / 262144 by omega], by omega,
        by omega⟩
    · rw [if_pos (by omega)]
      exact ⟨_, _, by rw [show v / 262144 = 4 by omega], by omega, by omega⟩

/-- The bytes of a character are read as that character. -/
theorem readChar_encodeChar (c : Char) (rest : Bytes) :
    ∃ b tail, String.utf8EncodeChar c ++ rest = b :: tail ∧ readChar b tail = (some c, rest) := by
  have hvalid : c.toNat < 0xD800 ∨ 0xDFFF < c.toNat ∧ c.toNat < 0x110000 := c.valid
  have hc : Char.ofNat c.toNat = c := Char.ofNat_toNat c
  unfold String.utf8EncodeChar
  simp only [show c.val.toNat = c.toNat from rfl]
  generalize c.toNat = v at hvalid hc
  split
  · have hlead : lead? v = some ⟨0, v, 0, 0⟩ := by
      unfold lead?
      rw [if_pos (by omega)]
    refine ⟨_, _, List.cons_append, ?_⟩
    rw [readChar_ofNat _ (by omega) hlead, continuation, hc, List.nil_append]
  · split
    · refine ⟨_, _, List.cons_append, ?_⟩
      rw [readChar_ofNat _ (by omega) (lead?_two (by omega) (by omega)), List.cons_append,
        List.nil_append, continuation_ofNat _ (by omega) (by omega) (by omega), continuation,
        show v / 64 * 64 + (v % 0x40 + 0x80) % 64 = v by omega, hc]
    · split
      · obtain ⟨low, high, hlead, hlow, hhigh⟩ :=
          lead?_three (v := v) (by omega) (by omega) (by omega)
        refine ⟨_, _, List.cons_append, ?_⟩
        rw [readChar_ofNat _ (by omega) hlead, List.cons_append, List.cons_append, List.nil_append,
          continuation_ofNat _ hlow hhigh (by omega),
          continuation_ofNat _ (by omega) (by omega) (by omega), continuation,
          show (v / 4096 * 64 + (v / 64 % 0x40 + 0x80) % 64) * 64 + (v % 0x40 + 0x80) % 64 = v
            by omega, hc]
      · obtain ⟨low, high, hlead, hlow, hhigh⟩ := lead?_four (v := v) (by omega) (by omega)
        refine ⟨_, _, List.cons_append, ?_⟩
        rw [readChar_ofNat _ (by omega) hlead, List.cons_append, List.cons_append,
          List.cons_append, List.nil_append, continuation_ofNat _ hlow hhigh (by omega),
          continuation_ofNat _ (by omega) (by omega) (by omega),
          continuation_ofNat _ (by omega) (by omega) (by omega), continuation,
          show ((v / 262144 * 64 + (v / 4096 % 0x40 + 0x80) % 64) * 64
            + (v / 64 % 0x40 + 0x80) % 64) * 64 + (v % 0x40 + 0x80) % 64 = v by omega, hc]

theorem length_encode_cons (c : Char) (t : Text) :
    (encode t).length < (encode (c :: t)).length := by
  rw [encode_cons, List.length_append]
  have hpos := List.length_pos_iff.2 (String.utf8EncodeChar_ne_nil (c := c))
  omega

theorem scanUpTo_encode {t : Text} {fuel : Nat} (h : (encode t).length ≤ fuel) :
    scanUpTo fuel (encode t) = t.map some := by
  induction t generalizing fuel with
  | nil => cases fuel <;> rfl
  | cons c t ih =>
    have hlt := length_encode_cons c t
    obtain ⟨b, tail, hbytes, hread⟩ := readChar_encodeChar c (encode t)
    cases fuel with
    | zero => omega
    | succ fuel =>
      rw [encode_cons, hbytes, scanUpTo, hread, ih (by omega)]
      rfl

/-- Bytes of a text are read as that text. -/
theorem decode?_encode (t : Text) : decode? (encode t) = some t := by
  rw [decode?, scan, scanUpTo_encode (Nat.le_refl _)]
  induction t with
  | nil => rfl
  | cons c t ih =>
    rw [List.map_cons, List.mapM_cons, ih]
    rfl

theorem encode_injective {s t : Text} (h : encode s = encode t) : s = t := by
  have e := decode?_encode s
  rw [h, decode?_encode t] at e
  exact (Option.some.inj e).symm

end Utf8

namespace Percent

/-! ## Percent encoding -/

variable {keep : Char → Bool}

theorem hexDigit_props :
    ∀ n, n < 16 → (hexDigit n).isAlphanum = true ∧ (hexDigit n).toNat < 0x80 := by
  decide

/-- An escape holds percent signs and hexadecimal digits only, and so no other mark. -/
theorem not_mem_escapeChar {x : Char} (hpercent : x ≠ '%') (halnum : x.isAlphanum = false)
    (c : Char) : x ∉ escapeChar c := by
  intro h
  obtain ⟨b, -, hb⟩ := List.mem_flatMap.1 h
  have hlt := b.toNat_lt
  have hdigit {n : Nat} (hn : n < 16) : x ≠ hexDigit n := by
    rintro rfl
    rw [(hexDigit_props n hn).1] at halnum
    cases halnum
  simp only [escape, List.mem_cons, List.not_mem_nil, or_false] at hb
  rcases hb with hb | hb | hb
  · exact hpercent hb
  · exact hdigit (by omega) hb
  · exact hdigit (by omega) hb

theorem not_mem_encodeChar {x : Char} (hkeep : keep x = false) (hpercent : x ≠ '%')
    (halnum : x.isAlphanum = false) (c : Char) : x ∉ encodeChar keep c := by
  unfold encodeChar
  split
  · next hc =>
    rintro h
    rw [← List.mem_singleton.1 h, hkeep] at hc
    cases hc
  · exact not_mem_escapeChar hpercent halnum c

/-- A mark that is neither kept nor part of an escape does not stand in what is written. -/
theorem not_mem_encode {x : Char} (hkeep : keep x = false) (hpercent : x ≠ '%')
    (halnum : x.isAlphanum = false) (t : Text) : x ∉ encode keep t := by
  intro h
  obtain ⟨c, -, hx⟩ := List.mem_flatMap.1 h
  exact not_mem_encodeChar hkeep hpercent halnum c hx

/-- A text of kept characters is written as it is. -/
theorem encode_of_kept {t : Text} (h : ∀ c ∈ t, keep c = true) : encode keep t = t := by
  induction t with
  | nil => rfl
  | cons c t ih =>
    have hc : encodeChar keep c = [c] := if_pos (h c List.mem_cons_self)
    rw [encode_cons, hc, ih fun x hx => h x (List.mem_cons_of_mem _ hx), List.singleton_append]

/-! ## The form of what is written -/

/-- Whether a text consists of ASCII letters and digits, of marks, and of escapes: a percent sign
and two hexadecimal digits in upper case. -/
inductive IsForm (marks : List Char) : Text → Prop
  | nil : IsForm marks []
  | mark {c : Char} {t : Text} (hc : c.isAlphanum = true ∨ c ∈ marks) (h : IsForm marks t) :
      IsForm marks (c :: t)
  | escape {high low : Char} {t : Text} (hhigh : high ∈ "0123456789ABCDEF".toList)
      (hlow : low ∈ "0123456789ABCDEF".toList) (h : IsForm marks t) :
      IsForm marks ('%' :: high :: low :: t)

theorem hexDigit_mem : ∀ n, n < 16 → hexDigit n ∈ "0123456789ABCDEF".toList := by decide

theorem IsForm.append {marks : List Char} {s t : Text} (hs : IsForm marks s)
    (ht : IsForm marks t) : IsForm marks (s ++ t) := by
  induction hs with
  | nil => exact ht
  | mark hc _ ih => exact .mark hc ih
  | escape hhigh hlow _ ih => exact .escape hhigh hlow ih

theorem isForm_escapes (marks : List Char) (bytes : Bytes) :
    IsForm marks (bytes.flatMap escape) := by
  induction bytes with
  | nil => exact .nil
  | cons b bytes ih =>
    have hlt := b.toNat_lt
    exact .escape (hexDigit_mem _ (by omega)) (hexDigit_mem _ (by omega)) ih

/-- What is written holds kept characters and escapes only. -/
theorem isForm_encode {marks : List Char}
    (hkeep : ∀ c, keep c = true → c.isAlphanum = true ∨ c ∈ marks) (t : Text) :
    IsForm marks (encode keep t) := by
  induction t with
  | nil => exact .nil
  | cons c t ih =>
    rw [encode_cons, encodeChar]
    split
    · next hc => exact .mark (hkeep c hc) ih
    · exact (isForm_escapes marks _).append ih

/-! ## Reading back -/

theorem unescape?_escape (b : UInt8) (t : Text) :
    unescape? (escape b ++ t) = (unescape? t).map (b :: ·) := by
  have hlt := b.toNat_lt
  have hhigh := hexDigit_value (b.toNat / 16) (by omega)
  have hlow := hexDigit_value (b.toNat % 16) (by omega)
  have hb : UInt8.ofNat (b.toNat / 16 * 16 + b.toNat % 16) = b := by
    rw [show b.toNat / 16 * 16 + b.toNat % 16 = b.toNat by omega]
    exact UInt8.ofNat_toNat
  simp only [escape, List.cons_append, List.nil_append, unescape?, hhigh, hlow,
    Option.bind_eq_bind, Option.bind_some, hb, Option.pure_def]
  cases unescape? t <;> rfl

theorem unescape?_escapes (bytes : Bytes) (t : Text) :
    unescape? (bytes.flatMap escape ++ t) = (unescape? t).map (bytes ++ ·) := by
  induction bytes with
  | nil => simp
  | cons b bytes ih =>
    rw [List.flatMap_cons, List.append_assoc, unescape?_escape, ih, Option.map_map]
    rfl

theorem unescape?_cons {c : Char} (h : c ≠ '%') (t : Text) :
    unescape? (c :: t) = (unescape? t).map (String.utf8EncodeChar c ++ ·) := by
  rw [unescape?.eq_def]
  split
  · next e => cases e
  · next e => exact absurd (List.cons.inj e).1 h
  · next e =>
    obtain ⟨rfl, rfl⟩ := List.cons.inj e
    rw [if_neg h]

/-- The escapes of a text stand for its bytes. -/
theorem unescape?_encode (hkeep : keep '%' = false) (t : Text) :
    unescape? (encode keep t) = some (Utf8.encode t) := by
  induction t with
  | nil => rfl
  | cons c t ih =>
    rw [encode_cons, Utf8.encode_cons, encodeChar]
    split
    · next hc =>
      have hne : c ≠ '%' := by
        intro e
        rw [e, hkeep] at hc
        cases hc
      rw [List.singleton_append, unescape?_cons hne, ih, Option.map_some]
    · rw [escapeChar, unescape?_escapes, ih, Option.map_some]

/-- A percent-encoded text is read as that text. -/
theorem decode?_encode (hkeep : keep '%' = false) (t : Text) :
    decode? (encode keep t) = some t := by
  rw [decode?, unescape?_encode hkeep]
  exact Utf8.decode?_encode t

theorem encode_injective (hkeep : keep '%' = false) {s t : Text}
    (h : encode keep s = encode keep t) : s = t := by
  have e := decode?_encode hkeep s
  rw [h, decode?_encode hkeep t] at e
  exact (Option.some.inj e).symm

end Percent

end SignedAccess
