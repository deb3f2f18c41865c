import SignedAccess.Proofs.Text.Escapes

/-!
# ASCII in UTF-8

The bytes of other characters are not ASCII, so that a text in ASCII stands in another one just
where its bytes do.

    encode s <:+: encode t → s <:+: t                                (isInfix_of_encode)
-/

namespace SignedAccess.Utf8

theorem le_of_mem_encodeChar {c : Char} (hc : 0x80 ≤ c.toNat) :
    ∀ b ∈ String.utf8EncodeChar c, 0x80 ≤ b.toNat := by
  unfold String.utf8EncodeChar
  simp only [show c.val.toNat = c.toNat from rfl]
  generalize c.toNat = v at hc
  split
  · omega
  · split
    · simp only [List.forall_mem_cons, UInt8.toNat_ofNat', List.not_mem_nil]
      refine ⟨?_, ?_, nofun⟩ <;> omega
    · split
      · simp only [List.forall_mem_cons, UInt8.toNat_ofNat', List.not_mem_nil]
        refine ⟨?_, ?_, ?_, nofun⟩ <;> omega
      · simp only [List.forall_mem_cons, UInt8.toNat_ofNat', List.not_mem_nil]
        refine ⟨?_, ?_, ?_, ?_, nofun⟩ <;> omega

theorem encode_cons_of_ascii {c : Char} (hc : c.toNat < 0x80) (t : Text) :
    encode (c :: t) = UInt8.ofNat c.toNat :: encode t := by
  have hone : encode [c] = [UInt8.ofNat c.toNat] := encode_of_ascii (by simpa using hc)
  rw [← List.singleton_append, encode_append, hone, List.singleton_append]

/-- A text in ASCII begins another one if its bytes do. -/
theorem isPrefix_of_encode {s t : Text} (hs : ∀ c ∈ s, c.toNat < 0x80)
    (h : encode s <+: encode t) : s <+: t := by
  induction s generalizing t with
  | nil => exact List.nil_prefix
  | cons c s ih =>
    obtain ⟨hc, hs⟩ := List.forall_mem_cons.1 hs
    rw [encode_cons_of_ascii hc] at h
    cases t with
    | nil => exact absurd (List.prefix_nil.1 h) (List.cons_ne_nil _ _)
    | cons d t =>
      by_cases hd : d.toNat < 0x80
      · rw [encode_cons_of_ascii hd, List.cons_prefix_cons] at h
        have hnat := congrArg UInt8.toNat h.1
        rw [UInt8.toNat_ofNat', UInt8.toNat_ofNat', Nat.mod_eq_of_lt (by omega),
          Nat.mod_eq_of_lt (by omega)] at hnat
        have hcd : c = d := by rw [← Char.ofNat_toNat c, hnat, Char.ofNat_toNat]
        exact List.cons_prefix_cons.2 ⟨hcd, ih hs h.2⟩
      · -- the first byte of the other character is not ASCII
        exfalso
        rw [encode_cons] at h
        have hbytes := le_of_mem_encodeChar (Nat.le_of_not_lt hd)
        cases hchar : String.utf8EncodeChar d with
        | nil =>
          obtain ⟨b, tail, hcons, -⟩ := readChar_encodeChar d []
          rw [hchar] at hcons
          cases hcons
        | cons b rest =>
          rw [hchar, List.cons_append, List.cons_prefix_cons] at h
          have hle := hbytes b (hchar ▸ List.mem_cons_self)
          rw [← h.1, UInt8.toNat_ofNat'] at hle
          omega

theorem infix_of_infix_append {s x y : Bytes} {b : UInt8} (hb : b.toNat < 0x80)
    (hx : ∀ b ∈ x, 0x80 ≤ b.toNat) (h : b :: s <:+: x ++ y) : b :: s <:+: y := by
  induction x with
  | nil => exact h
  | cons a x ih =>
    obtain ⟨ha, hx⟩ := List.forall_mem_cons.1 hx
    rw [List.cons_append, List.infix_cons_iff] at h
    rcases h with h | h
    · rw [List.cons_prefix_cons] at h
      rw [← h.1] at ha
      omega
    · exact ih hx h

/-- A text in ASCII stands in another one if its bytes stand in the bytes of that. -/
theorem isInfix_of_encode {s t : Text} (hs : ∀ c ∈ s, c.toNat < 0x80)
    (h : encode s <:+: encode t) : s <:+: t := by
  cases s with
  | nil => exact List.nil_infix
  | cons c s =>
    have hc := hs c List.mem_cons_self
    have hbyte : (UInt8.ofNat c.toNat).toNat < 0x80 := by
      rw [UInt8.toNat_ofNat']
      omega
    induction t with
    | nil =>
      rw [encode_cons_of_ascii hc] at h
      exact absurd (List.infix_nil.1 h) (List.cons_ne_nil _ _)
    | cons d t ih =>
      by_cases hd : d.toNat < 0x80
      · rw [encode_cons_of_ascii hd, List.infix_cons_iff, ← encode_cons_of_ascii hd] at h
        rcases h with h | h
        · exact (isPrefix_of_encode hs h).isInfix
        · exact (ih h).trans (List.infix_cons (List.infix_refl _))
      · rw [encode_cons d, encode_cons_of_ascii hc] at h
        have hrest := infix_of_infix_append hbyte (le_of_mem_encodeChar (Nat.le_of_not_lt hd)) h
        rw [← encode_cons_of_ascii hc] at hrest
        exact (ih hrest).trans (List.infix_cons (List.infix_refl _))

end SignedAccess.Utf8
