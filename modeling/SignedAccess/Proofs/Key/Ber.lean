import SignedAccess.Key.Ber
import SignedAccess.Key.Der
import SignedAccess.Proofs.Bytes.BigEndian

/-!
# Elements in the shortest encoding are read

The loose readers take back what is written in the shortest encoding, and leave what follows it.
They do so for all elements with a tag of one byte whose length has at most eight bytes.

    header (e.encode ++ rest) = some (headerOf e, e.content ++ rest)              (header_encode)
    primitive number (e.encode ++ rest) = some (e.content, rest)                  (primitive_encode)
    body content = some (a, []) → inSequence body ((sequence …).encode ++ rest) = some (a, rest)
                                                                          (inSequence_encode)
    outer? e.encode = some e.encode                                               (outer?_encode)
-/

namespace SignedAccess

theorem BigEndian.value_dropWhile_zero (bytes : Bytes) :
    value (bytes.dropWhile (· = 0)) = value bytes := by
  induction bytes with
  | nil => rfl
  | cons b bytes ih =>
    by_cases hb : b = 0
    · rw [List.dropWhile_cons_of_pos (by simpa using hb), ih, hb, value_cons]
      simp
    · rw [List.dropWhile_cons_of_neg (by simpa using hb)]

namespace Der

/-- Whether an element has a tag of one byte, and a length that takes at most eight bytes. -/
structure Element.Fits (e : Element) : Prop where
  tag : e.tag.toNat % 32 ≠ 31
  length : e.content.length < 256 ^ 8

theorem Element.encode_append (e : Element) (rest : Bytes) :
    e.encode ++ rest = e.tag :: (encodeLength e.content.length ++ (e.content ++ rest)) := by
  unfold encode
  simp only [List.cons_append, List.append_assoc]

theorem Element.length_content_lt (e : Element) : e.content.length < e.encode.length := by
  unfold encode
  simp only [List.length_append, List.length_cons, List.cons_append]
  omega

/-- An element of a sequence is shorter than the content of the sequence. -/
theorem length_content_lt_of_mem {e : Element} {es : List Element} (h : e ∈ es) :
    e.content.length < (sequence es).content.length := by
  obtain ⟨before, after, rfl⟩ := List.append_of_mem h
  have hlt := e.length_content_lt
  show _ < ((before ++ e :: after).flatMap Element.encode).length
  rw [List.flatMap_append, List.flatMap_cons, List.length_append, List.length_append]
  omega

/-- A natural number is read back from its content. -/
theorem value_natural (n : Nat) : BigEndian.value (natural n).content = n := by
  refine BigEndian.value_encode _ _ ?_
  show n < 256 ^ (n.log2 / 8 + 1 + if n.log2 % 8 = 7 then 1 else 0)
  rw [← BigEndian.pow_eight_mul]
  refine Nat.lt_log2_self.trans_le (Nat.pow_le_pow_right (by decide) ?_)
  omega

end Der

namespace Ber

open Der (Element encodeLength)

variable {α β : Type} {bytes rest : Bytes} {e : Element}

/-! ## Steps -/

theorem bind_of_some {read : Reader α} {f : α → Reader β} {a : α}
    (h : read bytes = some (a, rest)) : (read >>= f) bytes = f a rest := by
  show (read bytes >>= fun p => f p.1 p.2) = f a rest
  rw [h]
  rfl

theorem bind_of_none {read : Reader α} {f : α → Reader β} (h : read bytes = none) :
    (read >>= f) bytes = none := by
  show (read bytes >>= fun p => f p.1 p.2) = none
  rw [h]
  rfl

theorem guard_of_pos {p : Prop} [Decidable p] (h : p) :
    (guard p : Reader Unit) bytes = some ((), bytes) := by
  unfold guard
  rw [if_pos h]
  rfl

theorem guard_of_neg {p : Prop} [Decidable p] (h : ¬p) :
    (guard p : Reader Unit) bytes = none := by
  unfold guard
  rw [if_neg h]
  rfl

/-! ## Headers -/

theorem hasBytes_iff (n : Nat) (bytes : Bytes) : hasBytes n bytes = true ↔ n ≤ bytes.length := by
  unfold hasBytes
  rw [Bool.or_eq_true, decide_eq_true_iff, Bool.not_eq_true', List.isEmpty_eq_false_iff,
    ← List.length_pos_iff, List.length_drop]
  omega

theorem toNat_ofNat_of_lt {n : Nat} (h : n < 0x100) : (UInt8.ofNat n).toNat = n := by
  rw [UInt8.toNat_ofNat']
  omega

theorem ofNat_ne_openMark {n : Nat} (h : n < 0x100) (hne : n ≠ 0x80) :
    UInt8.ofNat n ≠ 0x80 := by
  intro heq
  have htoNat : (UInt8.ofNat n).toNat = 0x80 := congrArg UInt8.toNat heq
  exact hne ((toNat_ofNat_of_lt h).symm.trans htoNat)

theorem size_short {n : Nat} (hn : n < 0x80) :
    size (UInt8.ofNat n :: rest) = some (some n, rest) := by
  unfold size
  rw [bind_of_some (rfl : byte (_ :: rest) = some (_, rest)),
    if_neg (ofNat_ne_openMark (by omega) (by omega)), toNat_ofNat_of_lt (by omega), if_pos hn]
  rfl

/-- Behind a count of bytes a length is read only if something follows it. -/
theorem size_counted {digits : Bytes} (hpos : 0 < digits.length) (hle : digits.length ≤ 8)
    (hrest : rest ≠ []) :
    size (UInt8.ofNat (0x80 + digits.length) :: (digits ++ rest)) =
      some (some (BigEndian.value digits), rest) := by
  have hcount : 0x80 + digits.length - 0x80 = digits.length := by omega
  have hnext : 0 < rest.length := List.length_pos_iff.2 hrest
  have hsmall : (digits.dropWhile (· = 0)).length ≤ 8 :=
    (List.dropWhile_suffix _).length_le.trans hle
  have hthere : hasBytes (digits.length + 1) (digits ++ rest) = true := by
    rw [hasBytes_iff, List.length_append]
    omega
  unfold size
  rw [bind_of_some (rfl : byte (_ :: (digits ++ rest)) = some (_, digits ++ rest)),
    if_neg (ofNat_ne_openMark (by omega) (by omega)), toNat_ofNat_of_lt (by omega),
    if_neg (by omega), hcount,
    bind_of_some (rfl : (get : Reader Bytes) (digits ++ rest) = some (_, digits ++ rest))]
  simp only [List.take_left, List.drop_left]
  rw [bind_of_some (guard_of_pos (by simp [hthere, hsmall])),
    bind_of_some (rfl : (set rest : Reader PUnit) _ = some (PUnit.unit, rest)),
    BigEndian.value_dropWhile_zero]
  rfl

/-- A length is read back, if it is short or something follows it. -/
theorem size_encodeLength {n : Nat} (hn : n < 256 ^ 8) (hrest : 0x80 ≤ n → rest ≠ []) :
    size (encodeLength n ++ rest) = some (some n, rest) := by
  unfold encodeLength
  split
  · next hshort => exact size_short hshort
  · next hlong =>
    have hbits : 8 ≤ Nat.size n ∧ Nat.size n ≤ 64 :=
      ⟨Nat.lt_size.2 (by omega), Nat.size_le.2 (hn.trans_eq (by decide))⟩
    have hlength : (BigEndian.encode (BigEndian.width n) n).length = BigEndian.width n :=
      BigEndian.encode_length _ _
    have hwidth := BigEndian.width_eq n
    have hvalue : BigEndian.value (BigEndian.encode (BigEndian.width n) n) = n :=
      BigEndian.value_encode _ _ (BigEndian.lt_pow_width n)
    generalize BigEndian.encode (BigEndian.width n) n = digits at hlength hvalue ⊢
    rw [← hlength, List.cons_append, size_counted (by omega) (by omega) (hrest (by omega)), hvalue]

/-- The header of an element in the shortest encoding. -/
def headerOf (e : Element) : Header :=
  ⟨⟨e.tag.toNat / 64, e.tag.toNat % 32⟩, e.tag.toNat / 32 % 2 = 1, some e.content.length⟩

theorem bareHeader_encode (he : e.Fits) (hrest : 0x80 ≤ e.content.length → rest ≠ []) :
    bareHeader (e.tag :: (encodeLength e.content.length ++ rest)) = some (headerOf e, rest) := by
  unfold bareHeader
  rw [bind_of_some (rfl : byte (e.tag :: _) = some (e.tag, _))]
  simp only [if_neg he.tag]
  rw [bind_of_some (rfl : (pure _ : Reader Nat) _ = some (_, _)),
    bind_of_some (size_encodeLength he.length hrest), bind_of_some (guard_of_pos (by simp))]
  rfl

theorem header_encode (he : e.Fits) :
    header (e.encode ++ rest) = some (headerOf e, e.content ++ rest) := by
  have hnext : 0x80 ≤ e.content.length → e.content ++ rest ≠ [] := by
    intro hlong hnil
    have hzero := congrArg List.length hnil
    rw [List.length_append, List.length_nil] at hzero
    omega
  have hthere : hasBytes e.content.length (e.content ++ rest) = true := by
    rw [hasBytes_iff, List.length_append]
    omega
  unfold header
  rw [e.encode_append, bind_of_some (bareHeader_encode he hnext),
    bind_of_some (rfl : (get : Reader Bytes) _ = some (_, _)), bind_of_some (guard_of_pos ?_)]
  · rfl
  · simpa [headerOf] using hthere

theorem tagged_encode (he : e.Fits) {tag : Tag} (htag : (headerOf e).tag = tag) :
    tagged tag (e.encode ++ rest) = some (headerOf e, e.content ++ rest) := by
  unfold tagged
  rw [bind_of_some (header_encode he), bind_of_some (guard_of_pos htag)]
  rfl

/-- An element is not read under another tag. -/
theorem tagged_encode_of_ne (he : e.Fits) {tag : Tag} (htag : (headerOf e).tag ≠ tag) :
    tagged tag (e.encode ++ rest) = none := by
  unfold tagged
  rw [bind_of_some (header_encode he), bind_of_none (guard_of_neg htag)]

/-! ## Contents -/

theorem within_append {body : Reader α} {content : Bytes} {a : α}
    (h : body content = some (a, [])) :
    within (some content.length) body (content ++ rest) = some (a, rest) := by
  simp only [within, List.take_left, List.drop_left, h]

theorem within_append_of_none {body : Reader α} {content : Bytes} (h : body content = none) :
    within (some content.length) body (content ++ rest) = none := by
  simp only [within, List.take_left, h]

/-- The header of an element that consists of no others. -/
theorem headerOf_of_toNat {number : Nat} (htag : e.tag.toNat = number) (hnumber : number < 32) :
    (headerOf e).tag = universal number ∧ (headerOf e).isConstructed = false := by
  unfold headerOf universal
  rw [htag, Nat.div_eq_of_lt (show number < 64 by omega), Nat.div_eq_of_lt hnumber,
    Nat.mod_eq_of_lt hnumber]
  exact ⟨rfl, rfl⟩

/-- An element that consists of no others is read as its content. -/
theorem primitive_encode (he : e.Fits) {number : Nat} (htag : e.tag.toNat = number)
    (hnumber : number < 32) : primitive number (e.encode ++ rest) = some (e.content, rest) := by
  obtain ⟨hheader, hbare⟩ := headerOf_of_toNat htag hnumber
  unfold primitive
  rw [bind_of_some (tagged_encode he hheader), bind_of_some (guard_of_pos (by simp [hbare]))]
  exact within_append (show remaining e.content = some (e.content, []) from rfl)

theorem string_encode (he : e.Fits) {number : Nat} (htag : e.tag.toNat = number)
    (hnumber : number < 32) : string number (e.encode ++ rest) = some (e.content, rest) := by
  obtain ⟨hheader, hbare⟩ := headerOf_of_toNat htag hnumber
  unfold string stringOf
  rw [bind_of_some (tagged_encode he hheader), hbare]
  exact within_append (show remaining e.content = some (e.content, []) from rfl)

theorem tag_sequence (es : List Element) : (headerOf (Der.sequence es)).tag = universal 16 := by
  show (⟨Der.sequenceTag.toNat / 64, Der.sequenceTag.toNat % 32⟩ : Tag) = ⟨0, 16⟩
  decide

theorem isConstructed_sequence (es : List Element) :
    (headerOf (Der.sequence es)).isConstructed = true := by
  unfold headerOf
  have htag : (Der.sequence es).tag.toNat = 48 := rfl
  simp [htag]

/-- A sequence is read as what its content is read as. -/
theorem inSequence_encode {es : List Element} (he : (Der.sequence es).Fits) {body : Reader α}
    {a : α} (h : body (es.flatMap Element.encode) = some (a, [])) :
    inSequence body ((Der.sequence es).encode ++ rest) = some (a, rest) := by
  unfold inSequence group
  rw [bind_of_some (tagged_encode he (tag_sequence es)),
    bind_of_some (guard_of_pos (isConstructed_sequence es))]
  exact within_append h

theorem inSequence_encode_of_none {es : List Element} (he : (Der.sequence es).Fits)
    {body : Reader α} (h : body (es.flatMap Element.encode) = none) :
    inSequence body ((Der.sequence es).encode ++ rest) = none := by
  unfold inSequence group
  rw [bind_of_some (tagged_encode he (tag_sequence es)),
    bind_of_some (guard_of_pos (isConstructed_sequence es))]
  exact within_append_of_none h

/-- An element with another tag is no sequence. -/
theorem inSequence_encode_of_ne (he : e.Fits) (htag : (headerOf e).tag ≠ universal 16)
    {body : Reader α} : inSequence body (e.encode ++ rest) = none := by
  unfold inSequence group
  rw [bind_of_none (tagged_encode_of_ne he htag)]

/-! ## Numbers -/

theorem natural_encode {n : Nat} (hn : (Der.natural n).Fits) :
    natural ((Der.natural n).encode ++ rest) = some (n, rest) := by
  have htag : (Der.natural n).tag.toNat = 2 := rfl
  unfold natural
  rw [bind_of_some (primitive_encode hn htag (by decide)), Der.value_natural]
  rfl

/-! ## Files -/

theorem length_encodeLength_le {n k : Nat} (hn : n < 256 ^ k) :
    (encodeLength n).length ≤ k + 1 := by
  unfold encodeLength
  split
  · simp
  · have hbits : Nat.size n ≤ 8 * k := Nat.size_le.2 (by rwa [BigEndian.pow_eight_mul])
    rw [List.length_cons, BigEndian.encode_length, BigEndian.width_eq]
    omega

/-- A file that is one element ends behind it, if its length has at most five bytes. -/
theorem outerEnd?_encode (htag : e.tag.toNat % 32 ≠ 31) (hlength : e.content.length < 256 ^ 5)
    (fuel : Nat) : outerEnd? (fuel + 1) 0 e.encode = some [] := by
  have he : e.Fits := ⟨htag, hlength.trans (by decide)⟩
  have hle := length_encodeLength_le hlength
  generalize hfront : e.tag :: encodeLength e.content.length = front
  have hsize : front.length = (encodeLength e.content.length).length + 1 := by
    rw [← hfront, List.length_cons]
  have hencode : e.encode = front ++ e.content := by rw [← hfront]; rfl
  -- the window holds the header and, of a content that is not short, at least one byte
  have hwindow : e.encode.take headerWindow =
      front ++ e.content.take (headerWindow - front.length) := by
    rw [hencode, List.take_append, List.take_of_length_le]
    unfold headerWindow
    omega
  have hseen : 0x80 ≤ e.content.length →
      e.content.take (headerWindow - front.length) ≠ [] := by
    intro hlong hnil
    have hzero := congrArg List.length hnil
    unfold headerWindow at hzero
    rw [List.length_take, List.length_nil] at hzero
    omega
  have hheader : bareHeader (e.encode.take headerWindow) =
      some (headerOf e, e.content.take (headerWindow - front.length)) := by
    rw [hwindow, ← hfront, List.cons_append]
    exact bareHeader_encode he (hfront ▸ hseen)
  have hrest : e.encode.drop ((e.encode.take headerWindow).length -
      (e.content.take (headerWindow - front.length)).length) = e.content := by
    rw [hwindow, List.length_append, Nat.add_sub_cancel, hencode, List.drop_left]
  have hthere : hasBytes e.content.length e.content = true := (hasBytes_iff _ _).2 (Nat.le_refl _)
  have hhsize : (headerOf e).size = some e.content.length := rfl
  rw [outerEnd?]
  simp only [hheader, hrest, hhsize]
  rw [if_neg (by omega), hthere]
  simp

/-- The first element of such a file is all of it. -/
theorem outer?_encode (htag : e.tag.toNat % 32 ≠ 31) (hlength : e.content.length < 256 ^ 5) :
    outer? e.encode = some e.encode := by
  have hend : outerEnd? limit 0 e.encode = some [] := outerEnd?_encode htag hlength 0x7FFFFFFF
  unfold outer?
  rw [hend, Option.map_some, List.length_nil, Nat.sub_zero, List.take_length]

end Ber

end SignedAccess
