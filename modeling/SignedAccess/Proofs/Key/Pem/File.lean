import SignedAccess.Proofs.Bytes.Base64
import SignedAccess.Proofs.Key.Pem
import SignedAccess.Text.Utf8

/-!
# Blocks are found in files

A block is found among other lines, however its own lines end and its base64 is broken into lines.

    IsSurrounding before after → blocks (file …) = [some ⟨label, [], content⟩]       (blocks_file)
-/

namespace SignedAccess.Pem

/-! ## Base64 -/

theorem digit_props : ∀ n, n < 64 → Base64.digit .standard n ≠ '=' ∧
    (Base64.digit .standard n).toNat < 0x80 ∧
    (isSolid (UInt8.ofNat (Base64.digit .standard n).toNat) = true ∧
      UInt8.ofNat (Base64.digit .standard n).toNat ≠ 0x2D ∧
      UInt8.ofNat (Base64.digit .standard n).toNat ≠ 0x3A) := by
  decide +kernel

theorem ascii_of_mem_encodePadded {bytes : Bytes} {c : Char} (h : c ∈ Base64.encodePadded bytes) :
    c.toNat < 0x80 ∧ IsContent (UInt8.ofNat c.toNat) := by
  rcases List.mem_append.1 h with hc | hc
  · obtain ⟨n, hn, rfl⟩ := List.mem_map.1 hc
    exact (digit_props n (Base64.sextets_lt bytes n hn)).2
  · rw [List.eq_of_mem_replicate hc]
    exact ⟨by decide, by decide, by decide, by decide⟩

/-- The characters of base64 are ASCII, so that each is a byte of its own. -/
theorem map_ofNat_encode {t : Text} (h : ∀ c ∈ t, c.toNat < 0x80) :
    (Utf8.encode t).map (fun b => Char.ofNat b.toNat) = t := by
  rw [Utf8.encode_of_ascii h, List.map_map]
  refine (List.map_congr_left fun c hc => ?_).trans (List.map_id t)
  have hc := h c hc
  have hbyte : (UInt8.ofNat c.toNat).toNat = c.toNat := by
    rw [UInt8.toNat_ofNat']
    omega
  rw [Function.comp_apply, hbyte, Char.ofNat_toNat, id]

/-- How many characters of padding stand behind the digits. -/
def padsOf (bytes : Bytes) : Nat := (4 - (Base64.encodeUnpadded .standard bytes).length % 4) % 4

theorem ne_equals_of_mem_encodeUnpadded {bytes : Bytes} :
    ∀ c ∈ Base64.encodeUnpadded .standard bytes, decide (c ≠ '=') = true := by
  intro c hc
  obtain ⟨n, hn, rfl⟩ := List.mem_map.1 hc
  exact decide_eq_true (digit_props n (Base64.sextets_lt bytes n hn)).1

theorem takeWhile_encodePadded (bytes : Bytes) :
    (Base64.encodePadded bytes).takeWhile (· ≠ '=') = Base64.encodeUnpadded .standard bytes := by
  show (Base64.encodeUnpadded .standard bytes ++ List.replicate (padsOf bytes) '=').takeWhile _ = _
  rw [List.takeWhile_append_of_pos ne_equals_of_mem_encodeUnpadded, List.takeWhile_replicate]
  simp

theorem dropWhile_encodePadded (bytes : Bytes) :
    (Base64.encodePadded bytes).dropWhile (· ≠ '=') = List.replicate (padsOf bytes) '=' := by
  show (Base64.encodeUnpadded .standard bytes ++ List.replicate (padsOf bytes) '=').dropWhile _ = _
  rw [List.dropWhile_append_of_pos ne_equals_of_mem_encodeUnpadded, List.dropWhile_replicate]
  simp

theorem length_encodePadded (bytes : Bytes) : (Base64.encodePadded bytes).length =
    (Base64.encodeUnpadded .standard bytes).length + padsOf bytes := by
  show (Base64.encodeUnpadded .standard bytes ++ List.replicate (padsOf bytes) '=').length = _
  rw [List.length_append, List.length_replicate]

/-- What carries the base64 of bytes is decoded to them. -/
theorem decodeBody?_of_carries {upper : List Bytes} {content : Bytes} (hne : content ≠ [])
    (h : Carries upper (Utf8.encode (Base64.encodePadded content))) :
    decodeBody? upper.reverse.flatten = some content := by
  have hsymbols : symbols upper.reverse.flatten = Base64.encodePadded content := by
    unfold symbols
    rw [List.takeWhile_eq_self_iff.2, h.characters]
    · exact map_ofNat_encode fun c hc => (ascii_of_mem_encodePadded hc).1
    · exact fun b hb => decide_eq_true (h.hyphens b hb)
  have hread : (Base64.encodeUnpadded .standard content).mapM (Base64.value? .standard) =
      some (Base64.sextets content) :=
    Base64.mapM_value?_digit .standard (Base64.sextets_lt content)
  have hlength : (Base64.encodeUnpadded .standard content).length =
      (Base64.sextets content).length := List.length_map _
  -- the digits of whole bytes never leave a single one over
  have hmod := Base64.length_sextets_mod content
  have hsextets : Base64.sextets content ≠ [] := by
    intro hnil
    have hback := Base64.bytesOf_sextets content
    rw [hnil] at hback
    exact hne hback.symm
  have hpads : padsOf content ≤ 2 ∧
      ((Base64.encodeUnpadded .standard content).length + padsOf content) % 4 = 0 := by
    unfold padsOf
    omega
  unfold decodeBody?
  simp only [hsymbols, takeWhile_encodePadded, dropWhile_encodePadded, length_encodePadded, hread,
    Option.bind_eq_bind, Option.bind_some]
  rw [if_pos, Base64.bytesOf_sextets]
  exact ⟨by simp, by rw [List.length_replicate]; exact hpads.1, hpads.2, hsextets⟩

/-! ## Files -/

def markedLine (mark label : Bytes) : Bytes := mark ++ label ++ closeMark

/-- A file with one block: `before` stands in front of it, and behind its last line the end of that
line and `after`, if there is anything. -/
def file (label : Bytes) (ending : LineEnd) (lines : List Bytes) (before : Bytes)
    (after : Option Bytes) : Bytes :=
  before ++ (markedLine beginMark label ++ ending.bytes ++
    (lines.flatMap (fun l => l ++ ending.bytes) ++
      (markedLine endMark label ++ (after.map fun bytes => ending.bytes ++ bytes).getD [])))

/-- Whether bytes are a label that fits into a piece. -/
structure IsLabel (label : Bytes) : Prop where
  length : label.length ≤ 200
  plain : ∀ b ∈ label, b ≠ 0x0A ∧ b ≠ 0x3A ∧ b ≠ 0

/-- Whether bytes in front of a block end where a line does, and those around it have no mark of a
block. -/
structure IsSurrounding (before : Bytes) (after : Option Bytes) : Prop where
  ends : before = [] ∨ ∃ lines, before = lines ++ [0x0A]
  before_plain : ¬closeMark <:+: before
  after_plain : ∀ bytes ∈ after, ¬closeMark <:+: bytes

section

variable {mark label : Bytes} (hmark : mark = beginMark ∨ mark = endMark) (hlabel : IsLabel label)

theorem getLast?_markedLine (mark label : Bytes) :
    (markedLine mark label).getLast? = some 0x2D := by
  have hclose : closeMark = [0x2D, 0x2D, 0x2D, 0x2D] ++ [0x2D] := by decide
  unfold markedLine
  rw [hclose, ← List.append_assoc, List.getLast?_concat]

theorem trim_markedLine {ending : Bytes} (hending : ∀ b ∈ ending, IsEnding b) :
    trim (markedLine mark label ++ ending) = markedLine mark label := by
  refine trim_append (fun b hb => ?_) hending
  rw [getLast?_markedLine] at hb
  rw [← Option.mem_some.1 hb]
  decide

include hmark hlabel

theorem plain_markedLine : ∀ b ∈ markedLine mark label, b ≠ 0x0A ∧ b ≠ 0x3A := by
  have hmarks :
      ((beginMark ++ endMark ++ closeMark).all fun b => b != 0x0A && b != 0x3A) = true := by
    decide
  have hplain {b : UInt8} (hb : b ∈ beginMark ++ endMark ++ closeMark) : b ≠ 0x0A ∧ b ≠ 0x3A := by
    simpa using List.all_eq_true.1 hmarks b hb
  intro b hb
  unfold markedLine at hb
  rw [List.mem_append, List.mem_append] at hb
  rcases hb with (hb | hb) | hb
  · refine hplain (List.mem_append_left _ (List.mem_append.2 ?_))
    rcases hmark with rfl | rfl
    · exact Or.inl hb
    · exact Or.inr hb
  · exact ⟨(hlabel.plain b hb).1, (hlabel.plain b hb).2.1⟩
  · exact hplain (List.mem_append_right _ hb)

theorem length_markedLine_le : (markedLine mark label).length ≤ 220 := by
  have hbegin : beginMark.length = 11 := by decide
  have hend : endMark.length = 9 := by decide
  have hclose : closeMark.length = 5 := by decide
  have hlength := hlabel.length
  unfold markedLine
  rw [List.length_append, List.length_append]
  rcases hmark with rfl | rfl
  · omega
  · omega

theorem isPiece_markedLine (ending : LineEnd) :
    IsPiece (markedLine mark label ++ ending.bytes) := by
  have hline : 0x0A ∉ markedLine mark label :=
    fun hmem => (plain_markedLine hmark hlabel _ hmem).1 rfl
  have hlength := length_markedLine_le hmark hlabel
  have hlimit : pieceLimit = 254 := rfl
  cases ending with
  | lf => exact .line _ hline (by omega)
  | crlf =>
    have hreturn : 0x0A ∉ markedLine mark label ++ [0x0D] := by
      rw [List.mem_append, not_or]
      exact ⟨hline, by decide⟩
    have hpiece := IsPiece.line _ hreturn
      (by rw [List.length_append, List.length_singleton]; omega)
    rwa [List.append_assoc] at hpiece

end

/-! ## Blocks -/

section

variable {label : Bytes} (hlabel : IsLabel label)

include hlabel

/-- The line before a block tells its label. -/
theorem beginLabel?_markedLine (ending : LineEnd) :
    beginLabel? (trim (markedLine beginMark label ++ ending.bytes)) = some label := by
  have hfinish : withoutEnd? closeMark (label ++ closeMark) = some label := by
    unfold withoutEnd?
    rw [List.reverse_append, without?_append, Option.map_some, List.reverse_reverse]
  have hzero : beforeZero label = label :=
    List.takeWhile_eq_self_iff.2 fun b hb => decide_eq_true (hlabel.plain b hb).2.2
  rw [trim_markedLine fun b hb => ending.isEnding_of_mem hb]
  unfold beginLabel? markedLine
  rw [List.append_assoc, without?_append]
  show (withoutEnd? closeMark (label ++ closeMark)).map beforeZero = _
  rw [hfinish, Option.map_some, hzero]

/-- At the line behind a block the block is complete, and no other follows. -/
theorem readBlock_markedLine (ending : LineEnd) {before : Bytes} {after : Option Bytes}
    (h : IsSurrounding before after) (upper : List Bytes) :
    ∃ rest, readBlock label (reading upper false)
        (pieces (markedLine endMark label ++
          (after.map fun bytes => ending.bytes ++ bytes).getD [])) =
        ((decodeBody? upper.reverse.flatten).map fun content => ⟨label, [], content⟩, rest) ∧
      ∀ fuel, blocksUpTo fuel rest = [] := by
  have hplain := plain_markedLine (Or.inr rfl) hlabel
  have hline : 0x0A ∉ markedLine endMark label := fun hmem => (hplain _ hmem).1 rfl
  have hcolon : 0x3A ∉ markedLine endMark label := fun hmem => (hplain _ hmem).2 rfl
  cases after with
  | none =>
    have hlength := length_markedLine_le (Or.inr rfl) hlabel
    have hlast : pieces (markedLine endMark label) = [markedLine endMark label] := by
      refine pieces_last ?_ hline (hlength.trans_lt (by decide))
      exact List.cons_ne_nil _ _
    have htrim : trim (markedLine endMark label) = markedLine endMark label := by
      have h := @trim_markedLine endMark label [] fun b hb => absurd hb List.not_mem_nil
      rwa [List.append_nil] at h
    refine ⟨[], ?_, fun fuel => ?_⟩
    · rw [Option.map_none, Option.getD_none, List.append_nil, hlast]
      exact readBlock_end htrim hcolon
    · cases fuel <;> rfl
  | some bytes =>
    have hending : ∀ b ∈ ending.bytes, IsEnding b := fun b hb => ending.isEnding_of_mem hb
    refine ⟨pieces bytes, ?_, blocksUpTo_pieces (h.after_plain bytes rfl)⟩
    rw [Option.map_some, Option.getD_some, ← List.append_assoc,
      pieces_append (isPiece_markedLine (Or.inr rfl) hlabel ending)]
    refine readBlock_end (trim_markedLine hending) ?_
    rw [List.mem_append, not_or]
    exact ⟨hcolon, fun hmem => (hending _ hmem).ne_colon rfl⟩

/-- A file has the block that stands in it, and no other. -/
theorem blocks_file (ending : LineEnd) {lines : List Bytes} {content before : Bytes}
    {after : Option Bytes} (hne : content ≠ []) (hlines : ∀ l ∈ lines, l ≠ [])
    (hflatten : lines.flatten = Utf8.encode (Base64.encodePadded content))
    (h : IsSurrounding before after) :
    blocks (file label ending lines before after) = [some ⟨label, [], content⟩] := by
  have hcontent : ∀ l ∈ lines, l ≠ [] ∧ ∀ b ∈ l, IsContent b := by
    refine fun l hl => ⟨hlines l hl, fun b hb => ?_⟩
    have hmem : b ∈ Utf8.encode (Base64.encodePadded content) :=
      hflatten ▸ List.mem_flatten.2 ⟨l, hl, hb⟩
    rw [Utf8.encode_of_ascii fun c hc => (ascii_of_mem_encodePadded hc).1] at hmem
    obtain ⟨c, hc, rfl⟩ := List.mem_map.1 hmem
    exact (ascii_of_mem_encodePadded hc).2
  generalize hbody : lines.flatMap (fun l => l ++ ending.bytes) ++ (markedLine endMark label ++
    (after.map fun bytes => ending.bytes ++ bytes).getD []) = body
  obtain ⟨upper, hcarries, hread⟩ := readBlock_lines label ending hcontent carries_nil
    (markedLine endMark label ++ (after.map fun bytes => ending.bytes ++ bytes).getD [])
  obtain ⟨rest, hend, hnone⟩ := readBlock_markedLine hlabel ending h upper
  rw [List.nil_append, hflatten] at hcarries
  rw [hbody, hend, decodeBody?_of_carries hne hcarries, Option.map_some] at hread
  -- the pieces of what stands in front have no marks
  have hfront : ∀ piece ∈ pieces before, ¬closeMark <:+: piece :=
    fun piece hpiece => not_infix_of_mem_pieces h.before_plain hpiece
  have hpieces : pieces (file label ending lines before after) =
      pieces before ++ (markedLine beginMark label ++ ending.bytes) :: pieces body := by
    have hblock := pieces_append (isPiece_markedLine (Or.inl rfl) hlabel ending) body
    unfold file
    rw [hbody]
    rcases h.ends with rfl | ⟨lines, rfl⟩
    · exact hblock
    · rw [List.append_assoc, List.singleton_append, pieces_append_line, hblock]
  unfold blocks
  show blocksUpTo (pieces _).length (pieces _) = _
  rw [hpieces, List.length_append, List.length_cons, ← Nat.add_assoc,
    blocksUpTo_append (pieces body) hfront rfl (beginLabel?_markedLine hlabel ending)]
  show (readBlock label (reading [] false) (pieces body)).1 :: blocksUpTo _
    (readBlock label (reading [] false) (pieces body)).2 = _
  rw [hread, hnone]

end

end SignedAccess.Pem
