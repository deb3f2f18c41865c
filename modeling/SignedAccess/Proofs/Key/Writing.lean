import SignedAccess.Proofs.Key.Layout
import SignedAccess.Proofs.Key.Pem.File
import SignedAccess.Proofs.SignedUrl.SigningCall
import SignedAccess.Proofs.Text.Utf8
import SignedAccess.Proofs.Token.KeyText

/-!
# Ways to write a key

A key is read from all texts in which it is written, as the same key: by its numbers or in a
wrapper, with either end of lines, its base64 broken into lines anywhere, and with any lines around
it that have no five hyphens.  What is signed with it is then the same, but for tokens where the
text begins like a public key on a line.

    KeyFile.load (Utf8.encode w.text) = .ok (.rsa key)                            (load_text)
    PrivateKey.loadText text = PrivateKey.loadText text' →
      create … { opts with privateKey := text } clock =
        create … { opts with privateKey := text' } clock               (create_eq_of_loadText_eq)
-/

namespace SignedAccess

namespace Pem

def LineEnd.text : LineEnd → Text
  | lf => ['\n']
  | crlf => ['\r', '\n']

theorem LineEnd.encode_text (ending : LineEnd) : Utf8.encode ending.text = ending.bytes := by
  cases ending <;> decide

/-- The mark at both ends of the first and of the last line of a block. -/
def hyphens : Text := "-----".toList

theorem encode_hyphens : Utf8.encode hyphens = closeMark := by decide

/-- A text without five hyphens has none in its bytes. -/
theorem not_infix_encode {t : Text} (h : ¬hyphens <:+: t) : ¬closeMark <:+: Utf8.encode t := by
  have hascii : (hyphens.all fun c => decide (c.toNat < 0x80)) = true := by decide
  intro hmark
  rw [← encode_hyphens] at hmark
  exact h (Utf8.isInfix_of_encode
    (fun c hc => of_decide_eq_true (List.all_eq_true.1 hascii c hc)) hmark)

theorem not_infix_of_count {t : Text} (h : t.count '-' < 5) : ¬hyphens <:+: t := by
  intro hmark
  have hle : hyphens.count '-' ≤ t.count '-' := hmark.sublist.count_le '-'
  exact absurd (h.trans_le (show 5 ≤ hyphens.count '-' by decide)) (Nat.not_lt.2 hle)

end Pem

namespace KeyFile

open Pem (LineEnd hyphens)

/-! ## Writings -/

structure Writing (key : PrivateKey) where
  container : Container
  ending : LineEnd
  /-- The lines of base64. -/
  lines : List Text
  /-- What stands in front of the block. -/
  before : Text
  /-- What stands behind the end of its last line, which may have none. -/
  after : Option Text
  lines_flatten : lines.flatten = Base64.encodePadded (container.element key).encode
  lines_ne_nil : ∀ line ∈ lines, line ≠ []
  before_ends : before = [] ∨ before.getLast? = some '\n'
  before_plain : ¬hyphens <:+: before
  after_plain : ∀ text ∈ after, ¬hyphens <:+: text

namespace Writing

variable {key : PrivateKey}

def text (w : Writing key) : Text :=
  w.before ++ ("-----BEGIN ".toList ++ w.container.label ++ hyphens ++ w.ending.text ++
    (w.lines.flatMap (fun line => line ++ w.ending.text) ++
      ("-----END ".toList ++ w.container.label ++ hyphens ++
        (w.after.map fun after => w.ending.text ++ after).getD [])))

theorem encode_text (w : Writing key) : Utf8.encode w.text =
    Pem.file w.container.labelBytes w.ending (w.lines.map Utf8.encode) (Utf8.encode w.before)
      (w.after.map Utf8.encode) := by
  have hbegin : Utf8.encode "-----BEGIN ".toList = Pem.beginMark := by decide
  have hend : Utf8.encode "-----END ".toList = Pem.endMark := by decide
  have hlines : Utf8.encode (w.lines.flatMap fun line => line ++ w.ending.text) =
      (w.lines.map Utf8.encode).flatMap fun l => l ++ w.ending.bytes := by
    rw [List.flatMap_map]
    induction w.lines with
    | nil => rfl
    | cons line lines ih =>
      rw [List.flatMap_cons, List.flatMap_cons, Utf8.encode_append, Utf8.encode_append, ih,
        LineEnd.encode_text]
  have hafter : Utf8.encode ((w.after.map fun after => w.ending.text ++ after).getD []) =
      ((w.after.map Utf8.encode).map fun bytes => w.ending.bytes ++ bytes).getD [] := by
    cases w.after with
    | none => rfl
    | some after =>
      show Utf8.encode (w.ending.text ++ after) = w.ending.bytes ++ Utf8.encode after
      rw [Utf8.encode_append, LineEnd.encode_text]
  unfold text Pem.file Pem.markedLine Container.labelBytes
  simp only [Utf8.encode_append, hbegin, hend, hlines, hafter, Pem.encode_hyphens,
    LineEnd.encode_text]

theorem isLabel (c : Container) : Pem.IsLabel c.labelBytes := by
  have hplain : (c.labelBytes.all fun b => b != 0x0A && b != 0x3A && b != 0) = true := by
    cases c <;> decide
  refine ⟨by cases c <;> decide, fun b hb => ?_⟩
  have h := List.all_eq_true.1 hplain b hb
  simp only [Bool.and_eq_true, bne_iff_ne] at h
  exact ⟨h.1.1, h.1.2, h.2⟩

theorem isSurrounding (w : Writing key) :
    Pem.IsSurrounding (Utf8.encode w.before) (w.after.map Utf8.encode) where
  ends := by
    rcases w.before_ends with hnil | hlast
    · left
      rw [hnil]
      rfl
    · right
      obtain ⟨lines, hlines⟩ := List.getLast?_eq_some_iff.1 hlast
      refine ⟨Utf8.encode lines, ?_⟩
      rw [hlines, Utf8.encode_append]
      rfl
  before_plain := Pem.not_infix_encode w.before_plain
  after_plain := by
    intro bytes hbytes
    obtain ⟨after, hafter, rfl⟩ := Option.map_eq_some_iff.1 hbytes
    exact Pem.not_infix_encode (w.after_plain after hafter)

/-- The file has one block, with the element of the key. -/
theorem blocks_text (w : Writing key) : Pem.blocks (Utf8.encode w.text) =
    [some ⟨w.container.labelBytes, [], (w.container.element key).encode⟩] := by
  have hlines : ∀ l ∈ w.lines.map Utf8.encode, l ≠ [] := by
    rintro l hl rfl
    obtain ⟨line, hline, hnil⟩ := List.mem_map.1 hl
    exact w.lines_ne_nil line hline (Utf8.encode_injective hnil)
  have hflatten : (w.lines.map Utf8.encode).flatten =
      Utf8.encode (Base64.encodePadded (w.container.element key).encode) := by
    rw [← w.lines_flatten]
    induction w.lines with
    | nil => rfl
    | cons line lines ih =>
      rw [List.map_cons, List.flatten_cons, List.flatten_cons, Utf8.encode_append, ih]
  rw [w.encode_text]
  exact Pem.blocks_file (isLabel _) w.ending (List.cons_ne_nil _ _) hlines hflatten
    w.isSurrounding

/-- A key is read from its file, if five bytes can tell the length of its element. -/
theorem load_text (w : Writing key) (hkey : key.isConsistent = true) (hfurther : key.further = [])
    (hlength : (Layout.wrappedElement key).content.length < 2 ^ 40) :
    load (Utf8.encode w.text) = .ok (.rsa key) := by
  have hwide : (Layout.wrappedElement key).content.length < 256 ^ 5 := hlength
  have hfits : (w.container.element key).content.length < 256 ^ 5 := by
    cases w.container with
    | bare => exact length_bareElement_lt hwide
    | wrapped => exact hwide
  have htag : (w.container.element key).tag.toNat % 32 ≠ 31 := by
    have htag : (w.container.element key).tag = Der.sequenceTag := by cases w.container <;> rfl
    rw [htag]
    decide
  have houtcome : (Ber.outer? (w.container.element key).encode >>=
      elementOutcome? w.container.labelBytes) = some (.ok (.rsa key)) := by
    rw [Ber.outer?_encode htag hfits, Option.bind_eq_bind, Option.bind_some,
      elementOutcome?_encode w.container hfurther hfits, Layout.rsaOutcome, if_pos hkey]
  unfold load
  rw [w.blocks_text]
  simp only [firstReading?, houtcome]
  rfl

end Writing

end KeyFile

/-! ## Signing -/

namespace SignedUrl

variable {storage : StorageSettings} {bucket object : Text} {opts : SignedUrlOptions}
  {clock : DateTime} {text text' : Text}

/-- Of the text of a key, the checks only see whether it is empty. -/
theorem check_withKey (hne : text ≠ []) (hne' : text' ≠ []) (now : DateTime) :
    { opts with privateKey := text }.check now = { opts with privateKey := text' }.check now := by
  have hsigner : { opts with privateKey := text }.hasOneSigner =
      { opts with privateKey := text' }.hasOneSigner := by
    unfold SignedUrlOptions.hasOneSigner
    simp only [hne, hne']
  unfold SignedUrlOptions.check
  rw [hsigner]
  rfl

/-- Two texts from which the same key is read give the same call. -/
theorem create_eq_of_loadText_eq (hne : text ≠ []) (hne' : text' ≠ [])
    (h : PrivateKey.loadText text = PrivateKey.loadText text') :
    create storage bucket object { opts with privateKey := text } clock =
      create storage bucket object { opts with privateKey := text' } clock := by
  have hsigner : { opts with privateKey := text }.signer =
      { opts with privateKey := text' }.signer := by
    unfold SignedUrlOptions.signer
    rw [h]
  have hprepare : prepare storage bucket object { opts with privateKey := text } clock =
      prepare storage bucket object { opts with privateKey := text' } clock := by
    unfold prepare
    simp only [check_withKey hne hne', hsigner]
    rfl
  unfold create
  rw [hprepare]
  rfl

end SignedUrl

namespace KeyFile.Writing

variable {key : PrivateKey}

theorem text_eq_append (w : Writing key) : ∃ rest, w.text = w.before ++ '-' :: rest := ⟨_, rfl⟩

theorem text_ne_nil (w : Writing key) : w.text ≠ [] := by
  obtain ⟨rest, hrest⟩ := w.text_eq_append
  rw [hrest]
  simp

/-- A text begins like a public key on a line only in front of the block. -/
theorem startsLine_iff (w : Writing key) :
    Jwt.StartsLine w.text ↔ Jwt.lineStart <+: w.before := by
  obtain ⟨rest, hrest⟩ := w.text_eq_append
  unfold Jwt.StartsLine
  rw [List.isPrefixOf_iff_prefix, hrest]
  refine ⟨fun h => ?_, fun h => h.trans (List.prefix_append _ _)⟩
  rcases List.prefix_or_prefix_of_prefix h (List.prefix_append _ _) with hbefore | hbefore
  · exact hbefore
  · -- what stands in front is shorter, but it would end a line
    rcases w.before_ends with hnil | hlast
    · rw [hnil, List.nil_append] at h
      exact absurd (List.cons_prefix_cons.1 h).1 (by decide)
    · have hmem := hbefore.subset (List.mem_of_getLast? hlast)
      have hnone : Jwt.lineStart.contains '\n' = false := by decide
      rw [List.contains_eq_mem, decide_eq_false_iff_not] at hnone
      exact absurd hmem hnone

/-- What is made with a key of the way in which it is written. -/
structure Serves (w : Writing key) : Prop where
  /-- The key is read from the bytes of the file. -/
  load : PrivateKey.load (Utf8.encode w.text) = .ok key
  /-- The key is read from the text. -/
  loadText : PrivateKey.loadText w.text = .ok key
  /-- Messages are signed with the key. -/
  signer : ∀ opts : SignedUrlOptions, opts.signBytes = none → opts.privateKey = w.text →
    opts.signer = .ok (.key key)
  /-- Tokens are those of the key, unless the text begins like a public key on a line.  Then a key
  that signs gives none.  Claims that cannot be written give none either way. -/
  token : ∀ claims keyId, Jwt.signWithText claims w.text keyId = Jwt.sign claims key keyId ↔
    ¬claims.HasShortTimes ∨ ¬Jwt.lineStart <+: w.before ∨
      (¬key.CanSign ∧ ∀ e, ¬Jwt.Misfits w.text e)

theorem serves (w : Writing key) (hkey : key.isConsistent = true) (hfurther : key.further = [])
    (hlength : (Layout.wrappedElement key).content.length < 2 ^ 40) : w.Serves := by
  have hload : PrivateKey.loadText w.text = .ok key :=
    PrivateKey.loadText_eq_ok_iff.2 (w.load_text hkey hfurther hlength)
  refine ⟨hload, hload, ?_, ?_⟩
  · intro opts hbytes htext
    unfold SignedUrlOptions.signer
    rw [hbytes, htext, hload]
    rfl
  · intro claims keyId
    rw [← w.startsLine_iff]
    exact Jwt.signWithText_eq_sign_iff hload

/-! ## Examples of writings -/

/-- A key by its numbers, with all of its base64 on one line and nothing around it. -/
def onOneLine (key : PrivateKey) : Writing key where
  container := .bare
  ending := .lf
  lines := [Base64.encodePadded (Layout.bareElement key).encode]
  before := []
  after := none
  lines_flatten := List.flatten_singleton
  lines_ne_nil := by
    have hne : Base64.encodePadded (Layout.bareElement key).encode ≠ [] :=
      List.append_ne_nil_of_left_ne_nil
        (Base64.encodeUnpadded_ne_nil .standard (List.cons_ne_nil _ _)) _
    simpa using hne
  before_ends := Or.inl rfl
  before_plain := Pem.not_infix_of_count (by decide)
  after_plain := nofun

/-- A text in lines of 64 characters, the last one perhaps shorter. -/
def linesOf (t : Text) : List Text :=
  if t = [] then [] else t.take 64 :: linesOf (t.drop 64)
termination_by t.length
decreasing_by
  have hpos : 0 < t.length := List.length_pos_iff.2 ‹_›
  rw [List.length_drop]
  omega

theorem flatten_linesOf (t : Text) : (linesOf t).flatten = t := by
  fun_induction linesOf t with
  | case1 => rfl
  | case2 t hne ih => rw [List.flatten_cons, ih, List.take_append_drop]

theorem ne_nil_of_mem_linesOf {t line : Text} (h : line ∈ linesOf t) : line ≠ [] := by
  fun_induction linesOf t with
  | case1 => cases h
  | case2 t hne ih =>
    rcases List.mem_cons.1 h with rfl | h
    · exact fun hnil => hne ((List.take_eq_nil_iff.1 hnil).resolve_left (by decide))
    · exact ih h

/-- A key in lines of 64 characters, with nothing around its block. -/
def inLines (key : PrivateKey) (container : Container) (ending : Pem.LineEnd) :
    Writing key where
  container := container
  ending := ending
  lines := linesOf (Base64.encodePadded (container.element key).encode)
  before := []
  after := some []
  lines_flatten := flatten_linesOf _
  lines_ne_nil := fun _ h => ne_nil_of_mem_linesOf h
  before_ends := Or.inl rfl
  before_plain := Pem.not_infix_of_count (by decide)
  after_plain := by
    intro text htext
    rw [← Option.mem_some.1 htext]
    exact Pem.not_infix_of_count (by decide)

/-- A short key in a wrapper, in lines that end with both marks, between other lines. -/
def shortInLines : Writing PrivateKey.short :=
  { inLines PrivateKey.short .wrapped .crlf with
    before := "Comment: a key\r\n\r\n".toList
    after := some "end".toList
    before_ends := Or.inr (by decide)
    before_plain := Pem.not_infix_of_count (by decide)
    after_plain := by
      intro text htext
      rw [← Option.mem_some.1 htext]
      exact Pem.not_infix_of_count (by decide) }

/-- A short key behind a line that begins like a public key. -/
def shortBehindLine : Writing PrivateKey.short :=
  { onOneLine PrivateKey.short with
    before := "ssh-rsa\n".toList
    before_ends := Or.inr (by decide)
    before_plain := Pem.not_infix_of_count (by decide) }

theorem isConsistent_short : PrivateKey.short.isConsistent = true := by decide +kernel

theorem length_wrappedElement_short :
    (Layout.wrappedElement PrivateKey.short).content.length < 2 ^ 40 := by decide +kernel

/-! ## Agreement -/

/-- However a key is written, it is read, and what is signed with it is the same: messages and URLs
always, and tokens unless the text begins like a public key on a line. -/
theorem serves_and_create_eq (hkey : key.isConsistent = true) (hfurther : key.further = [])
    (hlength : (Layout.wrappedElement key).content.length < 2 ^ 40) (w w' : Writing key) :
    w.Serves ∧ ∀ (storage : StorageSettings) (bucket object : Text) (opts : SignedUrlOptions)
      (clock : DateTime),
      SignedUrl.create storage bucket object { opts with privateKey := w.text } clock =
        SignedUrl.create storage bucket object { opts with privateKey := w'.text } clock := by
  have hserves := w.serves hkey hfurther hlength
  have hserves' := w'.serves hkey hfurther hlength
  exact ⟨hserves, fun _ _ _ _ _ => SignedUrl.create_eq_of_loadText_eq w.text_ne_nil w'.text_ne_nil
    (hserves.loadText.trans hserves'.loadText.symm)⟩

/-- In a wrapper and between other lines a short key gives the tokens that it gives by its numbers
on one line. -/
theorem serves_and_create_eq_short :
    PrivateKey.short.isConsistent = true ∧ PrivateKey.short.further = [] ∧
      (Layout.wrappedElement PrivateKey.short).content.length < 2 ^ 40 ∧
      shortInLines.Serves ∧ ∀ claims keyId, claims.HasShortTimes → ∃ token,
        Jwt.signWithText claims shortInLines.text keyId = .ok token ∧
        Jwt.signWithText claims (onOneLine PrivateKey.short).text keyId = .ok token := by
  have hlines := (serves_and_create_eq isConsistent_short rfl length_wrappedElement_short
    shortInLines (onOneLine _)).1
  have hline := (serves_and_create_eq isConsistent_short rfl length_wrappedElement_short
    (onOneLine _) shortInLines).1
  refine ⟨isConsistent_short, rfl, length_wrappedElement_short, hlines,
    fun claims keyId htimes => ?_⟩
  obtain ⟨token, htoken⟩ := Jwt.exists_sign_of_canSign PrivateKey.canSign_short htimes keyId
  have hbefore : ¬Jwt.lineStart <+: shortInLines.before := by decide
  have hbefore' : ¬Jwt.lineStart <+: (onOneLine PrivateKey.short).before := by decide
  exact ⟨token, ((hlines.token claims keyId).2 (Or.inr (Or.inl hbefore))).trans htoken,
    ((hline.token claims keyId).2 (Or.inr (Or.inl hbefore'))).trans htoken⟩

/-- Behind a line that begins like a public key a key is read, but no token is signed with its
text. -/
theorem not_signs_behind_line :
    let claims : Claims := ⟨"i".toList, none, none, "a".toList, 1, 2, by decide⟩
    PrivateKey.short.isConsistent = true ∧
      PrivateKey.loadText shortBehindLine.text = .ok PrivateKey.short ∧
      (∃ token, Jwt.sign claims PrivateKey.short "k".toList = .ok token ∧
        Jwt.signWithText claims (onOneLine PrivateKey.short).text "k".toList = .ok token) ∧
      Jwt.signWithText claims shortBehindLine.text "k".toList = .error (.signing .claims) := by
  intro claims
  have hline := (onOneLine _).serves isConsistent_short rfl length_wrappedElement_short
  have hbehind := shortBehindLine.serves isConsistent_short rfl length_wrappedElement_short
  have htimes : claims.HasShortTimes := Claims.isWritable_payload_iff.1 (by decide +kernel)
  obtain ⟨token, htoken⟩ := Jwt.exists_sign_of_canSign PrivateKey.canSign_short htimes "k".toList
  have hbefore : ¬Jwt.lineStart <+: (onOneLine PrivateKey.short).before := by decide
  exact ⟨isConsistent_short, hbehind.loadText,
    ⟨token, htoken, ((hline.token claims _).2 (Or.inr (Or.inl hbefore))).trans htoken⟩,
    by decide +kernel⟩

end KeyFile.Writing

end SignedAccess
