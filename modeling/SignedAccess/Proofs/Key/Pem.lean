import Mathlib.Data.List.TakeWhile
import SignedAccess.Key.Pem

/-!
# Lines of PEM files

Long lines are read in pieces, so that the end of a line may come alone in a piece; it does not
close the header of a block then, as the piece before it is known to be cut.  Lines of base64
contribute their characters, however they end and wherever they are cut, and lines without five
hyphens begin no block.

    IsPiece piece → pieces (piece ++ rest) = piece :: pieces rest            (pieces_append)
    ¬closeMark <:+: bytes → blocksUpTo fuel (pieces bytes) = []              (blocksUpTo_pieces)
    Carries upper carried →
      ∃ upper', Carries upper' (carried ++ lines.flatten) ∧ …                (readBlock_lines)
-/

namespace SignedAccess.Pem

/-! ## Pieces -/

theorem piecesFrom_done (size : Nat) (current : Bytes) (done : List Bytes) (bytes : Bytes) :
    piecesFrom size current done bytes = done.reverse ++ piecesFrom size current [] bytes := by
  induction bytes generalizing size current done with
  | nil =>
    unfold piecesFrom
    split <;> simp
  | cons b bytes ih =>
    unfold piecesFrom
    split
    · rw [ih, ih 0 [] [_]]
      simp
    · exact ih _ _ _

/-- Whether bytes are read at once, whatever follows them. -/
inductive IsPiece : Bytes → Prop
  /-- The end of a line, or all of it. -/
  | line (l : Bytes) (hline : 0x0A ∉ l) (hlength : l.length < pieceLimit) : IsPiece (l ++ [0x0A])
  /-- As much of a line as is read at once. -/
  | cut (l : Bytes) (hline : 0x0A ∉ l) (hlength : l.length = pieceLimit) : IsPiece l

theorem piecesFrom_line {l : Bytes} (hline : 0x0A ∉ l) (size : Nat) (current rest : Bytes)
    (hlength : size + l.length < pieceLimit) :
    piecesFrom size current [] (l ++ 0x0A :: rest) =
      (current.reverse ++ l ++ [0x0A]) :: pieces rest := by
  induction l generalizing size current with
  | nil =>
    rw [List.nil_append, piecesFrom, if_pos (Or.inl rfl), piecesFrom_done]
    simp [pieces]
  | cons b l ih =>
    rw [List.mem_cons, not_or] at hline
    rw [List.length_cons] at hlength
    rw [List.cons_append, piecesFrom, if_neg, ih hline.2 _ _ (by omega)]
    · simp
    · rintro (hb | hb)
      · exact hline.1 hb.symm
      · omega

theorem piecesFrom_cut {l : Bytes} (hline : 0x0A ∉ l) (hne : l ≠ []) (size : Nat)
    (current rest : Bytes) (hlength : size + l.length = pieceLimit) :
    piecesFrom size current [] (l ++ rest) = (current.reverse ++ l) :: pieces rest := by
  induction l generalizing size current with
  | nil => exact absurd rfl hne
  | cons b l ih =>
    rw [List.mem_cons, not_or] at hline
    rw [List.length_cons] at hlength
    rw [List.cons_append, piecesFrom]
    cases l with
    | nil =>
      rw [if_pos (Or.inr (by simpa using hlength)), piecesFrom_done]
      simp [pieces]
    | cons c l =>
      rw [List.length_cons] at hlength
      rw [if_neg, ih hline.2 (List.cons_ne_nil _ _) _ _ (by rw [List.length_cons]; omega)]
      · simp
      · rintro (hb | hb)
        · exact hline.1 hb.symm
        · omega

/-- What is read at once comes first. -/
theorem pieces_append {piece : Bytes} (h : IsPiece piece) (rest : Bytes) :
    pieces (piece ++ rest) = piece :: pieces rest := by
  cases h with
  | line l hline hlength =>
    rw [List.append_assoc, List.singleton_append]
    exact piecesFrom_line hline 0 [] rest (by omega)
  | cut _ hline hlength =>
    refine piecesFrom_cut hline ?_ 0 [] rest (by omega)
    rintro rfl
    cases hlength

/-- The last line of a file may have no end. -/
theorem pieces_last {l : Bytes} (hne : l ≠ []) (hline : 0x0A ∉ l)
    (hlength : l.length < pieceLimit) : pieces l = [l] := by
  have hfrom (size : Nat) (current : Bytes) (h : size + l.length < pieceLimit)
      (hcurrent : current ≠ [] ∨ l ≠ []) :
      piecesFrom size current [] l = [current.reverse ++ l] := by
    clear hne hlength
    induction l generalizing size current with
    | nil =>
      rw [piecesFrom, if_neg (by simpa using hcurrent)]
      simp
    | cons b l ih =>
      rw [List.mem_cons, not_or] at hline
      rw [List.length_cons] at h
      rw [piecesFrom, if_neg, ih hline.2 _ _ (by omega) (Or.inl (List.cons_ne_nil _ _))]
      · simp
      · rintro (hb | hb)
        · exact hline.1 hb.symm
        · omega
  exact hfrom 0 [] (by omega) (Or.inr hne)

/-- Pieces do not reach beyond a line feed. -/
theorem pieces_append_line (lines rest : Bytes) :
    pieces (lines ++ 0x0A :: rest) = pieces (lines ++ [0x0A]) ++ pieces rest := by
  have hfrom (size : Nat) (current : Bytes) :
      piecesFrom size current [] (lines ++ 0x0A :: rest) =
        piecesFrom size current [] (lines ++ [0x0A]) ++ pieces rest := by
    induction lines generalizing size current with
    | nil =>
      rw [List.nil_append, List.nil_append, piecesFrom, if_pos (Or.inl rfl), piecesFrom_done,
        piecesFrom, if_pos (Or.inl rfl), piecesFrom_done]
      simp [pieces, piecesFrom]
    | cons b lines ih =>
      rw [List.cons_append, List.cons_append, piecesFrom, piecesFrom]
      split
      · rw [piecesFrom_done, ih, piecesFrom_done 0 [] [_] (lines ++ [0x0A]), List.append_assoc]
      · exact ih _ _
  exact hfrom 0 []

theorem flatten_pieces (bytes : Bytes) : (pieces bytes).flatten = bytes := by
  have hfrom (size : Nat) (current : Bytes) :
      (piecesFrom size current [] bytes).flatten = current.reverse ++ bytes := by
    induction bytes generalizing size current with
    | nil =>
      unfold piecesFrom
      split
      · next hnil => simp [hnil]
      · simp
    | cons b bytes ih =>
      unfold piecesFrom
      split
      · rw [piecesFrom_done, List.flatten_append, ih]
        simp
      · rw [ih]
        simp
  exact hfrom 0 []

/-! ## Lines that begin no block -/

theorem without?_append (start bytes : Bytes) : without? start (start ++ bytes) = some bytes := by
  induction start with
  | nil => rfl
  | cons a start ih => rw [List.cons_append, without?, if_pos rfl, ih]

theorem eq_append_of_without? {start bytes rest : Bytes} (h : without? start bytes = some rest) :
    bytes = start ++ rest := by
  induction start generalizing bytes with
  | nil => exact Option.some.inj h
  | cons a start ih =>
    cases bytes with
    | nil => cases h
    | cons b bytes =>
      rw [without?] at h
      split at h
      · next hab => rw [hab, List.cons_append, ← ih h]
      · cases h

theorem trim_isPrefix (piece : Bytes) : trim piece <+: piece := by
  have h := (List.dropWhile_suffix (fun b => !isSolid b) (l := piece.reverse)).reverse
  rwa [List.reverse_reverse] at h

/-- A line without five hyphens does not begin a block. -/
theorem beginLabel?_trim {piece : Bytes} (h : ¬closeMark <:+: piece) :
    beginLabel? (trim piece) = none := by
  cases hlabel : without? beginMark (trim piece) with
  | none =>
    unfold beginLabel?
    rw [hlabel]
    rfl
  | some rest =>
    refine absurd ?_ h
    have hmark : closeMark <:+: beginMark := ⟨[], ascii "BEGIN ", by decide⟩
    have hfront : beginMark <+: trim piece := ⟨rest, (eq_append_of_without? hlabel).symm⟩
    exact hmark.trans (hfront.trans (trim_isPrefix piece)).isInfix

theorem nextLabel?_append {front : List Bytes} (h : ∀ piece ∈ front, ¬closeMark <:+: piece)
    (rest : List Bytes) : nextLabel? (front ++ rest) = nextLabel? rest := by
  induction front with
  | nil => rfl
  | cons piece front ih =>
    rw [List.cons_append, nextLabel?, beginLabel?_trim (h piece List.mem_cons_self)]
    exact ih fun p hp => h p (List.mem_cons_of_mem _ hp)

theorem dropSignature_suffix (piece : Bytes) : dropSignature piece <:+ piece := by
  unfold dropSignature
  split
  · exact ⟨[0xEF, 0xBB, 0xBF], rfl⟩
  · exact List.suffix_rfl

/-- No piece has a mark that the whole does not have. -/
theorem not_infix_of_mem_pieces {bytes piece : Bytes} (h : ¬closeMark <:+: bytes)
    (hpiece : piece ∈ pieces bytes) : ¬closeMark <:+: piece := by
  intro hmark
  have hinfix : piece <:+: (pieces bytes).flatten := List.infix_of_mem_flatten hpiece
  rw [flatten_pieces] at hinfix
  exact h (hmark.trans hinfix)

theorem not_infix_dropSignature {piece : Bytes} (h : ¬closeMark <:+: piece) :
    ¬closeMark <:+: dropSignature piece :=
  fun hmark => h (hmark.trans (dropSignature_suffix piece).isInfix)

/-- There is no block without five hyphens. -/
theorem blocksUpTo_pieces {bytes : Bytes} (h : ¬closeMark <:+: bytes) (fuel : Nat) :
    blocksUpTo fuel (pieces bytes) = [] := by
  have hpieces : ∀ piece ∈ pieces bytes, ¬closeMark <:+: piece :=
    fun piece hpiece => not_infix_of_mem_pieces h hpiece
  cases fuel with
  | zero => rfl
  | succ fuel =>
    cases hbytes : pieces bytes with
    | nil => rfl
    | cons piece rest =>
      rw [hbytes, List.forall_mem_cons] at hpieces
      have hnone : nextLabel? (dropSignature piece :: rest ++ []) = none :=
        nextLabel?_append
          (List.forall_mem_cons.2 ⟨not_infix_dropSignature hpieces.1, hpieces.2⟩) []
      rw [List.append_nil] at hnone
      rw [blocksUpTo, hnone]

/-- Behind pieces without five hyphens the first block is that of the label that follows. -/
theorem blocksUpTo_append {front : List Bytes} {piece label : Bytes} (body : List Bytes)
    (hfront : ∀ p ∈ front, ¬closeMark <:+: p) (hsigned : dropSignature piece = piece)
    (hlabel : beginLabel? (trim piece) = some label) (fuel : Nat) :
    blocksUpTo (fuel + 1) (front ++ piece :: body) =
      (readBlock label .start body).1 :: blocksUpTo fuel (readBlock label .start body).2 := by
  have hnext : nextLabel? (piece :: body) = some (label, body) := by rw [nextLabel?, hlabel]
  cases front with
  | nil => rw [List.nil_append, blocksUpTo, hsigned, hnext]
  | cons next front =>
    rw [List.forall_mem_cons] at hfront
    have hfound := nextLabel?_append
      (List.forall_mem_cons.2 ⟨not_infix_dropSignature hfront.1, hfront.2⟩) (piece :: body)
    rw [hnext, List.cons_append] at hfound
    rw [List.cons_append, blocksUpTo, hfound]

/-! ## Lines of a block -/

inductive LineEnd where
  | lf
  | crlf
  deriving DecidableEq, Repr

def LineEnd.bytes : LineEnd → Bytes
  | lf => [0x0A]
  | crlf => [0x0D, 0x0A]

/-- Whether a byte may stand in a line of base64: it is solid, no hyphen and no colon. -/
def IsContent (b : UInt8) : Prop := isSolid b = true ∧ b ≠ 0x2D ∧ b ≠ 0x3A

/-- Whether a byte belongs to the end of a line. -/
def IsEnding (b : UInt8) : Prop := b = 0x0D ∨ b = 0x0A

theorem LineEnd.isEnding_of_mem {ending : LineEnd} {b : UInt8} (h : b ∈ ending.bytes) :
    IsEnding b := by
  cases ending with
  | lf => exact Or.inr (List.mem_singleton.1 h)
  | crlf =>
    rcases List.mem_cons.1 h with h | h
    · exact Or.inl h
    · exact Or.inr (List.mem_singleton.1 h)

theorem IsEnding.isSolid {b : UInt8} (h : IsEnding b) : isSolid b = false := by
  rcases h with rfl | rfl <;> decide

theorem IsEnding.ne_colon {b : UInt8} (h : IsEnding b) : b ≠ 0x3A := by
  rcases h with rfl | rfl <;> decide

theorem IsContent.not_isEnding {b : UInt8} (h : IsContent b) : ¬IsEnding b := by
  intro hending
  rw [IsContent, hending.isSolid] at h
  cases h.1

theorem IsContent.isGap {b : UInt8} (h : IsContent b) : isGap b = false := by
  refine Bool.eq_false_iff.2 fun hgap => ?_
  simp only [Pem.isGap, Bool.or_eq_true, decide_eq_true_eq] at hgap
  rcases hgap with ((rfl | rfl) | rfl) | rfl
  · exact absurd h.1 (by decide)
  · exact absurd h.1 (by decide)
  · exact absurd h.1 (by decide)
  · exact absurd h.1 (by decide)

theorem IsContent.ne_zero {b : UInt8} (h : IsContent b) : b ≠ 0 := by
  rintro rfl
  exact absurd h.1 (by decide)

/-- What ends with a solid byte is left when the end of its line is cut off. -/
theorem trim_append {l ending : Bytes} (hl : ∀ b ∈ l.getLast?, isSolid b = true)
    (hending : ∀ b ∈ ending, IsEnding b) : trim (l ++ ending) = l := by
  have hdropped : ∀ b ∈ ending.reverse, (!isSolid b) = true := fun b hb => by
    rw [(hending b (List.mem_reverse.1 hb)).isSolid]
    rfl
  unfold trim
  rw [List.reverse_append, List.dropWhile_append_of_pos hdropped]
  rcases List.eq_nil_or_concat l with rfl | ⟨front, last, rfl⟩
  · rfl
  · have hlast : isSolid last = true := hl last (by simp)
    rw [List.concat_eq_append, List.reverse_append, List.reverse_singleton, List.singleton_append,
      List.dropWhile_cons_of_neg (by simp [hlast]), List.reverse_cons, List.reverse_reverse]

/-- Where a block is read whose lines have shown no colon. -/
def reading (upper : List Bytes) (isInLine : Bool) : Progress :=
  ⟨.undecided, upper, [], isInLine, false⟩

section

variable {label l ending piece : Bytes} {upper rest : List Bytes} {isInLine : Bool}

theorem readBlock_content (hl : ∀ b ∈ l, IsContent b) (hne : l ≠ [])
    (hending : ∀ b ∈ ending, IsEnding b) :
    readBlock label (reading upper isInLine) ((l ++ ending) :: rest) =
      readBlock label (reading ((l ++ [0x0A]) :: upper) (isCut (l ++ ending))) rest := by
  have htrim : trim (l ++ ending) = l :=
    trim_append (fun b hb => (hl b (List.mem_of_getLast? hb)).1) hending
  have hcolon : (l ++ ending).contains 0x3A = false := by
    rw [List.contains_eq_mem, decide_eq_false_iff_not, List.mem_append]
    rintro (hmem | hmem)
    · exact (hl _ hmem).2.2 rfl
    · exact (hending _ hmem).ne_colon rfl
  have hmark : without? endMark l = none := by
    cases l with
    | nil => exact absurd rfl hne
    | cons b l => exact if_neg fun h => (hl b List.mem_cons_self).2.1 h.symm
  have hzero : l.contains 0 = false := by
    rw [List.contains_eq_mem, decide_eq_false_iff_not]
    exact fun hmem => (hl _ hmem).ne_zero rfl
  rw [readBlock]
  simp only [htrim, hcolon, hmark, if_neg hne, Bool.false_eq_true, and_false, if_false]
  show readBlock label (reading (contribution l :: upper) (isCut (l ++ ending))) rest = _
  rw [contribution, hzero, if_neg Bool.false_ne_true]

/-- The end of a line that was cut is passed over. -/
theorem readBlock_blank (hending : ∀ b ∈ ending, IsEnding b) :
    readBlock label (reading upper true) (ending :: rest) =
      readBlock label (reading upper (isCut ending)) rest := by
  have htrim : trim ending = [] := trim_append (l := []) nofun hending
  have hcolon : ending.contains 0x3A = false := by
    rw [List.contains_eq_mem, decide_eq_false_iff_not]
    exact fun hmem => (hending _ hmem).ne_colon rfl
  rw [readBlock]
  simp only [htrim, hcolon, Bool.false_eq_true, and_false, if_false, if_true]
  rfl

/-- At the last line the block is complete. -/
theorem readBlock_end (htrim : trim piece = endMark ++ label ++ closeMark)
    (hcolon : 0x3A ∉ piece) :
    readBlock label (reading upper isInLine) (piece :: rest) =
      ((decodeBody? upper.reverse.flatten).map fun content => ⟨label, [], content⟩, rest) := by
  have hcolon' : piece.contains 0x3A = false := by
    rwa [List.contains_eq_mem, decide_eq_false_iff_not]
  have hmark : without? endMark (endMark ++ label ++ closeMark) = some (label ++ closeMark) := by
    rw [List.append_assoc, without?_append]
  have hne : endMark ++ label ++ closeMark ≠ [] := List.cons_ne_nil _ _
  rw [readBlock]
  simp only [htrim, hcolon', hmark, if_neg hne, Bool.false_eq_true, and_false, if_false, if_true]
  rfl

end

/-! ## Bodies -/

/-- Whether what lines contribute, the latest first, holds some characters of base64 and no others
but gaps. -/
structure Carries (upper : List Bytes) (characters : Bytes) : Prop where
  hyphens : ∀ b ∈ upper.reverse.flatten, b ≠ 0x2D
  characters : upper.reverse.flatten.filter (fun b => !isGap b) = characters

theorem carries_nil : Carries [] [] := ⟨nofun, rfl⟩

theorem Carries.line {upper : List Bytes} {carried l : Bytes} (h : Carries upper carried)
    (hl : ∀ b ∈ l, IsContent b) : Carries ((l ++ [0x0A]) :: upper) (carried ++ l) := by
  have hkept : l.filter (fun b => !isGap b) = l := by
    refine List.filter_eq_self.2 fun b hb => ?_
    rw [(hl b hb).isGap]
    rfl
  have hflatten : ((l ++ [0x0A]) :: upper).reverse.flatten =
      upper.reverse.flatten ++ (l ++ [0x0A]) := by simp
  constructor
  · intro b hb
    rw [hflatten, List.mem_append, List.mem_append] at hb
    rcases hb with hb | hb | hb
    · exact h.hyphens b hb
    · exact (hl b hb).2.1
    · rw [List.mem_singleton.1 hb]
      decide
  · rw [hflatten, List.filter_append, List.filter_append, h.characters, hkept]
    simp [isGap]

theorem isCut_of_length {piece : Bytes} (hline : 0x0A ∉ piece)
    (hlength : piece.length = pieceLimit) : isCut piece = true := by
  unfold isCut
  rw [Bool.and_eq_true, decide_eq_true_iff, decide_eq_true_iff]
  exact ⟨hlength, fun hlast => hline (List.mem_of_getLast? hlast)⟩

theorem isCut_line (l : Bytes) : isCut (l ++ [0x0A]) = false := by
  unfold isCut
  simp

theorem not_mem_of_isContent {l : Bytes} (hl : ∀ b ∈ l, IsContent b) : 0x0A ∉ l :=
  fun hmem => (hl _ hmem).not_isEnding (Or.inr rfl)

section

variable (label : Bytes) {l : Bytes} {upper : List Bytes} {carried : Bytes} {isInLine : Bool}

/-- The rest of a line is read at once. -/
theorem readBlock_lineEnd (front : Bytes) (hl : ∀ b ∈ l, IsContent b)
    (h : l ≠ [] ∨ isInLine = true) (hcarries : Carries upper carried)
    (hfront : ∀ b ∈ front, IsEnding b) (hpiece : IsPiece (l ++ (front ++ [0x0A]))) (rest : Bytes) :
    ∃ upper', Carries upper' (carried ++ l) ∧
      readBlock label (reading upper isInLine) (pieces (l ++ (front ++ [0x0A]) ++ rest)) =
        readBlock label (reading upper' false) (pieces rest) := by
  have hending : ∀ b ∈ front ++ [0x0A], IsEnding b := by
    intro b hb
    rcases List.mem_append.1 hb with hb | hb
    · exact hfront b hb
    · exact Or.inr (List.mem_singleton.1 hb)
  have hcut : isCut (l ++ (front ++ [0x0A])) = false := by
    rw [← List.append_assoc]
    exact isCut_line _
  rw [pieces_append hpiece]
  by_cases hnil : l = []
  · subst hnil
    obtain rfl : isInLine = true := h.resolve_left (not_not_intro rfl)
    rw [List.nil_append] at hcut ⊢
    exact ⟨upper, by rwa [List.append_nil], by rw [readBlock_blank hending, hcut]⟩
  · exact ⟨_, hcarries.line hl, by rw [readBlock_content hl hnil hending, hcut]⟩

/-- A piece that ends in a line contributes its characters, and the line goes on. -/
theorem readBlock_cut (ending : Bytes) (hl : ∀ b ∈ l, IsContent b) (hne : l ≠ [])
    (hending : ∀ b ∈ ending, IsEnding b) (hline : 0x0A ∉ ending)
    (hlength : (l ++ ending).length = pieceLimit) (rest : Bytes) :
    readBlock label (reading upper isInLine) (pieces (l ++ ending ++ rest)) =
      readBlock label (reading ((l ++ [0x0A]) :: upper) true) (pieces rest) := by
  have hwhole : 0x0A ∉ l ++ ending := by
    rw [List.mem_append, not_or]
    exact ⟨not_mem_of_isContent hl, hline⟩
  rw [pieces_append (.cut _ hwhole hlength), readBlock_content hl hne hending,
    isCut_of_length hwhole hlength]

/-- A line of a block contributes its characters, whether or not it is read at once. -/
theorem readBlock_line (ending : LineEnd) (hl : ∀ b ∈ l, IsContent b)
    (h : l ≠ [] ∨ isInLine = true) (hcarries : Carries upper carried) (rest : Bytes) :
    ∃ upper', Carries upper' (carried ++ l) ∧
      readBlock label (reading upper isInLine) (pieces (l ++ ending.bytes ++ rest)) =
        readBlock label (reading upper' false) (pieces rest) := by
  have hnone : ∀ b ∈ ([] : Bytes), IsEnding b := fun b hb => absurd hb List.not_mem_nil
  -- each cut takes a whole piece off the line
  induction hn : l.length using Nat.strong_induction_on
    generalizing l upper carried isInLine with
  | _ n ih =>
    have hline := not_mem_of_isContent hl
    by_cases hlong : pieceLimit ≤ l.length
    · have hfirst : ∀ b ∈ l.take pieceLimit, IsContent b :=
        fun b hb => hl b (List.mem_of_mem_take hb)
      have hmore : ∀ b ∈ l.drop pieceLimit, IsContent b :=
        fun b hb => hl b (List.mem_of_mem_drop hb)
      have hlength : (l.take pieceLimit ++ []).length = pieceLimit := by
        rw [List.append_nil, List.length_take]
        omega
      have hne : l.take pieceLimit ≠ [] := by
        intro hnil
        rw [hnil] at hlength
        cases hlength
      have hlt : (l.drop pieceLimit).length < n := by
        rw [List.length_drop]
        unfold pieceLimit at *
        omega
      have hsplit : l ++ ending.bytes ++ rest =
          l.take pieceLimit ++ [] ++ (l.drop pieceLimit ++ ending.bytes ++ rest) := by
        rw [List.append_nil, ← List.append_assoc, ← List.append_assoc, List.take_append_drop]
      obtain ⟨upper', hcarries', hread⟩ := ih _ hlt hmore (Or.inr rfl) (hcarries.line hfirst) rfl
      rw [List.append_assoc, List.take_append_drop] at hcarries'
      exact ⟨upper', hcarries', by
        rw [hsplit, readBlock_cut label [] hfirst hne hnone List.not_mem_nil hlength, hread]⟩
    · cases ending with
      | lf => exact readBlock_lineEnd label [] hl h hcarries hnone (.line l hline (by omega)) rest
      | crlf =>
        have hreturn : ∀ b ∈ [(0x0D : UInt8)], IsEnding b :=
          fun b hb => Or.inl (List.mem_singleton.1 hb)
        by_cases hfits : l.length + 1 < pieceLimit
        · refine readBlock_lineEnd label [0x0D] hl h hcarries hreturn ?_ rest
          rw [← List.append_assoc]
          refine .line _ ?_ (by rw [List.length_append]; exact hfits)
          rw [List.mem_append, not_or]
          exact ⟨hline, by decide⟩
        · -- the line feed comes alone
          have hlength : (l ++ [0x0D]).length = pieceLimit := by
            rw [List.length_append, List.length_singleton]
            omega
          have hne : l ≠ [] := by
            rintro rfl
            cases hlength
          have hsplit : l ++ LineEnd.crlf.bytes ++ rest = l ++ [0x0D] ++ ([0x0A] ++ rest) := by
            simp [LineEnd.bytes]
          obtain ⟨upper', hcarries', hread⟩ := readBlock_lineEnd label [] (l := [])
            (fun b hb => absurd hb List.not_mem_nil) (Or.inr rfl) (hcarries.line hl) hnone
            (.line [] List.not_mem_nil (by decide)) rest
          rw [List.append_nil] at hcarries'
          refine ⟨upper', hcarries', ?_⟩
          rw [hsplit, readBlock_cut label [0x0D] hl hne hreturn (by decide) hlength]
          exact hread

/-- The lines of a block contribute their characters. -/
theorem readBlock_lines (ending : LineEnd) {lines : List Bytes}
    (hlines : ∀ l ∈ lines, l ≠ [] ∧ ∀ b ∈ l, IsContent b) (hcarries : Carries upper carried)
    (rest : Bytes) :
    ∃ upper', Carries upper' (carried ++ lines.flatten) ∧
      readBlock label (reading upper false)
          (pieces (lines.flatMap (fun l => l ++ ending.bytes) ++ rest)) =
        readBlock label (reading upper' false) (pieces rest) := by
  induction lines generalizing upper carried with
  | nil => exact ⟨upper, by simpa using hcarries, rfl⟩
  | cons l lines ih =>
    obtain ⟨⟨hne, hl⟩, hlines⟩ := List.forall_mem_cons.1 hlines
    obtain ⟨upper₁, hcarries₁, hread₁⟩ := readBlock_line label ending hl (Or.inl hne)
      hcarries (lines.flatMap (fun l => l ++ ending.bytes) ++ rest)
    obtain ⟨upper₂, hcarries₂, hread₂⟩ := ih hlines hcarries₁
    refine ⟨upper₂, ?_, ?_⟩
    · rwa [List.flatten_cons, ← List.append_assoc]
    · rw [List.flatMap_cons, List.append_assoc, hread₁, hread₂]

end

end SignedAccess.Pem
