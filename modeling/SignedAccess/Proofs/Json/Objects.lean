import Mathlib.Algebra.Group.Nat.Defs
import SignedAccess.Proofs.Json.Strings
import SignedAccess.Proofs.Number.Digits
import SignedAccess.Proofs.Text.Pieces

/-!
# JSON objects read back

An object whose fields are texts and integers is written in one way, without blanks.  A reader,
strict or lenient, reads back its fields in order, provided that no key comes twice.

    readValue maxDigits s depth (fuel + 1) (write .compact j ++ rest) = .ok (j, rest)
                                                                                (readValue_write)
    read s (write .compact (.object fields)) = .ok (.object fields)             (read_write_object)
-/

namespace SignedAccess

namespace Decimal

/-! ## Digits -/

/-- The digits of a number that is not zero do not begin with a zero. -/
theorem head?_ofNat_ne {n : Nat} (h : 0 < n) : (ofNat n).head? ≠ some '0' := by
  unfold ofNat
  induction n using Nat.strongRecOn with
  | ind n ih =>
    rw [Nat.toDigits_eq_if (by decide)]
    split
    · next hlt =>
      have hdigit : ∀ m, m < 10 → 0 < m → Nat.digitChar m ≠ '0' := by decide
      simpa using hdigit n hlt h
    · next hge =>
      obtain ⟨d, ds, hdigits⟩ := List.exists_cons_of_ne_nil (@Nat.toDigits_ne_nil (n / 10) 10)
      have hhead := ih (n / 10) (by omega) (by omega)
      rw [hdigits] at hhead ⊢
      exact hhead

theorem length_ofNat_le {n k : Nat} (hk : 0 < k) (h : n < 10 ^ k) : (ofNat n).length ≤ k :=
  (Nat.length_toDigits_le_iff (by decide) hk).2 h

end Decimal

namespace Json

open Decimal (maxDigits)

/-! ## Numbers -/

/-- Whether a number that stands in front of a text ends there. -/
def EndsNumber (rest : Text) : Prop :=
  ∀ c ∈ rest.head?, c.isDigit = false ∧ c ≠ '.' ∧ c ≠ 'e' ∧ c ≠ 'E'

theorem digitsOf_append {digits rest : Text} (hdigits : ∀ c ∈ digits, c.isDigit = true)
    (hrest : EndsNumber rest) : digitsOf (digits ++ rest) = (digits, rest) := by
  have hnone : rest.takeWhile Char.isDigit = [] ∧ rest.dropWhile Char.isDigit = rest := by
    cases rest with
    | nil => exact ⟨rfl, rfl⟩
    | cons c rest =>
      have hc := (hrest c rfl).1
      simp [hc]
  unfold digitsOf
  rw [List.takeWhile_append_of_pos hdigits, List.dropWhile_append_of_pos hdigits, hnone.1, hnone.2,
    List.append_nil]

theorem fraction_of_endsNumber {rest : Text} (h : EndsNumber rest) :
    fraction rest = ([], rest) := by
  unfold fraction
  split
  · next tail => exact absurd rfl (h '.' rfl).2.1
  · rfl

theorem exponent?_of_endsNumber {rest : Text} (h : EndsNumber rest) :
    exponent? rest = (none, rest) := by
  unfold exponent?
  split
  · next e tail =>
    have he := h e rfl
    rw [if_neg (not_or.2 he.2.2)]
  · rfl

/-- The digits in front of a text, of which a zero stands alone. -/
def wholeOf (t : Text) : Text × Text :=
  match t with
  | '0' :: rest => (['0'], rest)
  | _ => digitsOf t

theorem wholeOf_ofNat (n : Nat) {rest : Text} (hrest : EndsNumber rest) :
    wholeOf (Decimal.ofNat n ++ rest) = (Decimal.ofNat n, rest) := by
  by_cases hzero : n = 0
  · rw [hzero]
    rfl
  · have hhead := Decimal.head?_ofNat_ne (Nat.pos_of_ne_zero hzero)
    obtain ⟨d, ds, hdigits⟩ := List.exists_cons_of_ne_nil (@Nat.toDigits_ne_nil n 10)
    unfold wholeOf
    split
    · next heq =>
      rw [Decimal.ofNat, hdigits] at heq hhead
      exact absurd (congrArg some (List.cons.inj heq).1) hhead
    · exact digitsOf_append (fun c hc => Decimal.isDigit_of_mem_ofNat hc) hrest

/-- The digits of a number are read as that number. -/
theorem readMagnitude?_ofNat {strict negative : Bool} {n : Nat} {rest : Text}
    (hfits : fits maxDigits strict negative (Decimal.ofNat n) = true) (hrest : EndsNumber rest) :
    readMagnitude? maxDigits strict negative (Decimal.ofNat n ++ rest) =
      some (.int (Decimal.withSign negative n), rest) := by
  have hne : Decimal.ofNat n ≠ [] := Nat.toDigits_ne_nil
  unfold readMagnitude?
  split
  next whole tail heq =>
  have hwhole : wholeOf (Decimal.ofNat n ++ rest) = (whole, tail) := heq
  rw [wholeOf_ofNat n hrest] at hwhole
  cases hwhole
  simp only [fraction_of_endsNumber hrest, exponent?_of_endsNumber hrest, hfits, if_neg hne,
    Option.isNone_none, and_self, if_true, Decimal.value_ofNat]

theorem fits_ofNat (strict negative : Bool) {n : Nat} (h : n < 10 ^ (maxDigits - 1)) :
    fits maxDigits strict negative (Decimal.ofNat n) = true := by
  have hlength := Decimal.length_ofNat_le (by decide) h
  unfold fits
  rw [decide_eq_true_eq]
  unfold maxDigits at hlength ⊢
  split <;> omega

theorem without?_eq_none {a c : Char} (h : a ≠ c) (start t : Text) :
    Text.without? (a :: start) (c :: t) = none := by
  rw [Text.without?, if_neg h]

/-- A first digit of a number. -/
theorem exists_digit_ofNat (n : Nat) :
    ∃ d ds, Decimal.ofNat n = d :: ds ∧ d.isDigit = true := by
  obtain ⟨d, ds, hdigits⟩ := List.exists_cons_of_ne_nil (@Nat.toDigits_ne_nil n 10)
  exact ⟨d, ds, hdigits, Decimal.isDigit_of_mem_ofNat (hdigits ▸ List.mem_cons_self)⟩

theorem ne_of_isDigit {a d : Char} (ha : a.isDigit = false) (hd : d.isDigit = true) : a ≠ d := by
  rintro rfl
  rw [ha] at hd
  cases hd

/-- An integer begins with a minus sign or a digit. -/
theorem exists_cons_ofInt (n : Int) :
    ∃ c tail, Decimal.ofInt n = c :: tail ∧ (c = '-' ∨ c.isDigit = true) := by
  cases n with
  | ofNat n =>
    obtain ⟨d, ds, hdigits, hd⟩ := exists_digit_ofNat n
    exact ⟨d, ds, hdigits, Or.inr hd⟩
  | negSucc n => exact ⟨'-', _, rfl, Or.inl rfl⟩

theorem ne_of_startsInt {a c : Char} (hc : c = '-' ∨ c.isDigit = true) (hminus : a ≠ '-')
    (hdigit : a.isDigit = false) : a ≠ c := by
  rcases hc with rfl | hc
  · exact hminus
  · exact ne_of_isDigit hdigit hc

/-- What begins with a digit or a minus sign is no name. -/
theorem readScalar?_eq (limit : Nat) (strict : Bool) {c : Char}
    (hc : c = '-' ∨ c.isDigit = true) (t : Text) :
    readScalar? limit strict (c :: t) = readNumber? limit strict (c :: t) := by
  have hnull : Text.without? "null".toList (c :: t) = none :=
    without?_eq_none (ne_of_startsInt hc (by decide) rfl) _ _
  have htrue : Text.without? "true".toList (c :: t) = none :=
    without?_eq_none (ne_of_startsInt hc (by decide) rfl) _ _
  have hfalse : Text.without? "false".toList (c :: t) = none :=
    without?_eq_none (ne_of_startsInt hc (by decide) rfl) _ _
  simp only [readScalar?, hnull, htrue, hfalse]

/-- An integer is read as it was written. -/
theorem readNumber?_ofInt (strict : Bool) {n : Int}
    (h : n.natAbs < 10 ^ (maxDigits - 1)) {rest : Text} (hrest : EndsNumber rest) :
    readNumber? maxDigits strict (Decimal.ofInt n ++ rest) = some (.int n, rest) := by
  cases n with
  | ofNat n =>
    obtain ⟨d, ds, hdigits, hd⟩ := exists_digit_ofNat n
    have hread := @readMagnitude?_ofNat strict false n rest (fits_ofNat strict false h) hrest
    have hnan : Text.without? "NaN".toList (d :: (ds ++ rest)) = none :=
      without?_eq_none (ne_of_isDigit rfl hd) _ _
    have hinf : Text.without? "Infinity".toList (d :: (ds ++ rest)) = none :=
      without?_eq_none (ne_of_isDigit rfl hd) _ _
    have hminus : Text.without? "-Infinity".toList (d :: (ds ++ rest)) = none :=
      without?_eq_none (ne_of_isDigit rfl hd) _ _
    show readNumber? maxDigits strict (Decimal.ofNat n ++ rest) = _
    rw [hdigits, List.cons_append] at hread ⊢
    simp only [readNumber?, hnan, hinf, hminus]
    split
    · next heq => exact absurd (List.cons.inj heq).1.symm (ne_of_isDigit rfl hd)
    · exact hread
  | negSucc n =>
    obtain ⟨d, ds, hdigits, hd⟩ := exists_digit_ofNat (n + 1)
    have hread := @readMagnitude?_ofNat strict true (n + 1) rest (fits_ofNat strict true h) hrest
    have hinf :
        Text.without? "-Infinity".toList ('-' :: (Decimal.ofNat (n + 1) ++ rest)) = none := by
      rw [hdigits]
      exact without?_eq_none (ne_of_isDigit rfl hd) _ _
    show readNumber? maxDigits strict ('-' :: (Decimal.ofNat (n + 1) ++ rest)) = _
    have hnan : Text.without? "NaN".toList ('-' :: (Decimal.ofNat (n + 1) ++ rest)) = none := rfl
    have hpos : Text.without? "Infinity".toList ('-' :: (Decimal.ofNat (n + 1) ++ rest)) = none :=
      rfl
    simp only [readNumber?, hnan, hpos, hinf]
    exact hread

/-! ## Plain values -/

/-- Whether a value is a text, or an integer that is not too long to be read. -/
def IsPlain : Json → Prop
  | .text _ => True
  | .int n => n.natAbs < 10 ^ (maxDigits - 1)
  | _ => False

theorem isPlain_text (t : Text) : (Json.text t).IsPlain := True.intro

def IsFlat : Json → Prop
  | .text _ => True
  | .int _ => True
  | _ => False

theorem IsFlat.text_or_int {j : Json} (h : j.IsFlat) : (∃ t, j = .text t) ∨ ∃ n, j = .int n := by
  cases j with
  | text t => exact Or.inl ⟨t, rfl⟩
  | int n => exact Or.inr ⟨n, rfl⟩
  | null | bool b | real x | unpaired | array items | object fields => exact h.elim

/-- A plain value is a text or an integer. -/
theorem IsPlain.isFlat {j : Json} (h : j.IsPlain) : j.IsFlat := by
  cases j with
  | text t => exact True.intro
  | int n => exact True.intro
  | null | bool b | real x | unpaired | array items | object fields => exact h.elim

theorem isWritable_int_iff {n : Int} : (int n).isWritable = true ↔ n.natAbs < 10 ^ maxDigits := by
  rw [isWritable, isShort, decide_eq_true_iff, Nat.pow_eq]

/-- Fields are written just when the value of each is. -/
theorem areFieldsWritable_iff {fields : List (Text × Json)} :
    areFieldsWritable fields = true ↔ ∀ f ∈ fields, f.2.isWritable = true := by
  induction fields with
  | nil => simp [areFieldsWritable]
  | cons f fields ih =>
    rw [areFieldsWritable, Bool.and_eq_true, ih, List.forall_mem_cons]

/-- What begins with no quote and no bracket is a name or a number. -/
theorem readValue_scalar (limit : Nat) (s : Strictness) (depth fuel : Nat) {c : Char}
    (hquote : c ≠ '"') (hbracket : c ≠ '[') (hbrace : c ≠ '{') (t : Text) :
    readValue limit s depth (fuel + 1) (c :: t) =
      orMalformed (readScalar? limit s.strict (c :: t)) := by
  refine readValue.eq_5 limit s depth (c :: t) fuel ?_ ?_ ?_
  · exact fun rest heq => hquote (List.cons.inj heq).1
  · exact fun rest heq => hbracket (List.cons.inj heq).1
  · exact fun rest heq => hbrace (List.cons.inj heq).1

/-- A text or an integer is read back, wherever it stands. -/
theorem readValue_write (s : Strictness) (depth fuel : Nat) {j : Json} (hplain : j.IsPlain)
    {rest : Text} (hrest : EndsNumber rest) :
    readValue maxDigits s depth (fuel + 1) (write .compact j ++ rest) = .ok (j, rest) := by
  rcases hplain.isFlat.text_or_int with ⟨t, rfl⟩ | ⟨n, rfl⟩
  · have hread := readString?_write s.strict t rest
    show readValue maxDigits s depth (fuel + 1) ('"' :: (t.flatMap writeChar ++ ['"']) ++ rest) = _
    rw [List.cons_append, List.append_assoc, List.singleton_append]
    simp only [readValue, hread]
  · have hread := readNumber?_ofInt s.strict hplain hrest
    obtain ⟨c, tail, htext, hc⟩ := exists_cons_ofInt n
    have hquote : c ≠ '"' := (ne_of_startsInt hc (by decide) rfl).symm
    have hbracket : c ≠ '[' := (ne_of_startsInt hc (by decide) rfl).symm
    have hbrace : c ≠ '{' := (ne_of_startsInt hc (by decide) rfl).symm
    show readValue maxDigits s depth (fuel + 1) (Decimal.ofInt n ++ rest) = _
    rw [htext, List.cons_append] at hread ⊢
    rw [readValue_scalar _ s depth fuel hquote hbracket hbrace, readScalar?_eq _ s.strict hc, hread]
    rfl

/-- A text or an integer does not begin with a blank. -/
theorem skipGaps_write {j : Json} (hflat : j.IsFlat) (rest : Text) :
    skipGaps (write .compact j ++ rest) = write .compact j ++ rest := by
  rcases hflat.text_or_int with ⟨t, rfl⟩ | ⟨n, rfl⟩
  · rfl
  · obtain ⟨c, tail, htext, hc⟩ := exists_cons_ofInt n
    have hgap : isGap c = false := by
      have hne {a : Char} (hminus : a ≠ '-') (hdigit : a.isDigit = false) : c ≠ a :=
        (ne_of_startsInt hc hminus hdigit).symm
      unfold isGap
      simp only [Bool.or_eq_false_iff, decide_eq_false_iff_not]
      exact ⟨⟨⟨hne (by decide) rfl, hne (by decide) rfl⟩, hne (by decide) rfl⟩,
        hne (by decide) rfl⟩
    show skipGaps (Decimal.ofInt n ++ rest) = Decimal.ofInt n ++ rest
    rw [htext, List.cons_append]
    exact List.dropWhile_cons_of_neg (by simp [hgap])

/-! ## Objects -/

/-- A key that is not there yet takes the last position. -/
theorem insertField_of_not_mem {key : Text} (value : Json) {done : List (Text × Json)}
    (h : key ∉ done.map Prod.fst) : insertField key value done = done ++ [(key, value)] := by
  induction done with
  | nil => rfl
  | cons f done ih =>
    rw [List.map_cons, List.mem_cons, not_or] at h
    rw [insertField, if_neg (Ne.symm h.1), ih h.2, List.cons_append]

theorem withField_of_not_mem (strict : Bool) {key : Text} (value : Json)
    {done : List (Text × Json)} (h : key ∉ done.map Prod.fst) :
    withField strict (.ok key) value done = done ++ [(key, value)] := by
  cases strict with
  | true => rfl
  | false => exact insertField_of_not_mem value h

/-- Fields without blanks, up to the end of their object. -/
def closedFields (fields : List (Text × Json)) (rest : Text) : Text :=
  Text.joined Spacing.compact.item (writeFields .compact fields) ++ '}' :: rest

/-- The last field of an object. -/
theorem closedFields_singleton (key : Text) (j : Json) (rest : Text) :
    closedFields [(key, j)] rest =
      '"' :: (key.flatMap writeChar ++ '"' :: ':' :: (write .compact j ++ '}' :: rest)) := by
  simp [closedFields, writeFields, writeText, Text.joined, Spacing.compact]

/-- A field in front of others. -/
theorem closedFields_cons (key : Text) (j : Json) {fields : List (Text × Json)} (hne : fields ≠ [])
    (rest : Text) : closedFields ((key, j) :: fields) rest =
      '"' :: (key.flatMap writeChar ++
        '"' :: ':' :: (write .compact j ++ ',' :: closedFields fields rest)) := by
  have hparts : writeFields .compact fields ≠ [] := by
    cases fields with
    | nil => exact absurd rfl hne
    | cons f fields => simp [writeFields]
  unfold closedFields
  rw [writeFields, Text.joined_cons _ _ hparts]
  simp [writeText, Spacing.compact]

/-- Fields begin with the quote of a key. -/
theorem exists_quote_closedFields {fields : List (Text × Json)} (hne : fields ≠ []) (rest : Text) :
    ∃ tail, closedFields fields rest = '"' :: tail := by
  cases fields with
  | nil => exact absurd rfl hne
  | cons f fields =>
    by_cases hlast : fields = []
    · rw [hlast, closedFields_singleton]
      exact ⟨_, rfl⟩
    · rw [closedFields_cons _ _ hlast]
      exact ⟨_, rfl⟩

theorem skipGaps_closedFields {fields : List (Text × Json)} (hne : fields ≠ []) (rest : Text) :
    skipGaps (closedFields fields rest) = closedFields fields rest := by
  obtain ⟨tail, htail⟩ := exists_quote_closedFields hne rest
  rw [htail]
  rfl

/-- Fields are read back behind those before, if no key comes twice. -/
theorem readFields_closedFields (s : Strictness) (depth : Nat) {fields : List (Text × Json)}
    (hne : fields ≠ []) (hplain : ∀ f ∈ fields, f.2.IsPlain) (rest : Text)
    (done : List (Text × Json)) (hkeys : ((done ++ fields).map Prod.fst).Nodup) {fuel : Nat}
    (hfuel : fields.length < fuel) :
    readFields maxDigits s depth fuel done (closedFields fields rest) =
      .ok (.object (done ++ fields), rest) := by
  induction fields generalizing done fuel with
  | nil => exact absurd rfl hne
  | cons f fields ih =>
    obtain ⟨key, j⟩ := f
    rw [List.length_cons] at hfuel
    obtain ⟨fuel, rfl⟩ : ∃ k, fuel = k + 2 := ⟨fuel - 2, by omega⟩
    have hj : j.IsPlain := hplain (key, j) List.mem_cons_self
    have hnew : key ∉ done.map Prod.fst := by
      intro h
      rw [List.map_append, List.nodup_append] at hkeys
      exact hkeys.2.2 key h key List.mem_cons_self rfl
    by_cases hlast : fields = []
    · subst hlast
      have hstring := readString?_write s.strict key (':' :: (write .compact j ++ '}' :: rest))
      have hvalue := @readValue_write s depth fuel j hj ('}' :: rest) (by
        rintro c hc
        cases hc
        decide)
      have hgap : skipGaps (':' :: (write .compact j ++ '}' :: rest)) =
        ':' :: (write .compact j ++ '}' :: rest) := rfl
      have hclose : skipGaps ('}' :: rest) = '}' :: rest := rfl
      rw [closedFields_singleton]
      simp only [readFields, hstring, hgap, skipGaps_write hj.isFlat, hvalue, hclose,
        withField_of_not_mem s.strict j hnew, Except.toBool, Bool.not_true, Bool.false_and,
        Bool.false_eq_true, if_false]
    · have hstring := readString?_write s.strict key
        (':' :: (write .compact j ++ ',' :: closedFields fields rest))
      have hvalue := @readValue_write s depth fuel j hj (',' :: closedFields fields rest) (by
        rintro c hc
        cases hc
        decide)
      have hgap : skipGaps (':' :: (write .compact j ++ ',' :: closedFields fields rest)) =
        ':' :: (write .compact j ++ ',' :: closedFields fields rest) := rfl
      have hcomma : skipGaps (',' :: closedFields fields rest) = ',' :: closedFields fields rest :=
        rfl
      have hmore := @ih hlast (fun f hf => hplain f (List.mem_cons_of_mem _ hf))
        (done ++ [(key, j)]) (by rwa [List.append_assoc]) (fuel + 1) (by omega)
      rw [List.append_assoc] at hmore
      rw [closedFields_cons _ _ hlast]
      simp only [readFields, hstring, hgap, skipGaps_write hj.isFlat, hvalue, hcomma,
        withField_of_not_mem s.strict j hnew, Except.toBool, Bool.not_true, Bool.false_and,
        Bool.false_eq_true, if_false, skipGaps_closedFields hlast]
      exact hmore

/-- Every field takes at least a character. -/
theorem length_lt_closedFields (fields : List (Text × Json)) (rest : Text) :
    fields.length < (closedFields fields rest).length := by
  induction fields with
  | nil => exact Nat.zero_lt_succ _
  | cons f fields ih =>
    by_cases hlast : fields = []
    · rw [hlast, closedFields_singleton]
      simp only [List.length_cons, List.length_nil, List.length_append]
      omega
    · rw [closedFields_cons _ _ hlast]
      simp only [List.length_cons, List.length_append]
      omega

theorem readValue_object (s : Strictness) {depth fuel : Nat} (hdepth : 0 < depth)
    {fields : List (Text × Json)} (hplain : ∀ f ∈ fields, f.2.IsPlain)
    (hkeys : (fields.map Prod.fst).Nodup) (hfuel : fields.length < fuel) (rest : Text) :
    readValue maxDigits s depth (fuel + 1) ('{' :: closedFields fields rest) =
      .ok (.object fields, rest) := by
  have hfields (hne : fields ≠ []) :=
    readFields_closedFields s (depth - 1) hne hplain rest [] hkeys hfuel
  obtain ⟨depth, rfl⟩ : ∃ k, depth = k + 1 := ⟨depth - 1, by omega⟩
  rw [readValue, if_neg (by simp)]
  cases fields with
  | nil => rfl
  | cons f fields =>
    rw [skipGaps_closedFields (List.cons_ne_nil f fields)]
    have hread := hfields (List.cons_ne_nil f fields)
    obtain ⟨tail, htail⟩ := exists_quote_closedFields (List.cons_ne_nil f fields) rest
    rw [htail] at hread ⊢
    exact hread

/-- An object of texts and integers is read back, if no key comes twice. -/
theorem read_write_object (s : Strictness) (hdepth : 0 < s.maxDepth) {fields : List (Text × Json)}
    (hplain : ∀ f ∈ fields, f.2.IsPlain) (hkeys : (fields.map Prod.fst).Nodup) :
    read s (write .compact (.object fields)) = .ok (.object fields) := by
  have htext : write .compact (.object fields) = '{' :: closedFields fields [] := rfl
  have hlength := length_lt_closedFields fields []
  have hread := @readValue_object s s.maxDepth (2 * ('{' :: closedFields fields []).length + 1)
    hdepth fields hplain hkeys (by rw [List.length_cons]; omega) []
  unfold read readWithin
  rw [htext, show skipGaps ('{' :: closedFields fields []) = '{' :: closedFields fields [] from rfl,
    hread]
  rfl

end Json

end SignedAccess
