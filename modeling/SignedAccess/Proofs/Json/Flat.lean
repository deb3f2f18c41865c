import SignedAccess.Proofs.Json.Objects

/-!
# Flat objects read back

A flat object has texts and integers as its fields.  A reader of flat objects alone needs no limits:
it takes integers of any length, and from the compact text of an object it gets back the fields in
order, whatever their keys are.

    readFlat? (write .compact (.object fields)) = some fields        (readFlat?_write)
-/

namespace SignedAccess.Json

/-! ## Algorithm -/

def readInteger? (t : Text) : Option (Int × Text) :=
  let (negative, rest) := match t with
    | '-' :: rest => (true, rest)
    | _ => (false, t)
  let (digits, after) := wholeOf rest
  if digits = [] then none
  else some (Decimal.withSign negative (Decimal.value digits), after)

def readFlatValue? (t : Text) : Option (Json × Text) :=
  match t with
  | '"' :: rest =>
    match readString? true rest with
    | some (.ok t, rest) => some (.text t, rest)
    | some (.error _, _) | none => none
  | _ => (readInteger? t).map fun r => (.int r.1, r.2)

def readFlatField? (t : Text) : Option ((Text × Json) × Text) :=
  match t with
  | '"' :: rest =>
    match readString? true rest with
    | some (.ok key, rest) =>
      match skipGaps rest with
      | ':' :: rest =>
        (readFlatValue? (skipGaps rest)).map fun r => ((key, r.1), skipGaps r.2)
      | _ => none
    | some (.error _, _) | none => none
  | _ => none

/-- The fields of an object from the next one on, if nothing but blanks follows the object. -/
def readFlatFields? : (fuel : Nat) → Text → Option (List (Text × Json))
  | 0, _ => none
  | fuel + 1, t =>
    match readFlatField? t with
    | some (f, ',' :: rest) => (readFlatFields? fuel (skipGaps rest)).map (f :: ·)
    | some (f, '}' :: rest) => if skipGaps rest = [] then some [f] else none
    | _ => none

def readFlat? (t : Text) : Option (List (Text × Json)) :=
  match skipGaps t with
  | '{' :: rest =>
    match skipGaps rest with
    | '}' :: rest => if skipGaps rest = [] then some [] else none
    | fields => readFlatFields? fields.length fields
  | _ => none

/-! ## Values -/

/-- An integer of any length is read as it was written. -/
theorem readInteger?_ofInt (n : Int) {rest : Text} (hrest : EndsNumber rest) :
    readInteger? (Decimal.ofInt n ++ rest) = some (n, rest) := by
  have hne (n : Nat) : Decimal.ofNat n ≠ [] := Nat.toDigits_ne_nil
  cases n with
  | ofNat n =>
    obtain ⟨d, ds, hdigits, hd⟩ := exists_digit_ofNat n
    have hwhole := wholeOf_ofNat n hrest
    show readInteger? (Decimal.ofNat n ++ rest) = _
    unfold readInteger?
    split
    next negative magnitude hsign =>
    split at hsign
    · next tail heq =>
      rw [hdigits, List.cons_append] at heq
      exact absurd (List.cons.inj heq).1.symm (ne_of_isDigit rfl hd)
    · cases hsign
      rw [hwhole]
      simp only [hne, if_false, Decimal.value_ofNat]
      rfl
  | negSucc n =>
    show readInteger? ('-' :: (Decimal.ofNat (n + 1) ++ rest)) = _
    unfold readInteger?
    simp only [wholeOf_ofNat (n + 1) hrest, hne, if_false, Decimal.value_ofNat]
    rfl

/-- A text or an integer is read back, wherever it stands. -/
theorem readFlatValue?_write {j : Json} (hflat : j.IsFlat) {rest : Text}
    (hrest : EndsNumber rest) : readFlatValue? (write .compact j ++ rest) = some (j, rest) := by
  cases j with
  | text t =>
    have hread := readString?_write true t rest
    show readFlatValue? ('"' :: (t.flatMap writeChar ++ ['"']) ++ rest) = _
    rw [List.cons_append, List.append_assoc, List.singleton_append]
    simp only [readFlatValue?, hread]
  | int n =>
    have hread := readInteger?_ofInt n hrest
    obtain ⟨c, tail, htext, hc⟩ := exists_cons_ofInt n
    show readFlatValue? (Decimal.ofInt n ++ rest) = _
    unfold readFlatValue?
    split
    · next heq =>
      rw [htext, List.cons_append] at heq
      exact absurd (List.cons.inj heq).1.symm (ne_of_startsInt hc (by decide) rfl)
    · rw [hread]
      rfl
  | null | bool b | real x | unpaired | array items | object fields => exact hflat.elim

/-! ## Objects -/

/-- A field is read back in front of a comma or of the end of the object. -/
theorem readFlatField?_write (key : Text) {j : Json} (hflat : j.IsFlat) (rest : Text)
    (hends : EndsNumber rest) (hgap : skipGaps rest = rest) :
    readFlatField? ('"' :: (key.flatMap writeChar ++ '"' :: ':' :: (write .compact j ++ rest))) =
      some ((key, j), rest) := by
  have hkey := readString?_write true key (':' :: (write .compact j ++ rest))
  have hcolon : skipGaps (':' :: (write .compact j ++ rest)) =
      ':' :: (write .compact j ++ rest) := rfl
  simp only [readFlatField?, hkey, hcolon, skipGaps_write hflat,
    readFlatValue?_write hflat hends, Option.map_some, hgap]

theorem readFlatFields?_closedFields {fields : List (Text × Json)} (hne : fields ≠ [])
    (hflat : ∀ f ∈ fields, f.2.IsFlat) {fuel : Nat} (hfuel : fields.length ≤ fuel) :
    readFlatFields? fuel (closedFields fields []) = some fields := by
  induction fields generalizing fuel with
  | nil => exact absurd rfl hne
  | cons f fields ih =>
    obtain ⟨key, j⟩ := f
    rw [List.length_cons] at hfuel
    obtain ⟨fuel, rfl⟩ : ∃ k, fuel = k + 1 := ⟨fuel - 1, by omega⟩
    have hj : j.IsFlat := hflat (key, j) List.mem_cons_self
    by_cases hlast : fields = []
    · subst hlast
      have hfield := readFlatField?_write key hj ['}'] (by
        rintro c hc
        cases hc
        decide) rfl
      rw [closedFields_singleton]
      simp only [readFlatFields?, hfield]
      rfl
    · have hfield := readFlatField?_write key hj (',' :: closedFields fields []) (by
        rintro c hc
        cases hc
        decide) rfl
      have hmore := @ih hlast (fun f hf => hflat f (List.mem_cons_of_mem _ hf)) fuel (by omega)
      rw [closedFields_cons _ _ hlast]
      simp only [readFlatFields?, hfield, skipGaps_closedFields hlast, hmore, Option.map_some]

/-- The fields of a flat object are read back from its compact text. -/
theorem readFlat?_write {fields : List (Text × Json)} (hflat : ∀ f ∈ fields, f.2.IsFlat) :
    readFlat? (write .compact (.object fields)) = some fields := by
  have htext : write .compact (.object fields) = '{' :: closedFields fields [] := rfl
  have hopen : skipGaps ('{' :: closedFields fields []) = '{' :: closedFields fields [] := rfl
  unfold readFlat?
  rw [htext, hopen]
  cases fields with
  | nil => rfl
  | cons f fields =>
    have hlength := length_lt_closedFields (f :: fields) []
    have hread := readFlatFields?_closedFields (List.cons_ne_nil f fields) hflat
      (Nat.le_of_lt hlength)
    obtain ⟨tail, htail⟩ := exists_quote_closedFields (List.cons_ne_nil f fields) []
    rw [htail] at hread ⊢
    exact hread

end SignedAccess.Json
