import SignedAccess.Endpoint.Exchange
import SignedAccess.Proofs.SignedUrl.Query

/-!
# Forms read back

A form is a query in which a blank is written as a plus sign.  Reading gives back the named values
that were written, and so what was posted to a token endpoint.

    readForm? (encodeForm pairs) = some pairs                        (readForm?_encodeForm)
-/

namespace SignedAccess.TokenRequest

/-! ## Algorithm -/

/-- A blank in the place of a plus sign. -/
def blankOf (c : Char) : Char := if c = '+' then ' ' else c

/-- The named values of a form, in the order in which they stand. -/
def readForm? (form : Text) : Option (List (Text × Text)) :=
  SignedUrl.readQuery? (form.map blankOf)

/-! ## Parts -/

/-- Whether a character of a form value stands as it is once every plus sign is a blank. -/
def isFormChar (c : Char) : Bool := Percent.isUnreserved c || c = ' '

theorem map_blankOf_of_not_mem {t : Text} (h : '+' ∉ t) : t.map blankOf = t := by
  induction t with
  | nil => rfl
  | cons c t ih =>
    rw [List.mem_cons, not_or] at h
    rw [List.map_cons, ih h.2, blankOf, if_neg (Ne.symm h.1)]

/-- A plus sign is a blank that was written, as a plus sign of its own is escaped. -/
theorem map_blankOf_encodeFormChar (c : Char) :
    (encodeFormChar c).map blankOf = Percent.encodeChar isFormChar c := by
  unfold encodeFormChar
  split
  · next hblank =>
    rw [hblank]
    rfl
  · next hblank =>
    have hkept : isFormChar c = Percent.isUnreserved c := by
      simp [isFormChar, hblank]
    have hplus : '+' ∉ Percent.encodeChar Percent.isUnreserved c :=
      Percent.not_mem_encodeChar rfl (by decide) (by decide) c
    rw [map_blankOf_of_not_mem hplus, Percent.encodeChar, Percent.encodeChar, hkept]

theorem map_blankOf_encodeFormValue (t : Text) :
    (encodeFormValue t).map blankOf = Percent.encode isFormChar t := by
  induction t with
  | nil => rfl
  | cons c t ih =>
    have hcons : encodeFormValue (c :: t) = encodeFormChar c ++ encodeFormValue t :=
      List.flatMap_cons
    rw [hcons, List.map_append, map_blankOf_encodeFormChar, ih, Percent.encode_cons]

theorem map_blankOf_encodeForm (pairs : List (Text × Text)) :
    (encodeForm pairs).map blankOf =
      Text.joined ['&'] (pairs.map (SignedUrl.pieceOf isFormChar)) := by
  have hpiece (p : Text × Text) : (encodeFormValue p.1 ++ '=' :: encodeFormValue p.2).map blankOf =
      SignedUrl.pieceOf isFormChar p := by
    rw [List.map_append, List.map_cons, map_blankOf_encodeFormValue, map_blankOf_encodeFormValue]
    rfl
  unfold encodeForm
  rw [Text.map_joined, List.map_map]
  exact congrArg (Text.joined ['&']) (List.map_congr_left fun p _ => hpiece p)

/-! ## Forms -/

/-- A form is read as the pairs that were written. -/
theorem readForm?_encodeForm (pairs : List (Text × Text)) :
    readForm? (encodeForm pairs) = some pairs := by
  unfold readForm?
  rw [map_blankOf_encodeForm]
  exact SignedUrl.readQuery?_joined_pieceOf rfl rfl rfl pairs

/-- What was posted is the grant that is asked for and the assertion. -/
theorem readForm?_ofAssertion (url : Url) (assertion : Text) :
    readForm? (ofAssertion url assertion).body =
      some [("grant_type".toList, grantType), ("assertion".toList, assertion)] :=
  readForm?_encodeForm _

end SignedAccess.TokenRequest
