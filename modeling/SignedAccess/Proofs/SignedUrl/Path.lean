import Mathlib.Data.List.Basic
import SignedAccess.Endpoint.Exchange
import SignedAccess.Proofs.SignedUrl.Query

/-!
# Encoded paths

A path is encoded character by character.  That is the same as encoding what stands between slashes
as the values of a form and writing every plus sign, which stands for a blank there, as the escape
of a blank: a plus sign of the path itself is escaped before.

    encodePath t = the segments of t as form values, joined by slashes, each '+' as "%20"
                                                                     (encodePath_eq_segments)
    encodePath encodes paths: piece by piece, with their slashes and no others, and back again
                                                                     (encodePath_isPathEncoding)
-/

namespace SignedAccess.SignedUrl

open TokenRequest (encodeFormChar encodeFormValue)

/-! ## The form of encoded paths -/

/-- Whether a text consists of marks that a path may hold and of escapes: a percent sign and two
hexadecimal digits in upper case. -/
inductive IsPathForm : Text → Prop
  | nil : IsPathForm []
  | mark {c : Char} {t : Text} (hc : c.isAlphanum = true ∨ c ∈ ['-', '.', '_', '~', '/'])
      (h : IsPathForm t) : IsPathForm (c :: t)
  | escape {high low : Char} {t : Text} (hhigh : high ∈ "0123456789ABCDEF".toList)
      (hlow : low ∈ "0123456789ABCDEF".toList) (h : IsPathForm t) :
      IsPathForm ('%' :: high :: low :: t)

/-- What holds marks of a path and escapes only has the form of a path. -/
theorem isPathForm_of_isForm {t : Text} (h : Percent.IsForm ['-', '.', '_', '~', '/'] t) :
    IsPathForm t := by
  induction h with
  | nil => exact .nil
  | mark hc _ ih => exact .mark hc ih
  | escape hhigh hlow _ ih => exact .escape hhigh hlow ih

/-- An encoded path holds marks and escapes only. -/
theorem isPathForm_encodePath (t : Text) : IsPathForm (encodePath t) := by
  refine isPathForm_of_isForm (Percent.isForm_encode (fun c hkeep => ?_) t)
  simpa [isPathChar, Percent.isUnreserved, or_assoc] using hkeep

/-! ## Slashes -/

theorem count_slash_encodeChar (c : Char) :
    (Percent.encodeChar isPathChar c).count '/' = [c].count '/' := by
  unfold Percent.encodeChar
  split
  · rfl
  · next hkeep =>
    have hne : c ≠ '/' := fun heq => hkeep (by rw [heq]; rfl)
    rw [List.count_eq_zero_of_not_mem (Percent.not_mem_escapeChar (by decide) (by decide) c),
      List.count_eq_zero_of_not_mem (by simpa using hne.symm)]

/-- An encoded path has the slashes of the path. -/
theorem count_slash_encodePath (t : Text) : (encodePath t).count '/' = t.count '/' := by
  unfold encodePath
  induction t with
  | nil => rfl
  | cons c t ih =>
    rw [Percent.encode_cons, List.count_append, count_slash_encodeChar, ih, ← List.count_append,
      List.singleton_append]

/-! ## Segments -/

/-- A character with a plus sign as the escape of a blank. -/
def escapePlus (c : Char) : Text := if c = '+' then "%20".toList else [c]

theorem flatMap_escapePlus_of_not_mem {t : Text} (h : '+' ∉ t) : t.flatMap escapePlus = t := by
  induction t with
  | nil => rfl
  | cons c t ih =>
    rw [List.mem_cons, not_or] at h
    rw [List.flatMap_cons, ih h.2, escapePlus, if_neg (Ne.symm h.1), List.singleton_append]

/-- The plus signs of a form value are blanks that were written. -/
theorem flatMap_escapePlus_encodeFormValue (t : Text) :
    (encodeFormValue t).flatMap escapePlus = encodePart t := by
  unfold encodeFormValue encodePart Percent.encode
  rw [List.flatMap_assoc]
  refine List.flatMap_congr fun c _ => ?_
  unfold encodeFormChar
  split
  · next hblank =>
    rw [hblank]
    rfl
  · exact flatMap_escapePlus_of_not_mem
      (Percent.not_mem_encodeChar rfl (by decide) (by decide) c)

/-- What holds no slash is encoded as a part. -/
theorem encodePath_of_not_mem {t : Text} (h : '/' ∉ t) : encodePath t = encodePart t := by
  refine List.flatMap_congr fun c hc => ?_
  have hne : c ≠ '/' := fun heq => h (heq ▸ hc)
  simp [Percent.encodeChar, isPathChar, hne]

/-- The segments of a path between its slashes are encoded one by one, and joined by slashes. -/
theorem encodePath_eq_joined (t : Text) :
    encodePath t = Text.joined ['/'] ((t.splitOn '/').map encodePart) := by
  have hslash : Percent.encodeChar isPathChar '/' = ['/'] := rfl
  calc encodePath t
      = encodePath (Text.joined ['/'] (t.splitOn '/')) := by
        rw [Text.joined, List.intercalate_splitOn]
    _ = Text.joined ['/'] ((t.splitOn '/').map encodePath) := Text.flatMap_joined hslash _
    _ = Text.joined ['/'] ((t.splitOn '/').map encodePart) := by
        refine congrArg _ (List.map_congr_left fun s hs => ?_)
        exact encodePath_of_not_mem (Text.not_mem_of_mem_splitOn hs)

/-- A path may be encoded by way of its segments as form values. -/
theorem encodePath_eq_segments (t : Text) : encodePath t =
    (Text.joined ['/'] ((t.splitOn '/').map encodeFormValue)).flatMap escapePlus := by
  rw [Text.flatMap_joined rfl, List.map_map, encodePath_eq_joined]
  exact congrArg _ (List.map_congr_left fun s _ => (flatMap_escapePlus_encodeFormValue s).symm)

/-! ## Paths -/

/-- Whether a map encodes paths. -/
structure IsPathEncoding (encode : Text → Text) : Prop where
  append : ∀ a b, encode (a ++ b) = encode a ++ encode b
  form : ∀ t, IsPathForm (encode t)
  slashes : ∀ t, (encode t).count '/' = t.count '/'
  blank : ∀ a b, encode (a ++ ' ' :: b) = encode a ++ "%20".toList ++ encode b
  plus : ∀ a b, encode (a ++ '+' :: b) = encode a ++ "%2B".toList ++ encode b
  decoded : ∀ t, Percent.decode? (encode t) = some t
  injective : Function.Injective encode
  /-- Segments between slashes are encoded as form values, and then plus signs are replaced. -/
  segments : ∀ t, encode t =
    (Text.joined ['/'] ((t.splitOn '/').map encodeFormValue)).flatMap escapePlus

theorem encodePath_blank : encodePath [' '] = "%20".toList := by decide +kernel

theorem encodePath_plus : encodePath ['+'] = "%2B".toList := by decide +kernel

/-- Paths are encoded piece by piece, with their slashes and no others, and can be decoded. -/
theorem encodePath_isPathEncoding : IsPathEncoding encodePath where
  append := encodePath_append
  form := isPathForm_encodePath
  slashes := count_slash_encodePath
  blank a b := by rw [List.append_cons, encodePath_append, encodePath_append, encodePath_blank]
  plus a b := by rw [List.append_cons, encodePath_append, encodePath_append, encodePath_plus]
  decoded := Percent.decode?_encode rfl
  injective := fun _ _ => encodePath_injective
  segments := encodePath_eq_segments

end SignedAccess.SignedUrl
