import SignedAccess.Proofs.Bytes.Base64
import SignedAccess.Proofs.Text.Escapes
import SignedAccess.Proofs.Token.Claims
import SignedAccess.Token.Jwt

/-!
# Signed tokens read back

A token is read by cutting it at its dots and decoding the three segments.  A reader, strict or
lenient, finds the header and the claims that were written, and behind them the signature of the key
over both.

    sign claims key keyId = .ok token → Says token key (header keyId) claims.payload  (says_of_sign)

This holds for claims whose times are not too long to be read.
-/

namespace SignedAccess.Jwt

/-! ## Algorithm -/

/-- What the segments of a token hold. -/
structure Content where
  header : Json
  payload : Json
  /-- The first two segments as they stand. -/
  signed : Text
  signature : Bytes

def jsonOf? (s : Json.Strictness) (segment : Text) : Option Json := do
  let bytes ← Base64.decodeUnpadded? .urlSafe segment
  let text ← Utf8.decode? bytes
  (Json.read s text).toOption

def read? (s : Json.Strictness) (token : Text) : Option Content :=
  match token.splitOn '.' with
  | [header, payload, signature] => do
    return ⟨← jsonOf? s header, ← jsonOf? s payload, header ++ '.' :: payload,
      ← Base64.decodeUnpadded? .urlSafe signature⟩
  | _ => none

/-- Whether every reader finds a header and a payload in a token, and the signature of a key over
both. -/
def Says (token : Text) (key : PrivateKey) (header payload : Json) : Prop :=
  ∃ signed signature, key.sign? (Utf8.encode signed) = some signature ∧
    ∀ s : Json.Strictness, 0 < s.maxDepth →
      read? s token = some ⟨header, payload, signed, signature⟩

/-! ## Segments -/

theorem jsonOf?_jsonSegment (s : Json.Strictness) (hdepth : 0 < s.maxDepth)
    {fields : List (Text × Json)} (hplain : ∀ f ∈ fields, f.2.IsPlain)
    (hkeys : (fields.map Prod.fst).Nodup) :
    jsonOf? s (jsonSegment (.object fields)) = some (.object fields) := by
  simp only [jsonOf?, jsonSegment, segment, Base64.decodeUnpadded?_encodeUnpadded,
    Utf8.decode?_encode, Json.read_write_object s hdepth hplain hkeys, Option.bind_eq_bind,
    Option.bind_some, Except.toOption]

/-- A token is cut into the segments that it is made of, as none of them holds a dot. -/
theorem splitOn_withSignature (claims : Claims) (keyId : Text) (signature : Bytes) :
    (withSignature (signingInput claims keyId) signature).splitOn '.' =
      [jsonSegment (header keyId), jsonSegment claims.payload, segment signature] := by
  have htoken : withSignature (signingInput claims keyId) signature = Text.joined ['.']
      [jsonSegment (header keyId), jsonSegment claims.payload, segment signature] := by
    simp [withSignature, signingInput, Text.joined]
  rw [htoken]
  refine (Text.splitOn_joined_iff (by simp)).2 fun part hpart => ?_
  simp only [List.mem_cons, List.not_mem_nil, or_false] at hpart
  rcases hpart with rfl | rfl | rfl
  · exact Base64.dot_not_mem_encodeUnpadded _ _
  · exact Base64.dot_not_mem_encodeUnpadded _ _
  · exact Base64.dot_not_mem_encodeUnpadded _ _

/-! ## Header -/

theorem jsonOf?_header (s : Json.Strictness) (hdepth : 0 < s.maxDepth) (keyId : Text) :
    jsonOf? s (jsonSegment (header keyId)) = some (header keyId) := by
  refine jsonOf?_jsonSegment s hdepth ?_ ?_
  · intro f hf
    split at hf
    · simp only [List.nil_append, List.mem_cons, List.not_mem_nil, or_false, List.cons_append] at hf
      rcases hf with rfl | rfl
      · exact Json.isPlain_text _
      · exact Json.isPlain_text _
    · simp only [List.cons_append, List.nil_append, List.mem_cons, List.not_mem_nil, or_false] at hf
      rcases hf with rfl | rfl | rfl
      · exact Json.isPlain_text _
      · exact Json.isPlain_text _
      · exact Json.isPlain_text _
  · split
    · exact show ["alg".toList, "typ".toList].Nodup by decide
    · exact show ["alg".toList, "kid".toList, "typ".toList].Nodup by decide

/-! ## Tokens -/

variable {claims : Claims} {key : PrivateKey} {keyId token : Text}

/-- Claims are signed if their times are short enough and the key gives a signature. -/
theorem sign_eq_ok_iff : sign claims key keyId = .ok token ↔ claims.HasShortTimes ∧
    ∃ signature, key.sign? (Utf8.encode (signingInput claims keyId)) = some signature ∧
      token = withSignature (signingInput claims keyId) signature := by
  rw [← Claims.isWritable_payload_iff]
  unfold sign
  by_cases hwritable : claims.payload.isWritable = true
  · rw [if_pos hwritable]
    cases hsignature : key.sign? (Utf8.encode (signingInput claims keyId)) with
    | none => simp [hsignature]
    | some signature => simp [hsignature, hwritable, eq_comm]
  · rw [if_neg hwritable]
    exact ⟨nofun, fun h => absurd h.1 hwritable⟩

/-- A token says what was signed. -/
theorem says_of_sign (htimes : claims.HasPlainTimes) (h : sign claims key keyId = .ok token) :
    Says token key (header keyId) claims.payload := by
  obtain ⟨-, signature, hsignature, rfl⟩ := sign_eq_ok_iff.1 h
  refine ⟨_, signature, hsignature, fun s hdepth => ?_⟩
  have hpayload : jsonOf? s (jsonSegment claims.payload) = some claims.payload :=
    jsonOf?_jsonSegment s hdepth (Claims.isPlain_of_mem_fields htimes)
      (Claims.nodup_keys_fields claims)
  unfold read?
  rw [splitOn_withSignature]
  simp only [jsonOf?_header s hdepth, hpayload, segment, Base64.decodeUnpadded?_encodeUnpadded,
    Option.bind_eq_bind, Option.bind_some, Option.pure_def]
  rfl

end SignedAccess.Jwt
