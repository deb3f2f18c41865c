import SignedAccess.Error
import SignedAccess.Record.Field

/-!
# Claims

What a signed token says about its issuer, its audience and its lifetime.

Main definitions:

* `Claims` — a set of claims, which expires after it was issued;
* `Claims.issue`, `Claims.issueRaw` — claims valid for one hour, from texts or from raw values;
* `Claims.payload` — the claims as a JSON object without those that are unset;
* `Claims.read` — claims of a raw record.
-/

namespace SignedAccess

structure Claims where
  issuer : Text
  subject : Option Text
  scope : Option Text
  audience : Text
  /-- Seconds since 1970. -/
  issuedAt : Int
  /-- Seconds since 1970. -/
  expires : Int
  issuedAt_lt : issuedAt < expires
  deriving DecidableEq

namespace Claims

/-! ## Construction -/

/-- Claims from their parts, which must expire after they were issued. -/
def ofParts (issuer : Text) (subject scope : Option Text) (audience : Text)
    (issuedAt expires : Int) : Except Rejection Claims :=
  if h : issuedAt < expires then .ok ⟨issuer, subject, scope, audience, issuedAt, expires, h⟩
  else .error ⟨.claims, [⟨[], .valueError⟩]⟩

/-- The seconds for which claims are valid. -/
def lifetime : Nat := 3600

/-- Whole seconds since 1970, or the error that there are none. -/
def secondsOf (t : DateTime) : Except Error Int := t.timestamp.mapError .time

/-- When claims that are made at a time are issued and expire: now and in one hour. -/
def validity (now : Moment) : Except Error (Int × Int) := do
  let expiry ← now.later lifetime
  return (← secondsOf now.reading, ← secondsOf expiry)

/-- Claims valid for one hour from a time, which is added to what the clock shows. -/
def issue (issuer audience : Text) (now : Moment) (subject scope : Option Text) :
    Except Error Claims := do
  let (issuedAt, expires) ← validity now
  (ofParts issuer subject scope audience issuedAt expires).mapError .rejected

/-! ## JSON -/

/-- A claim that may be unset. -/
def optionalClaim (key : String) : Option Text → List (Text × Json)
  | some value => [(key.toList, .text value)]
  | none => []

/-- The claims as fields, without those that are unset. -/
def fields (c : Claims) : List (Text × Json) :=
  ("iss".toList, .text c.issuer) :: optionalClaim "sub" c.subject ++ optionalClaim "scope" c.scope
    ++ [("aud".toList, .text c.audience), ("iat".toList, .int c.issuedAt),
      ("exp".toList, .int c.expires)]

def payload (c : Claims) : Json := .object c.fields

def read (raw : Json) : Except Rejection Claims := do
  let make ← Field.record .claims (fun fields =>
    let start : Decoded _ := .ok ofParts
    start
      |>.ap (Field.required fields "iss" Field.text)
      |>.ap (Field.withDefault fields "sub" none (Field.optional Field.text))
      |>.ap (Field.withDefault fields "scope" none (Field.optional Field.text))
      |>.ap (Field.required fields "aud" Field.text)
      |>.ap (Field.required fields "iat" Field.int)
      |>.ap (Field.required fields "exp" Field.int)) raw
  make

/-- Claims valid for one hour from a time, from raw values. -/
def issueRaw (issuer audience : Json) (now : Moment) (subject scope : Json) :
    Except Error Claims := do
  let (issuedAt, expires) ← validity now
  let raw : Json := .object [("iss".toList, issuer), ("sub".toList, subject),
    ("scope".toList, scope), ("aud".toList, audience), ("iat".toList, .int issuedAt),
    ("exp".toList, .int expires)]
  (read raw).mapError .rejected

/-! ## Lemmas -/

/-- A record of claims that are all there is read as it stands. -/
theorem read_object (issuer audience : Text) (subject scope : Option Text)
    (issuedAt expires : Int) :
    read (.object [("iss".toList, .text issuer), ("sub".toList, .ofText? subject),
      ("scope".toList, .ofText? scope), ("aud".toList, .text audience),
      ("iat".toList, .int issuedAt),
      ("exp".toList, .int expires)]) = ofParts issuer subject scope audience issuedAt expires := by
  cases subject <;> cases scope <;> rfl

/-- Raw values that are texts give the claims of these texts. -/
theorem issueRaw_text (issuer audience : Text) (now : Moment) (subject scope : Option Text) :
    issueRaw (.text issuer) (.text audience) now (.ofText? subject) (.ofText? scope) =
      issue issuer audience now subject scope := by
  simp only [issueRaw, issue, read_object]

end Claims

end SignedAccess
