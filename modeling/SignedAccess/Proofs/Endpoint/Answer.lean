import SignedAccess.Endpoint.Exchange
import SignedAccess.Proofs.Record.Field
import SignedAccess.Proofs.Time.Instant

/-!
# What a successful answer reports

The body of a successful answer is read as an object that holds a token, the type of the token and
perhaps its lifetime.  Three things may be wrong with it: it is no such object, it nests too deep to
be read, or the lifetime leads out of the calendar.

    Answers nesting issuedAt body result ↔ token nesting issuedAt body = result      (answers_iff)
-/

namespace SignedAccess

/-! ## Responses -/

/-- Whether the fields of an object give a response: a text that is not empty, the string of a type,
and an ID token and a lifetime that may be missing or null.  Surrogates without partners do no harm
but in the first. -/
structure TokenResponse.IsGivenBy (r : TokenResponse) (fields : List (Text × Json)) : Prop where
  accessToken : Json.fieldOf? "access_token".toList fields = some (.text r.accessToken)
  type : ∃ j, Json.fieldOf? "token_type".toList fields = some j ∧ Field.IsString j r.type
  idToken : Field.HoldsOptional fields "id_token" Field.IsString r.idToken
  expiresIn : Field.HoldsOptional fields "expires_in" Field.CountsAs r.expiresIn

namespace TokenResponse

theorem read_object_eq_ok_iff {fields : List (Text × Json)} {r : TokenResponse} :
    read (.object fields) = .ok r ↔ r.IsGivenBy fields := by
  have hstring : ∀ t : CodeText, ¬Field.IsString .null t := nofun
  have hint : ∀ n : Int, ¬Field.CountsAs .null n := nofun
  have hid (idToken : Option CodeText) : Field.withDefault fields "id_token" none
      (Field.optional Field.string) = .ok idToken ↔
        Field.HoldsOptional fields "id_token" Field.IsString idToken :=
    @Field.withDefault_optional_eq_ok_iff CodeText Field.string fields "id_token" Field.IsString
      (fun _ _ => Field.string_eq_ok_iff) hstring idToken
  have hexpires (expiresIn : Option Int) : Field.withDefault fields "expires_in" none
      (Field.optional Field.int) = .ok expiresIn ↔
        Field.HoldsOptional fields "expires_in" Field.CountsAs expiresIn :=
    @Field.withDefault_optional_eq_ok_iff Int Field.int fields "expires_in" Field.CountsAs
      (fun _ _ => Field.int_eq_ok_iff) hint expiresIn
  unfold read Field.record
  rw [Decoded.orReject_eq_ok_iff]
  simp only [Decoded.ap_eq_ok_iff, Field.required_eq_ok_iff, Field.string_eq_ok_iff,
    Field.nonempty_eq_ok_iff, hid, hexpires]
  constructor
  · rintro ⟨g, expiresIn, ⟨g, idToken, ⟨g, type, ⟨g, accessToken, hg, ⟨j, haccess, rfl⟩, rfl⟩,
      htype, rfl⟩, hidToken, rfl⟩, hexpiresIn, rfl⟩
    cases hg
    exact ⟨haccess, htype, hidToken, hexpiresIn⟩
  · rintro ⟨haccess, htype, hidToken, hexpiresIn⟩
    exact ⟨_, r.expiresIn, ⟨_, r.idToken, ⟨_, r.type, ⟨_, ⟨r.accessToken, r.accessToken_ne⟩, rfl,
      ⟨_, haccess, rfl⟩, rfl⟩, htype, rfl⟩, hidToken, rfl⟩, hexpiresIn, rfl⟩

/-- A response is read from the fields that give it, and from nothing else. -/
theorem read_eq_ok_iff {raw : Json} {r : TokenResponse} :
    read raw = .ok r ↔ ∃ fields, raw = .object fields ∧ r.IsGivenBy fields := by
  cases raw with
  | object fields =>
    rw [read_object_eq_ok_iff]
    exact ⟨fun h => ⟨fields, rfl, h⟩, fun ⟨_, hraw, h⟩ => Json.object.inj hraw ▸ h⟩
  | _ => exact ⟨fun h => (nomatch h), fun ⟨_, hraw, _⟩ => (nomatch hraw)⟩

end TokenResponse

namespace Exchange

variable {nesting : Json.Nesting} {issuedAt : Moment} {body : Bytes}

/-! ## Bodies -/

def HoldsJson (nesting : Json.Nesting) (body : Bytes) (raw : Json) : Prop :=
  ∃ text, Json.textOf? body = some text ∧ Json.read (strictness nesting) text = .ok raw

/-- Whether an array or an object stands too deep in the bytes of an answer. -/
def NestsTooDeep (nesting : Json.Nesting) (body : Bytes) (isArray : Bool) : Prop :=
  ∃ text, Json.textOf? body = some text ∧
    Json.read (strictness nesting) text = .error (.tooDeep isArray)

/-- Whether an answer reports a response. -/
def Reports (nesting : Json.Nesting) (body : Bytes) (r : TokenResponse) : Prop :=
  ∃ fields, HoldsJson nesting body (.object fields) ∧ r.IsGivenBy fields

/-- Whether a token expires when its clock shows the time so many seconds later; without a lifetime
it has no known end. -/
def ExpiresAfter (issuedAt : Moment) : Option Int → Option DateTime → Prop
  | none, expiry => expiry = none
  | some seconds, expiry => ∃ t, expiry = some t ∧
    (t.wall : Int) = issuedAt.reading.wall + seconds * microsPerSecond ∧
      t.offset = issuedAt.clock.offsetAt t.wall

/-- What a successful answer comes to. -/
inductive Answers (nesting : Json.Nesting) (issuedAt : Moment) (body : Bytes) :
    Except Error (TokenResponse × Token) → Prop
  | token {r : TokenResponse} {expiry : Option DateTime} (hbody : Reports nesting body r)
      (hexpiry : ExpiresAfter issuedAt r.expiresIn expiry) :
      Answers nesting issuedAt body (.ok (r, r.token expiry))
  | invalidLifetime {r : TokenResponse} (hbody : Reports nesting body r)
      (hexpiry : ∀ expiry, ¬ExpiresAfter issuedAt r.expiresIn expiry) :
      Answers nesting issuedAt body (.error .invalidLifetime)
  | malformed (hbody : ∀ r, ¬Reports nesting body r)
      (hdepth : ∀ isArray, ¬NestsTooDeep nesting body isArray) :
      Answers nesting issuedAt body (.error .malformedResponse)
  | tooDeep {isArray : Bool} (hbody : NestsTooDeep nesting body isArray) :
      Answers nesting issuedAt body (.error (.nestedTooDeep isArray))

/-! ## Responses of bodies -/

theorem response_of_reports {r : TokenResponse} (h : Reports nesting body r) :
    response nesting body = .ok r := by
  obtain ⟨fields, ⟨text, htext, hread⟩, hgiven⟩ := h
  unfold response
  rw [htext, Option.map_some, hread]
  show (TokenResponse.read (.object fields)).mapError _ = _
  rw [TokenResponse.read_object_eq_ok_iff.2 hgiven]
  rfl

theorem response_of_nestsTooDeep {isArray : Bool} (h : NestsTooDeep nesting body isArray) :
    response nesting body = .error (.nestedTooDeep isArray) := by
  obtain ⟨text, htext, hread⟩ := h
  unfold response
  rw [htext, Option.map_some, hread]

/-- A body that reports no response and does not nest too deep is malformed. -/
theorem response_cases (nesting : Json.Nesting) (body : Bytes) : (∃ r, Reports nesting body r) ∨
    (∃ isArray, NestsTooDeep nesting body isArray) ∨
      response nesting body = .error .malformedResponse := by
  unfold response
  cases htext : Json.textOf? body with
  | none => exact Or.inr (Or.inr rfl)
  | some text =>
    cases hread : Json.read (strictness nesting) text with
    | error e =>
      cases e with
      | malformed =>
        refine Or.inr (Or.inr ?_)
        rw [Option.map_some, hread]
      | tooDeep isArray => exact Or.inr (Or.inl ⟨isArray, text, htext, hread⟩)
    | ok raw =>
      cases hresponse : TokenResponse.read raw with
      | ok r =>
        obtain ⟨fields, rfl, hgiven⟩ := TokenResponse.read_eq_ok_iff.1 hresponse
        exact Or.inl ⟨r, fields, ⟨text, htext, hread⟩, hgiven⟩
      | error rejection =>
        refine Or.inr (Or.inr ?_)
        rw [Option.map_some, hread]
        show (TokenResponse.read raw).mapError _ = _
        rw [hresponse]
        rfl

/-! ## Lifetimes -/

theorem expiry_of_expiresAfter {seconds : Option Int} {t : Option DateTime}
    (h : ExpiresAfter issuedAt seconds t) : expiry issuedAt seconds = .ok t := by
  cases seconds with
  | none => exact congrArg _ (Eq.symm h)
  | some seconds =>
    obtain ⟨u, rfl, hwall, hoffset⟩ := h
    simp only [expiry, Moment.shift?_eq_some_iff.2 ⟨hwall, hoffset⟩]

/-- A lifetime leads to an end, or out of the calendar. -/
theorem expiry_cases (issuedAt : Moment) (seconds : Option Int) :
    (∃ t, ExpiresAfter issuedAt seconds t) ∨
      expiry issuedAt seconds = .error .invalidLifetime := by
  cases seconds with
  | none => exact Or.inl ⟨none, rfl⟩
  | some seconds =>
    cases hshift : issuedAt.shift? (seconds * microsPerSecond) with
    | none =>
      refine Or.inr ?_
      simp only [expiry, hshift]
    | some t => exact Or.inl ⟨some t, t, rfl, Moment.shift?_wall hshift⟩

/-! ## Answers -/

theorem token_of_answers {result : Except Error (TokenResponse × Token)}
    (h : Answers nesting issuedAt body result) : token nesting issuedAt body = result := by
  unfold token
  cases h with
  | token hbody hexpiry =>
    rw [response_of_reports hbody]
    show (expiry _ _).map _ = _
    rw [expiry_of_expiresAfter hexpiry]
    rfl
  | invalidLifetime hbody hexpiry =>
    rw [response_of_reports hbody]
    rcases expiry_cases issuedAt _ with ⟨t, ht⟩ | herror
    · exact absurd ht (hexpiry t)
    · show (expiry _ _).map _ = _
      rw [herror]
      rfl
  | malformed hbody hdepth =>
    rcases response_cases nesting body with ⟨r, hr⟩ | ⟨isArray, hdeep⟩ | hresponse
    · exact absurd hr (hbody r)
    · exact absurd hdeep (hdepth isArray)
    · rw [hresponse]
  | tooDeep hdeep => rw [response_of_nestsTooDeep hdeep]

/-- Every successful answer comes to something. -/
theorem exists_answers (nesting : Json.Nesting) (issuedAt : Moment) (body : Bytes) :
    ∃ result, Answers nesting issuedAt body result := by
  rcases response_cases nesting body with ⟨r, hr⟩ | ⟨isArray, hdeep⟩ | hresponse
  · by_cases hexpiry : ∃ t, ExpiresAfter issuedAt r.expiresIn t
    · obtain ⟨t, ht⟩ := hexpiry
      exact ⟨_, .token hr ht⟩
    · exact ⟨_, .invalidLifetime hr fun t ht => hexpiry ⟨t, ht⟩⟩
  · exact ⟨_, .tooDeep hdeep⟩
  · refine ⟨_, .malformed (fun r hr => ?_) fun isArray hdeep => ?_⟩
    · rw [response_of_reports hr] at hresponse
      cases hresponse
    · rw [response_of_nestsTooDeep hdeep] at hresponse
      cases hresponse

/-- What a successful answer comes to is what the exchange makes of it. -/
theorem answers_iff {result : Except Error (TokenResponse × Token)} :
    Answers nesting issuedAt body result ↔ token nesting issuedAt body = result := by
  refine ⟨token_of_answers, ?_⟩
  rintro rfl
  obtain ⟨result, h⟩ := exists_answers nesting issuedAt body
  rwa [token_of_answers h]

end Exchange

end SignedAccess
