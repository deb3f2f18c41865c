import SignedAccess.Proofs.Token.Assertions
import SignedAccess.Proofs.Token.RoundTrip

/-!
# Runs of a source

A source is called again and again.  Each call takes one reading of the clock and sends at most one
request, and the requests of a run are answered in the order in which they are sent.  A source keeps
nothing from one call to the next: each call of a run is what it would be alone, at its own reading
of the clock and with the reply to its own request.

    (s.tokens nesting reply asked readings)[i]? =
      readings[i]?.map fun now => s.token nesting now (reply (asked + askedBefore … i))
                                                                     (getElem?_tokens)
-/

namespace SignedAccess

/-! ## Endpoints -/

namespace Exchange

variable {nesting : Json.Nesting} {tokenUrl assertion : Text} {issuedAt : Moment}
  {reply : EndpointReply}

end Exchange

namespace ExchangeSource

variable {nesting : Json.Nesting} {s : ExchangeSource} {now : DateTime} {reply : EndpointReply}

/-! ## Phases of a call -/

theorem token_of_claims_eq_error {e : Error} (h : s.claims now = .error e) :
    s.token nesting now reply = Call.failed e := by
  unfold token assertion
  rw [h]
  rfl

theorem token_of_not_canSign {claims : Claims} (h : s.claims now = .ok claims)
    (hkey : ¬s.key.CanSign) : s.token nesting now reply = Call.failed (.signing .claims) := by
  unfold token assertion
  rw [h]
  simp only [bind, Except.bind, Jwt.sign_of_not_canSign hkey, Call.after]

/-- A key that can sign leads to the exchange of an assertion. -/
theorem exists_run_of_canSign {claims : Claims} (h : s.claims now = .ok claims)
    (hkey : s.key.CanSign) : ∃ assertion, Jwt.sign claims s.key s.keyId = .ok assertion ∧
      ∀ reply,
        s.token nesting now reply = Exchange.run nesting s.tokenUrl assertion now.steady reply := by
  obtain ⟨expiry, hholds⟩ := Claims.exists_expiry_of_issue h
  obtain ⟨a, ha⟩ := Jwt.exists_sign_of_canSign hkey hholds.hasPlainTimes.hasShortTimes s.keyId
  refine ⟨a, ha, fun reply => ?_⟩
  unfold token assertion
  rw [h]
  simp only [bind, Except.bind, ha, Call.after]

/-! ## Single calls -/

end ExchangeSource

end SignedAccess
