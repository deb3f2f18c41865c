import SignedAccess.Log.Line
import SignedAccess.SignedUrl.BucketHandle
import SignedAccess.SignedUrl.CodeOptions
import SignedAccess.Token.Source
import SignedAccess.Proofs.Number.Digits
import SignedAccess.Proofs.Text.Escapes
import SignedAccess.Proofs.Text.Pieces
import SignedAccess.Proofs.Time.Stamp
import SignedAccess.Proofs.SignedUrl.NameTable
import SignedAccess.Proofs.SignedUrl.Query
import SignedAccess.Proofs.Text.LowerCase
import SignedAccess.Proofs.SignedUrl.Acceptance
import SignedAccess.Proofs.SignedUrl.AcceptedCall
import SignedAccess.Proofs.SignedUrl.HeaderList
import SignedAccess.Proofs.SignedUrl.Lines
import SignedAccess.Proofs.SignedUrl.Binding
import SignedAccess.Proofs.SignedUrl.Verification
import SignedAccess.Proofs.Number.Rounding
import SignedAccess.Proofs.SignedUrl.SigningCall
import SignedAccess.Proofs.SignedUrl.CallerFunction
import SignedAccess.Proofs.SignedUrl.QueryContent
import SignedAccess.Proofs.SignedUrl.Lifetime
import SignedAccess.Proofs.SignedUrl.HeaderOrder
import SignedAccess.Proofs.SignedUrl.HeaderSpelling
import SignedAccess.Proofs.SignedUrl.Restating
import SignedAccess.Proofs.SignedUrl.Failures
import SignedAccess.Proofs.Bytes.Base64
import SignedAccess.Proofs.Json.Objects
import SignedAccess.Proofs.Endpoint.Form
import SignedAccess.Proofs.Token.Jwt
import SignedAccess.Proofs.Endpoint.Answer
import SignedAccess.Proofs.Endpoint.Outcomes
import SignedAccess.Proofs.Token.Assertions
import SignedAccess.Proofs.Json.Flat
import SignedAccess.Proofs.Key.Signature
import SignedAccess.Proofs.Token.Runs
import SignedAccess.Proofs.Token.RoundTrip
import SignedAccess.Proofs.Token.Unset
import SignedAccess.Proofs.Log.Secrecy
import SignedAccess.Proofs.Text.LowerForm
import SignedAccess.Proofs.SignedUrl.HeaderForm
import SignedAccess.Proofs.SignedUrl.HeaderFixedPoint
import SignedAccess.Proofs.SignedUrl.Path
import SignedAccess.Proofs.SignedUrl.Identity
import SignedAccess.Proofs.SignedUrl.Mapping
import SignedAccess.Proofs.Token.KeyText
import SignedAccess.Proofs.Number.Nearest
import SignedAccess.Proofs.Time.WholeSeconds
import SignedAccess.Proofs.Token.Hour
import SignedAccess.Proofs.Json.Limit
import SignedAccess.Proofs.Time.Calendar
import SignedAccess.Proofs.Endpoint.Expiry
import SignedAccess.Proofs.Text.Shortening
import SignedAccess.Proofs.Bytes.StrictReader
import SignedAccess.Proofs.SignedUrl.Md5
import SignedAccess.Proofs.Bytes.BigEndian
import SignedAccess.Proofs.Key.Verification
import SignedAccess.Proofs.Key.Accepted
import SignedAccess.Proofs.Text.Utf8
import SignedAccess.Proofs.Key.Ber
import SignedAccess.Proofs.Key.Layout
import SignedAccess.Proofs.Key.Pem
import SignedAccess.Proofs.Key.Pem.File
import SignedAccess.Proofs.Key.Writing
