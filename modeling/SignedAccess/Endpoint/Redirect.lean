import SignedAccess.Endpoint.HostName
import SignedAccess.Endpoint.Url

/-!
# Use of URLs

Not every URL can be asked, and not every redirect leads on.

Main definitions:

* `UrlUseFault` — why a URL cannot be used;
* `Address.areBracketsSound` — whether an authority has brackets only around an address;
* `Url.checkHost`, `Url.checkAscii`, `Url.checkBrackets` — what is asked of a URL that is used;
* `UrlSections.resolve` — a reference seen from a base;
* `Redirect.target` — where a redirect leads.
-/

namespace SignedAccess

/-- Why a URL cannot be used. -/
inductive UrlUseFault where
  /-- The host is an encoded name, and stands for none. -/
  | hostName (fault : HostName.Fault)
  /-- The host cannot be written in ASCII. -/
  | beyondAscii
  /-- The brackets of the authority are not those of an address. -/
  | brackets
  /-- A redirect leads to what is no URL. -/
  | target (fault : UrlFault)
  deriving DecidableEq, Repr

/-! ## Brackets -/

namespace Address

/-- Whether a text is an address of a kind to come: its version in hexadecimal digits, a dot, and
more behind it. -/
def isFuture (t : Text) : Bool :=
  let digits := (t.drop 1).takeWhile fun c => (Hex.digit? c).isSome
  t.head? = some 'v' && digits ≠ [] && match (t.drop 1).drop digits.length with
    | '.' :: _ :: _ => true
    | _ => false

/-- Whether a text may stand in brackets. -/
def isBracketed (t : Text) : Bool := if t.head? = some 'v' then isFuture t else isV6 t

/-- Whether the part of an authority behind the user information has brackets around an address, and
only a port behind them. -/
def isBracketedLocation (t : Text) : Bool :=
  match Text.cut? '[' t with
  | none => isBracketed (Text.before ':' t)
  | some (front, inside) =>
    let (host, behind) := (Text.cut? ']' inside).getD (inside, [])
    front = [] && (behind = [] || behind.head? = some ':') && isBracketed host

/-- Whether an authority has brackets only around an address. -/
def areBracketsSound (authority : Text) : Bool :=
  if authority.contains '[' && authority.contains ']' then
    isBracketedLocation (UrlParts.cutLast '@' authority).2
  else !authority.contains '[' && !authority.contains ']'

end Address

/-! ## Use -/

namespace Url

/-- What is asked of a host that is shown: an encoded name stands for one. -/
def checkHost (u : Url) : Except UrlUseFault Unit := (HostName.check u.host).mapError .hostName

/-- What is asked of a host that is sent. -/
def checkAscii (u : Url) : Except UrlUseFault Unit :=
  if u.host.all fun c => c.toNat < 0x80 then .ok () else .error .beyondAscii

/-- What is asked of a URL whose answer is kept. -/
def checkBrackets (u : Url) : Except UrlUseFault Unit :=
  if Address.areBracketsSound u.authority then .ok () else .error .brackets

def parts (u : Url) : UrlParts :=
  ⟨u.scheme, u.userinfo, u.hostText, (u.port.map Decimal.ofInt).getD [], u.path, u.query,
    u.fragment⟩

/-- A URL with other parts, none of which may be too long or hold a control character. -/
def withParts (u : Url) (change : UrlParts → UrlParts) : Except UrlFault Url :=
  let parts := change u.parts
  let all := [parts.scheme, u.authority, parts.host, parts.path, parts.query.getD [],
    parts.fragment.getD []]
  if all.any fun t => maxLength < t.length then .error .tooLong
  else match all.flatten.find? isControl with
    | some c => .error (.control c 0)
    | none => ofParts parts

end Url

/-! ## References -/

namespace UrlSections

/-- A part that is not empty. -/
def filled? (part : Option Text) : Option Text := part.filter (· ≠ [])

/-- The segments of a path, where two dots take back the one before. -/
def resolveDots (passed : List Text) : List Text → List Text
  | [] => passed.reverse
  | segment :: rest =>
    if segment = ['.', '.'] then resolveDots (passed.drop 1) rest
    else if segment = ['.'] then resolveDots passed rest
    else resolveDots (segment :: passed) rest

/-- Segments without the empty ones between the first and the last. -/
def withoutInnerGaps (segments : List Text) : List Text :=
  segments.take 1 ++ (segments.drop 1).dropLast.filter (· ≠ []) ++ (segments.drop 1).getLast?.toList

/-- The path that a reference names, seen from the path of a base. -/
def resolvePath (base reference : Text) : Text :=
  let segments := reference.splitOn '/'
  let front := base.splitOn '/'
  let front := if front.getLast? = some [] then front else front.dropLast
  let segments :=
    if reference.head? = some '/' then segments else withoutInnerGaps (front ++ segments)
  let isOpen := segments.getLast? = some ['.'] ∨ segments.getLast? = some ['.', '.']
  let path := Text.joined ['/'] (resolveDots [] segments ++ if isOpen then [[]] else [])
  if path = [] then ['/'] else path

/-- A reference seen from a base, whose scheme it may share. -/
def resolve (base reference : UrlSections) : UrlSections :=
  if reference.scheme ≠ [] ∧ reference.scheme ≠ base.scheme then reference
  else if reference.authority ≠ [] then { reference with scheme := base.scheme }
  else if reference.path = [] then
    { base with
      query := if reference.query = none then filled? base.query else reference.query
      fragment := reference.fragment }
  else
    let path := resolvePath base.path reference.path
    { reference with
      scheme := base.scheme
      authority := base.authority
      path := if path.head? = some '/' then path else '/' :: path }

def join (base reference : Text) : Except UrlUseFault Text :=
  let parts := ofText reference
  if reference = [] then .ok base
  else if !Address.areBracketsSound parts.authority then .error .brackets
  else
    let parts : UrlSections :=
      ⟨parts.scheme.map Char.toLower, parts.authority, parts.path, filled? parts.query,
        filled? parts.fragment⟩
    if parts.scheme ≠ [] ∧ parts.scheme ≠ (ofText base).scheme then .ok reference
    else .ok (resolve (ofText base) parts).text

end UrlSections

/-! ## Redirects -/

namespace Redirect

/-- Why a redirect leads nowhere. -/
inductive Fault where
  /-- The location is no URL. -/
  | location (fault : UrlFault)
  /-- The location is one, and leads to what cannot be used. -/
  | unusable (fault : UrlUseFault)
  deriving DecidableEq, Repr

/-- A URL that names a scheme is given the host of the one that was asked, if it has none. -/
def withHost (asked location : Url) : Except UrlUseFault Url := do
  if location.scheme = [] then return location
  location.checkHost
  if location.host ≠ [] then return location
  (location.withParts fun p => { p with host := asked.hostText }).mapError .target

/-- A URL that names no scheme is seen from the one that was asked. -/
def absolute (asked location : Url) : Except UrlUseFault Url := do
  if location.scheme ≠ [] then return location
  let text ← UrlSections.join asked.text location.text
  (Url.parse text).mapError .target

/-- A URL without a fragment is given that of the one that was asked. -/
def withFragment (asked location : Url) : Except UrlUseFault Url :=
  match UrlSections.filled? asked.fragment, UrlSections.filled? location.fragment with
  | some fragment, none =>
    let fragment := Percent.decodeLossy fragment
    (location.withParts fun p => { p with fragment := some fragment }).mapError .target
  | _, _ => .ok location

/-- Where a redirect leads. -/
def target (asked : Url) (location : Text) : Except Fault Url := do
  let url ← (Url.parse location).mapError .location
  (do
    let url ← withFragment asked (← absolute asked (← withHost asked url))
    url.checkHost
    return url : Except UrlUseFault Url).mapError .unusable

end Redirect

end SignedAccess
