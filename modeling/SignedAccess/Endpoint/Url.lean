import SignedAccess.Endpoint.Address
import SignedAccess.Number.Numeral
import SignedAccess.Text.Percent
import SignedAccess.Text.Quoted

/-!
# URLs of endpoints

A URL is cut into its parts and brought into a normal form: scheme and host in lower case, the
default port left out, dot segments removed, and what may not stand in a part percent-encoded.
Escapes stay as they are, well-formed or not.

Main definitions:

* `UrlSections` — a URL cut at its marks;
* `UrlParts.ofText` — the parts of a URL as they are written;
* `Url.parse` — a URL in normal form, or why there is none;
* `Url.text` — its text.
-/

namespace SignedAccess

/-! ## Sections -/

/-- The sections of a URL, as they are told apart by their marks alone. -/
structure UrlSections where
  /-- The scheme, empty for none. -/
  scheme : Text
  authority : Text
  path : Text
  query : Option Text
  fragment : Option Text
  deriving DecidableEq, Repr

namespace UrlSections

/-- Whether a character may stand in a scheme. -/
def isSchemeChar (c : Char) : Bool := c.isAlphanum || c = '+' || c = '.' || c = '-'

/-- The scheme in front of a colon, and the rest; without a scheme the rest is all. -/
def cutScheme (t : Text) : Text × Text :=
  let front := t.takeWhile isSchemeChar
  match t.dropWhile isSchemeChar with
  | ':' :: rest => if front.head?.all Char.isAlpha then (front, rest) else ([], t)
  | _ => ([], t)

/-- The authority behind two slashes, and the rest. -/
def cutAuthority (t : Text) : Text × Text :=
  match t with
  | '/' :: '/' :: rest => rest.span fun c => !(c = '/' || c = '?' || c = '#')
  | _ => ([], t)

/-- The part behind a mark in front, up to another mark, and the rest. -/
def cutPart (mark : Char) (ends : Char → Bool) (t : Text) : Option Text × Text :=
  match t with
  | c :: rest =>
    if c = mark then (some (rest.takeWhile fun c => !ends c), rest.dropWhile fun c => !ends c)
    else (none, t)
  | [] => (none, [])

def ofText (t : Text) : UrlSections :=
  let (scheme, t) := cutScheme t
  let (authority, t) := cutAuthority t
  let (path, t) := t.span fun c => !(c = '?' || c = '#')
  let (query, t) := cutPart '?' (· = '#') t
  let (fragment, _) := cutPart '#' (fun _ => false) t
  ⟨scheme, authority, path, query, fragment⟩

def text (s : UrlSections) : Text :=
  (if s.scheme = [] then [] else s.scheme ++ [':'])
    ++ (if s.authority = [] then [] else "//".toList ++ s.authority)
    ++ s.path ++ (s.query.map ('?' :: ·)).getD [] ++ (s.fragment.map ('#' :: ·)).getD []

end UrlSections

/-! ## Parts -/

/-- The parts of a URL as they are written. -/
structure UrlParts where
  /-- The scheme, empty for none. -/
  scheme : Text
  userinfo : Text
  /-- The host, with the brackets of an address. -/
  host : Text
  /-- The port, empty for none. -/
  port : Text
  path : Text
  query : Option Text
  fragment : Option Text
  deriving DecidableEq, Repr

namespace UrlParts

/-- What stands before and after the last `c`; without `c` nothing stands before. -/
def cutLast (c : Char) (t : Text) : Text × Text :=
  match Text.cut? c t.reverse with
  | some (back, front) => (front.reverse, back.reverse)
  | none => ([], t)

/-- The host and the port of an authority without user information.  A host in brackets ends at the
last bracket, any other at the first colon. -/
def cutHost (t : Text) : Text × Text :=
  let (inside, behind) := cutLast ']' t
  let (host, rest) :=
    if t.head? = some '[' ∧ ']' ∈ t then (inside ++ [']'], behind) else t.span (· ≠ ':')
  (host, Text.dropStart [':'] rest)

def ofText (t : Text) : UrlParts :=
  let s := UrlSections.ofText t
  let (userinfo, location) := cutLast '@' s.authority
  let (host, port) := cutHost location
  ⟨s.scheme, userinfo, host, port, s.path, s.query, s.fragment⟩

end UrlParts

/-! ## Faults -/

/-- Why a text is no URL. -/
inductive UrlFault where
  | tooLong
  /-- A control character, at a position. -/
  | control (c : Char) (position : Nat)
  /-- A host that looks like an address of version 4 and is none. -/
  | addressV4 (host : Text)
  /-- A host in brackets that is no address of version 6. -/
  | addressV6 (host : Text)
  /-- A host name beyond ASCII. -/
  | hostName (host : Text)
  | port (port : Text)
  /-- A path that does not begin with a slash though there is a host. -/
  | noSlash
  /-- A path that begins with two slashes though there is no host. -/
  | slashes
  /-- A path that begins with a colon though there is no scheme. -/
  | colon
  deriving DecidableEq, Repr

def UrlFault.message : UrlFault → Text
  | .tooLong => "URL too long".toList
  | .control c position =>
    "Invalid non-printable ASCII character in URL, ".toList ++ Text.quoted [c]
      ++ " at position ".toList
      ++ Decimal.ofNat position ++ ['.']
  | .addressV4 host => "Invalid IPv4 address: ".toList ++ Text.quoted host
  | .addressV6 host => "Invalid IPv6 address: ".toList ++ Text.quoted host
  | .hostName host => "Invalid IDNA hostname: ".toList ++ Text.quoted host
  | .port t => "Invalid port: ".toList ++ Text.quoted t
  | .noSlash => "For absolute URLs, path must be empty or begin with '/'".toList
  | .slashes => "Relative URLs cannot have a path starting with '//'".toList
  | .colon => "Relative URLs cannot have a path starting with ':'".toList

/-! ## Normal form -/

/-- A URL in normal form. -/
structure Url where
  /-- The scheme, empty for none. -/
  scheme : Text
  userinfo : Text
  /-- The host, an address without brackets; empty for none. -/
  host : Text
  port : Option Int
  path : Text
  query : Option Text
  fragment : Option Text
  deriving DecidableEq, Repr

namespace Url

def maxLength : Nat := 65536

/-- Whether a character is an ASCII character with a printed form, other than the blank. -/
def isVisible (c : Char) : Bool := 0x20 < c.toNat && c.toNat < 0x7F

/-- Percent encoding that keeps the visible characters but for some. -/
def encodeBut (escaped : String) (t : Text) : Text :=
  Percent.encode (fun c => isVisible c && !escaped.toList.contains c) t

def encodeFragment : Text → Text := encodeBut "\"<>\x60"
def encodeQuery : Text → Text := encodeBut "\"#<>"
def encodePath : Text → Text := encodeBut "\"#<>?\x60\x7b\x7d"
def encodeUserinfo : Text → Text := encodeBut "\"#<>?\x60\x7b\x7d/;=@[\\]^|"
def encodeName : Text → Text := encodeBut "#/:<>?@[]^"

/-- A host in normal form: a name in lower case, or an address without brackets. -/
def normalHost (host : Text) : Except UrlFault Text :=
  if Address.looksLikeV4 host then
    if Address.isV4 host then .ok host else .error (.addressV4 host)
  else if host.head? = some '[' ∧ host.getLast? = some ']' then
    let inside := (host.drop 1).dropLast
    if Address.isV6 inside then .ok inside else .error (.addressV6 host)
  else if host.all fun c => c.toNat < 0x80 then .ok (encodeName (host.map Char.toLower))
  else .error (.hostName host)

/-- The ports that need not be written. -/
def defaultPorts : List (String × Int) :=
  [("ftp", 21), ("http", 80), ("https", 443), ("ws", 80), ("wss", 443)]

/-- A port in normal form: none for the default port of the scheme, which is compared as it is
written. -/
def normalPort (scheme port : Text) : Except UrlFault (Option Int) :=
  if port = [] then .ok none
  else match Decimal.readNumeral? port with
    | none => .error (.port port)
    | some n =>
      let isDefault := defaultPorts.any fun d => d.1.toList = scheme && d.2 = n
      .ok (if isDefault then none else some n)

/-- The segments without dots, behind those that were passed, of which the last stands in front.
Two dots take back a segment, but not the empty one before the first slash. -/
def withoutDots (passed : List Text) : List Text → List Text
  | [] => passed.reverse
  | segment :: rest =>
    if segment = ['.'] then withoutDots passed rest
    else if segment = ['.', '.'] then
      withoutDots (if passed = [[]] then passed else passed.tail) rest
    else withoutDots (segment :: passed) rest

/-- A path without dot segments. -/
def normalPath (path : Text) : Text := Text.joined ['/'] (withoutDots [] (path.splitOn '/'))

/-- The normal form of the parts of a URL. -/
def ofParts (parts : UrlParts) : Except UrlFault Url := do
  let userinfo := encodeUserinfo parts.userinfo
  let host ← normalHost parts.host
  let port ← normalPort parts.scheme parts.port
  let isHostless := userinfo = [] ∧ host = [] ∧ port = none
  if ¬isHostless ∧ parts.path.head?.any (· ≠ '/') then throw .noSlash
  let isBare := parts.scheme = [] ∧ isHostless
  if isBare ∧ (Text.without? ['/', '/'] parts.path).isSome then throw .slashes
  if isBare ∧ parts.path.head? = some ':' then throw .colon
  let path := if isBare then parts.path else normalPath parts.path
  return ⟨parts.scheme.map Char.toLower, userinfo, host, port, encodePath path,
    parts.query.map encodeQuery, parts.fragment.map encodeFragment⟩

/-- Whether a character is an ASCII control character. -/
def isControl (c : Char) : Bool := c.toNat < 0x20 || c = '\x7F'

/-- A URL in normal form, or why there is none. -/
def parse (t : Text) : Except UrlFault Url :=
  if maxLength < t.length then .error .tooLong
  else match t.find? isControl with
    | some c => .error (.control c (t.idxOf c))
    | none => ofParts (UrlParts.ofText t)

/-! ## Text -/

/-- The host as it is written, an address of version 6 in brackets. -/
def hostText (u : Url) : Text := if ':' ∈ u.host then '[' :: u.host ++ [']'] else u.host

/-- The user information, the host and the port. -/
def authority (u : Url) : Text :=
  (if u.userinfo = [] then [] else u.userinfo ++ ['@']) ++ u.hostText
    ++ (u.port.map fun n => ':' :: Decimal.ofInt n).getD []

def sections (u : Url) : UrlSections := ⟨u.scheme, u.authority, u.path, u.query, u.fragment⟩

def text (u : Url) : Text := u.sections.text

end Url

end SignedAccess
