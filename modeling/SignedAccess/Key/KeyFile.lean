import SignedAccess.Key.Layout
import SignedAccess.Key.Pem.Header
import SignedAccess.Text.Utf8

/-!
# Key files

A file holds a private key in one of its PEM blocks.  A first reading tries all of them, whatever
their order; where it finds no key, a second reading takes the first block with the label of a
private key.

Main definitions:

* `KeyFile.firstReading?`, `KeyFile.secondReading?` — the two readings;
* `KeyFile.load` — the key of a file, or why there is none.
-/

namespace SignedAccess.KeyFile

open Layout Ber

/-! ## Labels -/

def wrappedLabel : Bytes := Pem.ascii "PRIVATE KEY"
def encryptedLabel : Bytes := Pem.ascii "ENCRYPTED PRIVATE KEY"

/-- The curve that has labels of its own. -/
def separateCurve : List Nat := [1, 2, 156, 10197, 1, 301]

/-- What a label says about a key. -/
inductive Kind where
  | rsa
  | dsa
  | elliptic
  /-- On the curve that has labels of its own. -/
  | separate
  | dh
  | dhx
  deriving DecidableEq, Repr

/-- The labels under which a key of one algorithm may stand. -/
def labels : List (String × Kind) :=
  [("RSA PRIVATE KEY", .rsa), ("RSA PUBLIC KEY", .rsa),
   ("DSA PRIVATE KEY", .dsa), ("DSA PUBLIC KEY", .dsa), ("DSA PARAMETERS", .dsa),
   ("EC PRIVATE KEY", .elliptic), ("EC PARAMETERS", .elliptic),
   ("SM2 PRIVATE KEY", .separate), ("SM2 PARAMETERS", .separate),
   ("DH PARAMETERS", .dh), ("X9.42 DH PARAMETERS", .dhx)]

/-- What a label says about its key. -/
def kindOf? (label : Bytes) : Option Kind :=
  (labels.find? fun p => Pem.ascii p.1 = label).map Prod.snd

/-- What a label says in the second reading, which takes capital and small letters for the same in
the name of an algorithm. -/
def looseKindOf? (label : Bytes) : Option Kind := do
  let name ← Pem.withoutEnd? (Pem.ascii " PRIVATE KEY") label
  let kinds : List (String × Kind) := [("rsa", .rsa), ("dsa", .dsa), ("ec", .elliptic)]
  (kinds.find? fun p => Pem.ascii p.1 = name.map Pem.lowerByte).map Prod.snd

def Kind.family : Kind → Family
  | .rsa => .rsa
  | .dsa => .dsa
  | .elliptic | .separate => .elliptic
  | .dh => .dh
  | .dhx => .dhx

def Kind.accepts (kind : Kind) (c : Curve) : Bool := kind = .separate ↔ c.name = separateCurve

/-! ## Keys -/

/-- A key in the layout of its algorithm, on a curve that `accepts` holds of. -/
def bareOutcome? (kind : Kind) (accepts : Curve → Bool) (bytes : Bytes) : Option LoadOutcome :=
  match kind with
  | .rsa => (first? rsaKey bytes).map rsaOutcome
  | .dsa => (first? dsaKey bytes).map fun _ => .ok .signing
  | .elliptic | .separate =>
    first? ellipticKey bytes >>= fun key => key.outcome? accepts none
  | .dh | .dhx => none

/-- A wrapped key of one of the named algorithms, restricted to a kind if there is one. -/
def wrappedOutcome? (names : List (List Nat × Family)) (kind : Option Kind) (accepts : Curve → Bool)
    (bytes : Bytes) : Option LoadOutcome := do
  let wrapped ← first? wrappedKey bytes
  let family ← familyOf? names wrapped.algorithm.id
  if kind.all (fun k => k.family = family) then wrapped.outcome? accepts family else none

/-- The key of a label with the first element of a content. -/
def elementOutcome? (label element : Bytes) : Option LoadOutcome :=
  let wrapped := wrappedOutcome? families none (fun _ => true) element
  if label = wrappedLabel then wrapped
  else if label = encryptedLabel then
    match first? encryptedKey element with
    | some _ => some (.error .encrypted)
    | none => wrapped
  else match kindOf? label with
    | some kind =>
      (wrappedOutcome? families (some kind) kind.accepts element).or
        (bareOutcome? kind kind.accepts element)
    | none => none

/-- The key of a label and a content in the second reading. -/
def contentOutcome? (label content : Bytes) : Option LoadOutcome :=
  let names := families ++ furtherFamilies
  let wrapped kind := wrappedOutcome? names kind (fun _ => true) content
  if label = wrappedLabel then wrapped none
  else if label = encryptedLabel then
    (first? encryptedKey content).map fun _ => .error .encrypted
  else match looseKindOf? label with
    | some kind => (bareOutcome? kind (fun _ => true) content).or (wrapped (some kind))
    | none => none

/-! ## Files -/

/-- The key of the first block that has one.  A header is looked at if it is not too short to
announce anything; what it announces ends the reading, as far as it can be understood. -/
def firstReading? : List (Option Pem.Block) → Option LoadOutcome
  | [] => none
  | none :: rest => firstReading? rest
  | some block :: rest =>
    let outcome := Ber.outer? block.content >>= elementOutcome? block.label
    if block.header.length ≤ 10 then outcome.or (firstReading? rest)
    else match Pem.sealing block.header with
      | .encrypted => some (.error .encrypted)
      | .otherwise => firstReading? rest
      | .malformed => none

/-- Whether a label is one of a private key in the second reading. -/
def isPrivateLabel (label : Bytes) : Bool :=
  label = wrappedLabel || label = encryptedLabel || (looseKindOf? label).isSome

/-- The key of the first block with the label of a private key, if no broken one comes before it. -/
def secondReading? : List (Option Pem.Block) → Option LoadOutcome
  | [] => none
  | none :: _ => none
  | some block :: rest =>
    if isPrivateLabel block.label then
      if block.header = [] then contentOutcome? block.label block.content
      else if Pem.sealing block.header = .encrypted then some (.error .encrypted)
      else none
    else secondReading? rest

def load (file : Bytes) : LoadOutcome :=
  let blocks := Pem.blocks file
  ((firstReading? blocks).or (secondReading? blocks)).getD (.error .unreadable)

def loadText (pem : Text) : LoadOutcome := load (Utf8.encode pem)

end SignedAccess.KeyFile
