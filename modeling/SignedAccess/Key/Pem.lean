import SignedAccess.Bytes.Base64

/-!
# PEM blocks

A block stands between a `BEGIN` and an `END` line of the same label, each on a line of its own.
Its lines are base64, behind optional header lines that a blank line closes.  A file is read in
pieces: a piece is a line, or as much of a long line as is read at once.

Main definitions:

* `Pem.pieces` — the pieces of a file;
* `Pem.Block` — a label, the header and the content;
* `Pem.blocks` — the blocks of a file, in which a broken one leaves a gap.
-/

namespace SignedAccess.Pem

structure Block where
  label : Bytes
  /-- The header lines, each with a line feed behind it. -/
  header : Bytes
  content : Bytes

/-! ## Pieces -/

def ascii (s : String) : Bytes := s.toList.map fun c => UInt8.ofNat c.toNat

def beginMark : Bytes := ascii "-----BEGIN "
def endMark : Bytes := ascii "-----END "
def closeMark : Bytes := ascii "-----"

/-- How many bytes of a line are read at once. -/
def pieceLimit : Nat := 254

/-- The pieces of bytes, where `size` bytes of the first one have been read already; the answer is
`done` in reverse, and then they. -/
def piecesFrom (size : Nat) (current : Bytes) (done : List Bytes) : Bytes → List Bytes
  | [] => (if current = [] then done else current.reverse :: done).reverse
  | b :: rest =>
    if b = 0x0A ∨ size + 1 = pieceLimit then piecesFrom 0 [] ((b :: current).reverse :: done) rest
    else piecesFrom (size + 1) (b :: current) done rest

/-- The pieces of a file, each with its line feed. -/
def pieces (file : Bytes) : List Bytes := piecesFrom 0 [] [] file

/-- Whether a byte at the end of a piece counts as part of it. -/
def isSolid (b : UInt8) : Bool := 0x20 < b.toNat && b.toNat < 0x80

/-- A piece without what is not solid at its end. -/
def trim (piece : Bytes) : Bytes := (piece.reverse.dropWhile fun b => !isSolid b).reverse

/-- Whether a piece ends before its line does. -/
def isCut (piece : Bytes) : Bool := piece.length = pieceLimit && piece.getLast? ≠ some 0x0A

/-- A piece without a UTF-8 signature in front. -/
def dropSignature : Bytes → Bytes
  | 0xEF :: 0xBB :: 0xBF :: b :: rest => b :: rest
  | piece => piece

/-- `bytes` without `start` in front; none if they do not begin so. -/
def without? : (start bytes : Bytes) → Option Bytes
  | [], bytes => some bytes
  | _ :: _, [] => none
  | a :: start, b :: bytes => if a = b then without? start bytes else none

/-- `bytes` without `finish` at the end; none if they do not end so. -/
def withoutEnd? (finish bytes : Bytes) : Option Bytes :=
  (without? finish.reverse bytes.reverse).map List.reverse

/-- What stands before the first zero byte. -/
def beforeZero (bytes : Bytes) : Bytes := bytes.takeWhile (· ≠ 0)

def beginLabel? (line : Bytes) : Option Bytes :=
  (without? beginMark line >>= withoutEnd? closeMark).map beforeZero

/-- What a trimmed piece contributes: its line with a line feed, or the part before a zero byte. -/
def contribution (line : Bytes) : Bytes :=
  if line.contains 0 then beforeZero line else line ++ [0x0A]

/-! ## Base64 content -/

/-- A byte between the digits. -/
def isGap (b : UInt8) : Bool := b = 0x20 || b = 0x09 || b = 0x0A || b = 0x0D

/-- The digits and padding characters up to a hyphen, where the content ends. -/
def symbols (bytes : Bytes) : Text :=
  ((bytes.takeWhile (· ≠ 0x2D)).filter fun b => !isGap b).map fun b => Char.ofNat b.toNat

/-- The bytes of a base64 content: a whole number of groups, at most two padding characters, all of
them at the end. -/
def decodeBody? (body : Bytes) : Option Bytes := do
  let symbols := symbols body
  let pads := symbols.dropWhile (· ≠ '=')
  let digits ← (symbols.takeWhile (· ≠ '=')).mapM (Base64.value? .standard)
  if pads.all (· = '=') ∧ pads.length ≤ 2 ∧ symbols.length % 4 = 0 ∧ digits ≠ [] then
    some (Base64.bytesOf digits)
  else none

/-! ## Blocks -/

/-- Where in a block a line stands. -/
inductive Part where
  /-- Before a blank line, while no line has shown a colon. -/
  | undecided
  /-- Before a blank line, at or behind a line with a colon. -/
  | header
  /-- Behind the blank line. -/
  | body
  deriving DecidableEq, Repr

/-- What has been read of a block. -/
structure Progress where
  part : Part
  /-- What the lines before the blank line contribute, the latest first. -/
  upper : List Bytes
  /-- What the lines behind the blank line contribute, the latest first. -/
  lower : List Bytes
  /-- Whether the piece before this one was cut. -/
  isInLine : Bool
  /-- Whether only the `END` line may follow. -/
  isDone : Bool

/-- Before the first line of a block. -/
def Progress.start : Progress := ⟨.undecided, [], [], false, false⟩

/-- The block that ends here. -/
def Progress.finish? (p : Progress) (label : Bytes) : Option Block :=
  match p.part with
  | .undecided => (decodeBody? p.upper.reverse.flatten).map fun content => ⟨label, [], content⟩
  | _ => (decodeBody? p.lower.reverse.flatten).map fun content =>
    ⟨label, p.upper.reverse.flatten, content⟩

/-- How a line changes what has been read; none if the line breaks the block. -/
def Progress.line? (p : Progress) (line : Bytes) : Option Progress :=
  if p.isDone then none
  else match p.part with
    | .body =>
      if 64 < line.length then none
      else some { p with lower := contribution line :: p.lower, isDone := line.length < 64 }
    | _ => some { p with upper := contribution line :: p.upper }

/-- How a blank line changes what has been read; none if it breaks the block.  The end of a line
that was cut is not blank. -/
def Progress.blank? (p : Progress) : Option Progress :=
  if p.isInLine then some p
  else if p.part = .body then none
  else some { p with part := .body }

/-- Reads a block from the piece after its `BEGIN` line on.  The answer is none if the block is
broken, and holds the pieces that have not been read. -/
def readBlock (label : Bytes) (p : Progress) : List Bytes → Option Block × List Bytes
  | [] => (none, [])
  | piece :: rest =>
    let line := trim piece
    let isColon := p.part = .undecided ∧ piece.contains 0x3A
    let p := if isColon then { p with part := .header } else p
    if line = [] then
      match p.blank? with
      | some p => readBlock label { p with isInLine := isCut piece } rest
      | none => (none, rest)
    else match without? endMark line with
      | some tail => (if tail = label ++ closeMark then p.finish? label else none, rest)
      | none =>
        match p.line? line with
        | some p => readBlock label { p with isInLine := isCut piece } rest
        | none => (none, rest)

/-- The label of the next `BEGIN` line and the pieces behind it. -/
def nextLabel? : List Bytes → Option (Bytes × List Bytes)
  | [] => none
  | piece :: rest =>
    match beginLabel? (trim piece) with
    | some label => some (label, rest)
    | none => nextLabel? rest

/-- The blocks of pieces, at most `fuel` of them; none in the place of a broken one. -/
def blocksUpTo : (fuel : Nat) → List Bytes → List (Option Block)
  | 0, _ => []
  | _ + 1, [] => []
  | fuel + 1, piece :: rest =>
    match nextLabel? (dropSignature piece :: rest) with
    | none => []
    | some (label, rest) =>
      let (block, rest) := readBlock label .start rest
      block :: blocksUpTo fuel rest

/-- The blocks of a file, and none in the place of a broken one. -/
def blocks (file : Bytes) : List (Option Block) :=
  let pieces := pieces file
  blocksUpTo pieces.length pieces

end SignedAccess.Pem
