import SignedAccess.Text

/-!
# Scans of bytes

A scan reads bytes from the front, one step after the other, and tells what it meets.

Main definitions:

* `Piece` — what a scan meets;
* `Step`, `Step.scan` — what the first bytes are, and the scan that takes such steps;
* `Piece.text`, `Piece.text?` — the text of what was met, with a mark for what is none, or without.
-/

namespace SignedAccess

/-- What a scan meets. -/
inductive Piece where
  | char (c : Char)
  /-- A surrogate without a partner. -/
  | surrogate (unit : Nat)
  /-- Bytes that stand for nothing. -/
  | illFormed
  /-- Bytes at the end that wait for others. -/
  | unfinished (length : Nat)
  /-- A state in which no byte has a meaning. -/
  | broken
  deriving DecidableEq, Repr

/-- What the first bytes are, in a state of the scan. -/
inductive Step (σ : Type) where
  /-- As many of them stand for a text, and the scan goes on in a state. -/
  | read (text : Text) (length : Nat) (state : σ)
  /-- As many of them stand for nothing. -/
  | bad (length : Nat)
  /-- They wait for others. -/
  | short
  | broken

/-- What a scan meets that takes at most `fuel` steps. -/
def Step.scan {σ : Type} (step : σ → Bytes → Step σ) : (fuel : Nat) → σ → Bytes → List Piece
  | 0, _, _ => []
  | _ + 1, _, [] => []
  | fuel + 1, s, b :: rest =>
    match step s (b :: rest) with
    | .read text length s => text.map .char ++ scan step fuel s ((b :: rest).drop length)
    | .bad length => .illFormed :: scan step fuel s ((b :: rest).drop length)
    | .short => [.unfinished (rest.length + 1)]
    | .broken => [.broken]

/-- What a scan of all bytes meets, each step taking one of them at least. -/
def Step.scanAll {σ : Type} (step : σ → Bytes → Step σ) (s : σ) (bytes : Bytes) : List Piece :=
  scan step bytes.length s bytes

namespace Piece

/-- The piece of a character that may be missing. -/
def ofChar? : Option Char → Piece
  | some c => .char c
  | none => .illFormed

def ofCode (n : Nat) : Piece :=
  if 0xD800 ≤ n ∧ n < 0xE000 then .surrogate n
  else if n < 0x110000 then .char (Char.ofNat n) else .illFormed

/-- The text of pieces, with U+FFFD for each that is no character; two surrogates may be one
together. -/
def text : List Piece → Text
  | [] => []
  | .char c :: rest => c :: text rest
  | .surrogate high :: .surrogate low :: rest =>
    if high < 0xDC00 ∧ 0xDC00 ≤ low then
      Char.ofNat (0x10000 + (high - 0xD800) * 0x400 + (low - 0xDC00)) :: text rest
    else '\uFFFD' :: text (.surrogate low :: rest)
  | _ :: rest => '\uFFFD' :: text rest

def text? (pieces : List Piece) : Option Text :=
  pieces.mapM fun
    | .char c => some c
    | _ => none

end Piece

end SignedAccess
