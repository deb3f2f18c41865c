import SignedAccess.Key.Pem

/-!
# Headers of PEM blocks

A header announces that the content is encrypted, and with which cipher and initial value.

Main definitions:

* `Pem.Sealing` — what a header announces;
* `Pem.sealing` — the announcement of a header.
-/

namespace SignedAccess.Pem

/-- What a header announces. -/
inductive Sealing where
  /-- The content is encrypted. -/
  | encrypted
  /-- The content has been processed in another way. -/
  | otherwise
  /-- Nothing that can be understood. -/
  | malformed
  deriving DecidableEq, Repr

/-- The known ciphers, by the size of the initial value. -/
def ciphers : List (Nat × List String) :=
  [(16,
     ["aes-128-cbc", "aes-128-cbc-hmac-sha1", "aes-128-cbc-hmac-sha256", "aes-128-cfb",
      "aes-128-cfb1", "aes-128-cfb8", "aes-128-ctr", "aes-128-ofb", "aes-128-xts", "aes-192-cbc",
      "aes-192-cfb", "aes-192-cfb1", "aes-192-cfb8", "aes-192-ctr", "aes-192-ofb", "aes-256-cbc",
      "aes-256-cbc-hmac-sha1", "aes-256-cbc-hmac-sha256", "aes-256-cfb", "aes-256-cfb1",
      "aes-256-cfb8", "aes-256-ctr", "aes-256-ofb", "aes-256-xts", "aes128", "aes192", "aes256",
      "aria-128-cbc", "aria-128-cfb", "aria-128-cfb1", "aria-128-cfb8", "aria-128-ctr",
      "aria-128-ofb", "aria-192-cbc", "aria-192-cfb", "aria-192-cfb1", "aria-192-cfb8",
      "aria-192-ctr", "aria-192-ofb", "aria-256-cbc", "aria-256-cfb", "aria-256-cfb1",
      "aria-256-cfb8", "aria-256-ctr", "aria-256-ofb", "aria128", "aria192", "aria256",
      "camellia-128-cbc", "camellia-128-cfb", "camellia-128-cfb1", "camellia-128-cfb8",
      "camellia-128-ctr", "camellia-128-ofb", "camellia-192-cbc", "camellia-192-cfb",
      "camellia-192-cfb1", "camellia-192-cfb8", "camellia-192-ctr", "camellia-192-ofb",
      "camellia-256-cbc", "camellia-256-cfb", "camellia-256-cfb1", "camellia-256-cfb8",
      "camellia-256-ctr", "camellia-256-ofb", "camellia128", "camellia192", "camellia256",
      "chacha20", "seed", "seed-cbc", "seed-cfb", "seed-ofb", "sm4", "sm4-cbc", "sm4-cfb",
      "sm4-ctr", "sm4-ofb"]),
   (12,
     ["aes-128-ccm", "aes-128-gcm", "aes-128-ocb", "aes-192-ccm", "aes-192-gcm", "aes-192-ocb",
      "aes-256-ccm", "aes-256-gcm", "aes-256-ocb", "aria-128-ccm", "aria-128-gcm",
      "aria-192-ccm", "aria-192-gcm", "aria-256-ccm", "aria-256-gcm", "chacha20-poly1305",
      "id-aes128-ccm", "id-aes128-gcm", "id-aes192-ccm", "id-aes192-gcm", "id-aes256-ccm",
      "id-aes256-gcm"]),
   (8,
     ["aes128-wrap", "aes192-wrap", "aes256-wrap", "bf", "bf-cbc", "bf-cfb", "bf-ofb",
      "blowfish", "cast", "cast-cbc", "cast5-cbc", "cast5-cfb", "cast5-ofb", "des", "des-cbc",
      "des-cfb", "des-cfb1", "des-cfb8", "des-ede-cbc", "des-ede-cfb", "des-ede-ofb",
      "des-ede3-cbc", "des-ede3-cfb", "des-ede3-cfb1", "des-ede3-cfb8", "des-ede3-ofb",
      "des-ofb", "des3", "desx", "desx-cbc", "id-aes128-wrap", "id-aes192-wrap",
      "id-aes256-wrap", "idea", "idea-cbc", "idea-cfb", "idea-ofb", "rc2", "rc2-128", "rc2-40",
      "rc2-40-cbc", "rc2-64", "rc2-64-cbc", "rc2-cbc", "rc2-cfb", "rc2-ofb"]),
   (4,
     ["aes128-wrap-pad", "aes192-wrap-pad", "aes256-wrap-pad", "id-aes128-wrap-pad",
      "id-aes192-wrap-pad", "id-aes256-wrap-pad"]),
   (0,
     ["aes-128-ecb", "aes-192-ecb", "aes-256-ecb", "aria-128-ecb", "aria-192-ecb",
      "aria-256-ecb", "bf-ecb", "camellia-128-ecb", "camellia-192-ecb", "camellia-256-ecb",
      "cast5-ecb", "des-ecb", "des-ede", "des-ede-ecb", "des-ede3", "des-ede3-ecb", "des3-wrap",
      "id-smime-alg-cms3deswrap", "idea-ecb", "rc2-ecb", "rc4", "rc4-40", "rc4-hmac-md5",
      "seed-ecb", "sm4-ecb"])]

/-- An ASCII letter in lower case. -/
def lowerByte (b : UInt8) : UInt8 := if 0x41 ≤ b.toNat ∧ b.toNat ≤ 0x5A then b + 0x20 else b

/-- The size of the initial value of a cipher; the case of its name does not matter. -/
def ivSize? (name : Bytes) : Option Nat :=
  (ciphers.find? fun group => group.2.any fun n => ascii n = name.map lowerByte).map Prod.fst

/-- Whether a byte is a space or a tabulator. -/
def isBlank (b : UInt8) : Bool := b = 0x20 || b = 0x09

/-- Bytes without blanks in front. -/
def skipBlanks (bytes : Bytes) : Bytes := bytes.dropWhile isBlank

/-- Whether a byte is a hexadecimal digit. -/
def isHexDigit (b : UInt8) : Bool :=
  (0x30 ≤ b.toNat && b.toNat ≤ 0x39) || (0x61 ≤ (lowerByte b).toNat && (lowerByte b).toNat ≤ 0x66)

/-- Whether bytes begin with an initial value of a size, in hexadecimal digits behind a comma. -/
def beginsWithIv (size : Nat) (bytes : Bytes) : Bool :=
  if size = 0 then bytes.head? ≠ some 0x2C
  else match bytes with
    | 0x2C :: digits => digits.length ≥ 2 * size && (digits.take (2 * size)).all isHexDigit
    | _ => false

/-- Whether a line names a cipher and an initial value. -/
def namesCipher (line : Bytes) : Bool :=
  match without? (ascii "DEK-Info:") line with
  | none => false
  | some rest =>
    let rest := skipBlanks rest
    let isOfName := fun b => !isBlank b && b != 0x2C
    (ivSize? (rest.takeWhile isOfName)).any fun size =>
      beginsWithIv size (skipBlanks (rest.dropWhile isOfName))

/-- What stands behind the end of a line of which only blanks are left. -/
def behindLine? (bytes : Bytes) : Option Bytes :=
  match bytes.dropWhile fun b => isBlank b || b = 0x0D with
  | 0x0A :: rest => some rest
  | _ => none

/-- What a header announces. -/
def sealing (header : Bytes) : Sealing :=
  match without? (ascii "Proc-Type:") header with
  | none => .malformed
  | some rest =>
    match without? (ascii "4,") (skipBlanks rest) with
    | none => .otherwise
    | some rest =>
      match without? (ascii "ENCRYPTED") (skipBlanks rest) >>= behindLine? with
      | some line => if namesCipher line then .encrypted else .malformed
      | none => .malformed

end SignedAccess.Pem
