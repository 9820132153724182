/-!
Text as UTF-8 bytes.

`encode` writes a text as bytes. Reading is a machine that takes one byte at a time: it either
finishes a character, waits for more bytes of one, or finds that the bytes so far can begin no
character. In the last case they are one malformed piece, as long as possible, and the byte at hand
starts afresh. `decodeLossy` writes the replacement character for each such piece, `decode?` refuses
a text that has one.
-/

set_option autoImplicit false

namespace ShaderGuard.Text.Utf8

/-- The UTF-8 bytes of a text. -/
def encode (text : List Char) : List UInt8 := text.flatMap String.utf8EncodeChar

/-- A character of which some bytes are still to come. -/
structure Partial where
  /-- The bits read so far. -/
  bits : Nat
  /-- How many bytes follow after the next one. -/
  more : Nat
  /-- The least value the next byte may have. -/
  low : UInt8
  /-- The greatest value the next byte may have. -/
  high : UInt8

/-- What a byte begins, if a character can begin with it: a whole character, or one of several
bytes. The ranges of the second byte exclude overlong forms, surrogates and numbers that are no
code points. -/
def start? (byte : UInt8) : Option (Char ⊕ Partial) :=
  if byte < 0x80 then some (.inl (Char.ofNat byte.toNat))
  else if byte < 0xc2 then none
  else if byte < 0xe0 then some (.inr ⟨byte.toNat - 0xc0, 0, 0x80, 0xbf⟩)
  else if byte < 0xf0 then
    some (.inr ⟨byte.toNat - 0xe0, 1, if byte = 0xe0 then 0xa0 else 0x80,
      if byte = 0xed then 0x9f else 0xbf⟩)
  else if byte < 0xf5 then
    some (.inr ⟨byte.toNat - 0xf0, 2, if byte = 0xf0 then 0x90 else 0x80,
      if byte = 0xf4 then 0x8f else 0xbf⟩)
  else none

/-- The pieces of a byte string, behind a character that may have been begun: `some c` for a
character and `none` for a malformed piece. -/
def piecesFrom : Option Partial → List UInt8 → List (Option Char)
  | none, [] => []
  | some _, [] => [none]
  | pending, byte :: rest =>
    let fresh : List (Option Char) :=
      match start? byte with
      | none => none :: piecesFrom none rest
      | some (.inl c) => some c :: piecesFrom none rest
      | some (.inr begun) => piecesFrom (some begun) rest
    match pending with
    | none => fresh
    | some begun =>
      if begun.low ≤ byte ∧ byte ≤ begun.high then
        let bits := begun.bits * 64 + (byte.toNat - 0x80)
        match begun.more with
        | 0 => some (Char.ofNat bits) :: piecesFrom none rest
        | more + 1 => piecesFrom (some ⟨bits, more, 0x80, 0xbf⟩) rest
      else none :: fresh

/-- The pieces of a byte string: characters, and malformed pieces of greatest length. -/
def pieces (bytes : List UInt8) : List (Option Char) := piecesFrom none bytes

/-- The text of a byte string, with the replacement character for each malformed piece. -/
def decodeLossy (bytes : List UInt8) : List Char :=
  (pieces bytes).map fun piece ↦ piece.getD '\uFFFD'

/-- The text of a byte string that has no malformed piece. -/
def decode? (bytes : List UInt8) : Option (List Char) := (pieces bytes).mapM id

end ShaderGuard.Text.Utf8
