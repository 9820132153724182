import ShaderGuard.Bytecode.Instruction
import ShaderGuard.Text.Utf8

/-!
Literal strings in shader code.

A string stands in consecutive words as UTF-8 bytes, least significant byte of a word first. A zero
byte ends it, and zero bytes fill its last word. `literalText` reads whatever there is; `literal?`
refuses words that hold no well-formed string.
-/

set_option autoImplicit false

namespace ShaderGuard.Bytecode

/-- The bytes of a word, least significant first. -/
def wordBytes (word : UInt32) : List UInt8 :=
  [word.toUInt8, (word >>> 8).toUInt8, (word >>> 16).toUInt8, (word >>> 24).toUInt8]

/-- The word of four bytes, least significant first. -/
def wordOfBytes (a b c d : UInt8) : UInt32 :=
  a.toUInt32 ||| (b.toUInt32 <<< 8) ||| (c.toUInt32 <<< 16) ||| (d.toUInt32 <<< 24)

/-- The bytes of code in order. -/
def codeBytes (words : List UInt32) : List UInt8 := words.flatMap wordBytes

/-- Words from bytes, of which the last word is filled with zero bytes. -/
def packBytes : List UInt8 → List UInt32
  | a :: b :: c :: d :: rest => wordOfBytes a b c d :: packBytes rest
  | [a, b, c] => [wordOfBytes a b c 0]
  | [a, b] => [wordOfBytes a b 0 0]
  | [a] => [wordOfBytes a 0 0 0]
  | [] => []

/-- The words of a literal string. -/
def encodeString (text : String) : List UInt32 := packBytes (Text.Utf8.encode text.toList ++ [0])

/-- The words of a literal string at the beginning of some words: up to the first word with a zero
byte, and all words if none has one. -/
def literalWords : List UInt32 → List UInt32
  | [] => []
  | word :: rest => if 0 ∈ wordBytes word then [word] else word :: literalWords rest

/-- The characters of a literal string at the beginning of some words: those of its bytes up to the
first zero, with the replacement character for each malformed piece. -/
def literalText (words : List UInt32) : List Char :=
  Text.Utf8.decodeLossy ((codeBytes words).takeWhile (· != 0))

/-- Whether a word can be the last one of a literal string: its highest byte is zero. -/
def endsLiteral (word : UInt32) : Bool := word >>> 24 == 0

/-- The literal string at the beginning of some words, if one of the words can be its last one and
its bytes are well formed. -/
def literal? (words : List UInt32) : Option (List Char) :=
  if words.any endsLiteral then Text.Utf8.decode? ((codeBytes words).takeWhile (· != 0)) else none

namespace Instruction

/-- The literal string that begins at a word. -/
def stringAt (instruction : Instruction) (index : Nat) : String :=
  String.ofList (literalText (instruction.words.drop index))

/-- The number of words of the literal string that begins at a word. -/
def stringWordLength (instruction : Instruction) (index : Nat) : Nat :=
  (literalWords (instruction.words.drop index)).length

end Instruction

end ShaderGuard.Bytecode
