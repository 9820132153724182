import Mathlib.Data.List.TakeWhile
import ShaderGuard.Bytecode.Literal
import ShaderGuard.Proofs.Words

/-!
# Literal strings are read back

A text goes into code in three steps: characters become UTF-8 bytes, a zero byte closes them, and
four bytes at a time become a word. Each step is undone on reading. The reader of UTF-8 finishes a
character exactly where its bytes end (`Text.Utf8.piecesFrom_utf8EncodeChar`), since the leading
byte tells their number and the ranges of the second byte hold all characters. No byte of a
character but the null character is zero, so the first zero byte is the end of the text or its first
null character (`Text.Utf8.takeWhile_encode`). And the bytes of a word are those that it was packed
from (`Bytecode.wordBytes_wordOfBytes`).

A literal string that stands in an instruction, with whatever words before and behind it, is hence
read as the text, cut at its first null character (`Bytecode.Instruction.stringAt_of_drop`).

How many words a string takes is found by another scan, of words instead of bytes. On any words,
written as a string or not, the two stop at the same place (`Bytecode.length_literalWords`), so a
string is read from just the words that it is said to take
(`Bytecode.Instruction.strings_read_and_measured`).
-/

set_option autoImplicit false

namespace ShaderGuard

/-- All elements of a list differ from one that is not in it. -/
theorem bne_of_notMem {α : Type} [DecidableEq α] {a : α} {list : List α} (h : a ∉ list) :
    ∀ b ∈ list, (b != a) = true := fun _ hb ↦ bne_iff_ne.mpr fun heq ↦ h (heq ▸ hb)

/-! ### Characters and bytes -/

namespace Text.Utf8

variable {n bits more : Nat} {low high : UInt8} {c : Char} {begun : Partial} {rest : List UInt8}

private theorem toNat_byte (h : n < 2 ^ 8) : (UInt8.ofNat n).toNat = n :=
  UInt8.toNat_ofNat_of_lt h

/-- A character that begins and ends with a byte. -/
theorem piecesFrom_of_char {byte : UInt8} (h : start? byte = some (.inl c)) :
    piecesFrom none (byte :: rest) = some c :: piecesFrom none rest := by
  simp only [piecesFrom, h]

/-- A character that begins with a byte. -/
theorem piecesFrom_of_begun {byte : UInt8} (h : start? byte = some (.inr begun)) :
    piecesFrom none (byte :: rest) = piecesFrom (some begun) rest := by
  simp only [piecesFrom, h]

/-- A byte in the range of a character that has begun adds six bits to it. -/
theorem piecesFrom_next (h : low.toNat ≤ n + 128 ∧ n + 128 ≤ high.toNat) :
    piecesFrom (some ⟨bits, more + 1, low, high⟩) (UInt8.ofNat (n + 128) :: rest) =
      piecesFrom (some ⟨bits * 64 + n, more, 0x80, 0xbf⟩) rest := by
  have hbyte := toNat_byte (Nat.lt_of_le_of_lt h.2 high.toNat_lt)
  simp only [piecesFrom, UInt8.le_iff_toNat_le, hbyte]
  rw [if_pos h, Nat.add_sub_cancel]

/-- The last byte of a character finishes it. -/
theorem piecesFrom_last (h : low.toNat ≤ n + 128 ∧ n + 128 ≤ high.toNat) :
    piecesFrom (some ⟨bits, 0, low, high⟩) (UInt8.ofNat (n + 128) :: rest) =
      some (Char.ofNat (bits * 64 + n)) :: piecesFrom none rest := by
  have hbyte := toNat_byte (Nat.lt_of_le_of_lt h.2 high.toNat_lt)
  simp only [piecesFrom, UInt8.le_iff_toNat_le, hbyte]
  rw [if_pos h, Nat.add_sub_cancel]

/-- Six bits make a byte in the range of all bytes behind the second. -/
theorem six_bits_in_range (h : n < 64) :
    (0x80 : UInt8).toNat ≤ n + 128 ∧ n + 128 ≤ (0xbf : UInt8).toNat := by
  simp only [UInt8.reduceToNat]
  omega

theorem start?_one (h : n < 128) : start? (UInt8.ofNat n) = some (.inl (Char.ofNat n)) := by
  have hbyte : (UInt8.ofNat n).toNat = n := toNat_byte (by omega)
  simp only [start?, UInt8.lt_iff_toNat_lt, hbyte, UInt8.reduceToNat]
  rw [if_pos h]

theorem start?_two (hlow : 2 ≤ n) (hhigh : n < 32) :
    start? (UInt8.ofNat (n + 192)) = some (.inr ⟨n, 0, 0x80, 0xbf⟩) := by
  have hbyte : (UInt8.ofNat (n + 192)).toNat = n + 192 := toNat_byte (by omega)
  simp only [start?, UInt8.lt_iff_toNat_lt, hbyte, UInt8.reduceToNat]
  rw [if_neg (by omega), if_neg (by omega), if_pos (by omega), Nat.add_sub_cancel]

theorem start?_three (h : n < 16) :
    start? (UInt8.ofNat (n + 224)) = some (.inr
      ⟨n, 1, if n = 0 then 0xa0 else 0x80, if n = 13 then 0x9f else 0xbf⟩) := by
  have hbyte : (UInt8.ofNat (n + 224)).toNat = n + 224 := toNat_byte (by omega)
  have hfirst : n + 224 = 224 ↔ n = 0 := by omega
  have hsurrogates : n + 224 = 237 ↔ n = 13 := by omega
  simp only [start?, UInt8.lt_iff_toNat_lt, ← UInt8.toNat_inj, hbyte, UInt8.reduceToNat, hfirst,
    hsurrogates]
  rw [if_neg (by omega), if_neg (by omega), if_neg (by omega), if_pos (by omega),
    Nat.add_sub_cancel]

theorem start?_four (h : n < 5) :
    start? (UInt8.ofNat (n + 240)) = some (.inr
      ⟨n, 2, if n = 0 then 0x90 else 0x80, if n = 4 then 0x8f else 0xbf⟩) := by
  have hbyte : (UInt8.ofNat (n + 240)).toNat = n + 240 := toNat_byte (by omega)
  have hfirst : n + 240 = 240 ↔ n = 0 := by omega
  have hlast : n + 240 = 244 ↔ n = 4 := by omega
  simp only [start?, UInt8.lt_iff_toNat_lt, ← UInt8.toNat_inj, hbyte, UInt8.reduceToNat, hfirst,
    hlast]
  rw [if_neg (by omega), if_neg (by omega), if_neg (by omega), if_neg (by omega),
    if_pos (by omega), Nat.add_sub_cancel]

/-- The bytes of a character are read as that character, and what follows them afresh. -/
theorem piecesFrom_utf8EncodeChar (c : Char) (rest : List UInt8) :
    piecesFrom none (String.utf8EncodeChar c ++ rest) = some c :: piecesFrom none rest := by
  have hvalid : c.val.toNat < 0xd800 ∨ 0xdfff < c.val.toNat ∧ c.val.toNat < 0x110000 := c.valid
  have hchar : Char.ofNat c.val.toNat = c := Char.ofNat_toNat c
  have hsix (m : Nat) : m % 64 < 64 := Nat.mod_lt _ (by decide)
  rw [String.utf8EncodeChar]
  generalize c.val.toNat = v at hvalid hchar ⊢
  subst hchar
  -- A character has one byte, two, three or four; of three or four, the range of the second byte
  -- depends on the first.
  split
  · rw [List.singleton_append, piecesFrom_of_char (start?_one (by omega))]
  split
  · have hbits : v / 64 % 32 * 64 + v % 64 = v := by omega
    rw [List.cons_append, List.singleton_append,
      piecesFrom_of_begun (start?_two (by omega) (by omega)),
      piecesFrom_last (six_bits_in_range (hsix _)), hbits]
  split
  · have hbits : (v / 4096 % 16 * 64 + v / 64 % 64) * 64 + v % 64 = v := by omega
    have hlow : (if v / 4096 % 16 = 0 then 0xa0 else 0x80 : UInt8).toNat ≤ v / 64 % 64 + 128 := by
      split <;> simp only [UInt8.reduceToNat] <;> omega
    have hhigh : v / 64 % 64 + 128 ≤ (if v / 4096 % 16 = 13 then 0x9f else 0xbf : UInt8).toNat := by
      split <;> simp only [UInt8.reduceToNat] <;> omega
    rw [List.cons_append, List.cons_append, List.singleton_append,
      piecesFrom_of_begun (start?_three (by omega)), piecesFrom_next ⟨hlow, hhigh⟩,
      piecesFrom_last (six_bits_in_range (hsix _)), hbits]
  · have hbits : ((v / 262144 % 8 * 64 + v / 4096 % 64) * 64 + v / 64 % 64) * 64 + v % 64 = v := by
      omega
    have hlow : (if v / 262144 % 8 = 0 then 0x90 else 0x80 : UInt8).toNat ≤
        v / 4096 % 64 + 128 := by
      split <;> simp only [UInt8.reduceToNat] <;> omega
    have hhigh : v / 4096 % 64 + 128 ≤
        (if v / 262144 % 8 = 4 then 0x8f else 0xbf : UInt8).toNat := by
      split <;> simp only [UInt8.reduceToNat] <;> omega
    rw [List.cons_append, List.cons_append, List.cons_append, List.singleton_append,
      piecesFrom_of_begun (start?_four (by omega)), piecesFrom_next ⟨hlow, hhigh⟩,
      piecesFrom_next (six_bits_in_range (hsix _)), piecesFrom_last (six_bits_in_range (hsix _)),
      hbits]

theorem pieces_encode (text : List Char) : pieces (encode text) = text.map some := by
  induction text with
  | nil => rfl
  | cons c rest ih =>
    show piecesFrom none (String.utf8EncodeChar c ++ encode rest) = _
    rw [piecesFrom_utf8EncodeChar]
    exact congrArg (some c :: ·) ih

/-- A text is read back from its bytes. -/
theorem decodeLossy_encode (text : List Char) : decodeLossy (encode text) = text := by
  rw [decodeLossy, pieces_encode, List.map_map]
  exact List.map_id text

/-- Of all characters only the null character has a zero byte. -/
theorem ne_zero_of_mem_utf8EncodeChar {byte : UInt8} (hc : c ≠ '\x00')
    (h : byte ∈ String.utf8EncodeChar c) : byte ≠ 0 := by
  have hbyte (m : Nat) (hm : m % 2 ^ 8 ≠ 0) : UInt8.ofNat m ≠ 0 := by
    rw [Ne, ← UInt8.toNat_inj, UInt8.toNat_ofNat']
    exact hm
  have hvalue : c.val.toNat ≠ 0 := fun hzero ↦ hc (Char.ext (UInt32.toNat_inj.mp hzero))
  rw [String.utf8EncodeChar] at h
  generalize c.val.toNat = v at hvalue h
  repeat' split at h
  all_goals
    simp only [List.mem_cons, List.not_mem_nil, or_false] at h
    rcases h with rfl | rfl | rfl | rfl <;> exact hbyte _ (by omega)

/-- Behind the bytes of a text stands a zero byte: the first one is that, or the text's first null
character. -/
theorem takeWhile_encode (text : List Char) (rest : List UInt8) :
    (encode text ++ 0 :: rest).takeWhile (· != 0) =
      encode (text.takeWhile (· != '\x00')) := by
  induction text with
  | nil => rfl
  | cons c more ih =>
    show (String.utf8EncodeChar c ++ encode more ++ 0 :: rest).takeWhile (· != 0) = _
    by_cases hc : c = '\x00'
    · subst hc
      rfl
    · have hkept : ∀ byte ∈ String.utf8EncodeChar c, (byte != 0) = true := fun byte hbyte ↦
        bne_iff_ne.mpr (ne_zero_of_mem_utf8EncodeChar hc hbyte)
      have htext : (c :: more).takeWhile (· != '\x00') = c :: more.takeWhile (· != '\x00') :=
        List.takeWhile_cons_of_pos (bne_iff_ne.mpr hc)
      rw [List.append_assoc, List.takeWhile_append_of_pos hkept, ih, htext]
      rfl

end Text.Utf8

/-! ### Bytes and words -/

namespace Bytecode

/-- A byte that is shifted by no more than three bytes stays in its word. -/
theorem toNat_shiftLeft_toUInt32 (byte : UInt8) {bits : UInt32} (h : bits.toNat ≤ 24) :
    (byte.toUInt32 <<< bits).toNat = 2 ^ bits.toNat * byte.toNat := by
  have hfits : 2 ^ bits.toNat * byte.toUInt32.toNat < 2 ^ 32 :=
    calc 2 ^ bits.toNat * byte.toNat
      _ < 2 ^ bits.toNat * 2 ^ 8 := Nat.mul_lt_mul_of_pos_left byte.toNat_lt (Nat.two_pow_pos _)
      _ ≤ 2 ^ 24 * 2 ^ 8 := Nat.mul_le_mul_right _ (Nat.pow_le_pow_right (by decide) h)
  exact toNat_shiftLeft_of_lt _ (Nat.lt_of_le_of_lt h (by decide)) hfits

theorem toNat_wordOfBytes (a b c d : UInt8) :
    (wordOfBytes a b c d).toNat =
      a.toNat + 2 ^ 8 * b.toNat + 2 ^ 16 * c.toNat + 2 ^ 24 * d.toNat := by
  have ha := a.toNat_lt
  have hb := b.toNat_lt
  have hc := c.toNat_lt
  rw [wordOfBytes, UInt32.toNat_or, UInt32.toNat_or, UInt32.toNat_or, UInt8.toNat_toUInt32,
    toNat_shiftLeft_toUInt32 b (by decide), toNat_shiftLeft_toUInt32 c (by decide),
    toNat_shiftLeft_toUInt32 d (by decide)]
  show a.toNat ||| 2 ^ 8 * b.toNat ||| 2 ^ 16 * c.toNat ||| 2 ^ 24 * d.toNat = _
  rw [or_two_pow_mul a.toNat ha, or_two_pow_mul (a.toNat + 2 ^ 8 * b.toNat) (by omega),
    or_two_pow_mul (a.toNat + 2 ^ 8 * b.toNat + 2 ^ 16 * c.toNat) (by omega)]

/-- The bytes of a word are those that it was packed from. -/
theorem wordBytes_wordOfBytes (a b c d : UInt8) :
    wordBytes (wordOfBytes a b c d) = [a, b, c, d] := by
  have ha := a.toNat_lt
  have hb := b.toNat_lt
  have hc := c.toNat_lt
  have hd := d.toNat_lt
  have hword := toNat_wordOfBytes a b c d
  have hbyte (byte : UInt8) {bits : UInt32} (hbits : bits.toNat < 32)
      (h : (wordOfBytes a b c d).toNat / 2 ^ bits.toNat % 2 ^ 8 = byte.toNat) :
      (wordOfBytes a b c d >>> bits).toUInt8 = byte := by
    rw [← UInt8.toNat_inj, UInt32.toNat_toUInt8, toNat_shiftRight_of_lt _ hbits, h]
  have hfirst : (wordOfBytes a b c d).toUInt8 = a := by
    rw [← UInt8.toNat_inj, UInt32.toNat_toUInt8, hword]
    omega
  have hsecond : (wordOfBytes a b c d >>> 8).toUInt8 = b := by
    apply hbyte b (by decide)
    simp only [hword, UInt32.reduceToNat]
    omega
  have hthird : (wordOfBytes a b c d >>> 16).toUInt8 = c := by
    apply hbyte c (by decide)
    simp only [hword, UInt32.reduceToNat]
    omega
  have hfourth : (wordOfBytes a b c d >>> 24).toUInt8 = d := by
    apply hbyte d (by decide)
    simp only [hword, UInt32.reduceToNat]
    omega
  rw [wordBytes, hfirst, hsecond, hthird, hfourth]

theorem codeBytes_cons (word : UInt32) (words : List UInt32) :
    codeBytes (word :: words) = wordBytes word ++ codeBytes words := List.flatMap_cons

theorem codeBytes_append (first second : List UInt32) :
    codeBytes (first ++ second) = codeBytes first ++ codeBytes second := List.flatMap_append

/-- The bytes of packed words are those that were packed, and zero bytes that fill the last word. -/
theorem codeBytes_packBytes (bytes : List UInt8) :
    ∃ n, codeBytes (packBytes bytes) = bytes ++ List.replicate n 0 := by
  fun_induction packBytes bytes with
  | case1 a b c d rest ih =>
    obtain ⟨n, hrest⟩ := ih
    exact ⟨n, by rw [codeBytes_cons, wordBytes_wordOfBytes, hrest]; rfl⟩
  | case2 a b c => exact ⟨1, by rw [codeBytes_cons, wordBytes_wordOfBytes]; rfl⟩
  | case3 a b => exact ⟨2, by rw [codeBytes_cons, wordBytes_wordOfBytes]; rfl⟩
  | case4 a => exact ⟨3, by rw [codeBytes_cons, wordBytes_wordOfBytes]; rfl⟩
  | case5 => exact ⟨0, rfl⟩

/-! ### Where strings end -/

/-- The bytes of the literal string at the beginning of some words: those before the first zero. -/
def literalBytes (words : List UInt32) : List UInt8 := (codeBytes words).takeWhile (· != 0)

/-- A word with a zero byte ends the string in its own bytes, of which it leaves at most three. -/
theorem literalBytes_of_zero_mem {word : UInt32} (h : 0 ∈ wordBytes word) (words : List UInt32) :
    literalBytes (word :: words) = (wordBytes word).takeWhile (· != 0) ∧
      (literalBytes (word :: words)).length < 4 := by
  have hshort : ((wordBytes word).takeWhile (· != 0)).length ≠ (wordBytes word).length := by
    intro heq
    have hall := (List.takeWhile_prefix (· != 0)).eq_of_length heq
    exact absurd (List.takeWhile_eq_self_iff.mp hall 0 h) (by decide)
  have hbytes : literalBytes (word :: words) = (wordBytes word).takeWhile (· != 0) := by
    rw [literalBytes, codeBytes_cons, List.takeWhile_append, if_neg hshort]
  refine ⟨hbytes, ?_⟩
  rw [hbytes]
  exact Nat.lt_of_le_of_ne (List.takeWhile_prefix _).length_le hshort

/-- A word without zero bytes is part of the string, which goes on behind it. -/
theorem literalBytes_of_zero_notMem {word : UInt32} (h : 0 ∉ wordBytes word)
    (words : List UInt32) :
    literalBytes (word :: words) = wordBytes word ++ literalBytes words := by
  rw [literalBytes, codeBytes_cons, List.takeWhile_append_of_pos (bne_of_notMem h)]
  rfl

/-- The bytes of a string are in its words. -/
theorem literalBytes_literalWords (words : List UInt32) :
    literalBytes (literalWords words) = literalBytes words := by
  fun_induction literalWords words with
  | case1 => rfl
  | case2 word rest hzero =>
    rw [(literalBytes_of_zero_mem hzero []).1, (literalBytes_of_zero_mem hzero rest).1]
  | case3 word rest hzero ih =>
    rw [literalBytes_of_zero_notMem hzero, literalBytes_of_zero_notMem hzero, ih]

/-- Counting by words agrees with counting by bytes: a string of `n` bytes takes the `n / 4 + 1`
words that hold them and a zero byte, or all words that there are. -/
theorem length_literalWords (words : List UInt32) :
    (literalWords words).length = min words.length ((literalBytes words).length / 4 + 1) := by
  fun_induction literalWords words with
  | case1 => rfl
  | case2 word rest hzero =>
    have hbytes := (literalBytes_of_zero_mem hzero rest).2
    rw [List.length_singleton, List.length_cons]
    omega
  | case3 word rest hzero ih =>
    have hfour : (wordBytes word).length = 4 := rfl
    rw [literalBytes_of_zero_notMem hzero, List.length_append, List.length_cons, List.length_cons,
      ih]
    omega

/-- The words of a string are the first ones. -/
theorem literalWords_prefix_words (words : List UInt32) : literalWords words <+: words := by
  fun_induction literalWords words with
  | case1 => exact List.prefix_rfl
  | case2 word rest hzero => exact ⟨rest, rfl⟩
  | case3 word rest hzero ih => exact (List.prefix_cons_inj word).mpr ih

/-- Of the words of a string at most the last one has a zero byte. -/
theorem zero_notMem_of_mem_dropLast (words : List UInt32) :
    ∀ word ∈ (literalWords words).dropLast, 0 ∉ wordBytes word := by
  fun_induction literalWords words with
  | case1 => exact fun _ h ↦ absurd h List.not_mem_nil
  | case2 word rest hzero => exact fun _ h ↦ absurd h List.not_mem_nil
  | case3 word rest hzero ih =>
    intro other hother
    by_cases hlast : literalWords rest = []
    · rw [hlast] at hother
      exact absurd hother List.not_mem_nil
    · rw [List.dropLast_cons_of_ne_nil hlast] at hother
      obtain rfl | hother := List.mem_cons.mp hother
      · exact hzero
      · exact ih other hother

/-- A string without a zero byte takes all words. -/
theorem literalWords_eq_self {words : List UInt32}
    (h : ∀ word ∈ literalWords words, 0 ∉ wordBytes word) : literalWords words = words := by
  fun_induction literalWords words with
  | case1 => rfl
  | case2 word rest hzero => exact absurd hzero (h word List.mem_cons_self)
  | case3 word rest hzero ih =>
    rw [ih fun other hother ↦ h other (List.mem_cons_of_mem _ hother)]

/-- The words of a string are a string. -/
theorem literalWords_literalWords (words : List UInt32) :
    literalWords (literalWords words) = literalWords words := by
  fun_induction literalWords words with
  | case1 => rfl
  | case2 word rest hzero => exact if_pos hzero
  | case3 word rest hzero ih => rw [literalWords, if_neg hzero, ih]

/-- A string with a zero byte ends there, whatever words follow. -/
theorem literalWords_append {words : List UInt32} (more : List UInt32)
    (h : ∃ word ∈ literalWords words, 0 ∈ wordBytes word) :
    literalWords (words ++ more) = literalWords words := by
  fun_induction literalWords words with
  | case1 => obtain ⟨_, hword, _⟩ := h; exact absurd hword List.not_mem_nil
  | case2 word rest hzero => exact if_pos hzero
  | case3 word rest hzero ih =>
    obtain ⟨other, hother, hends⟩ := h
    obtain rfl | hother := List.mem_cons.mp hother
    · exact absurd hends hzero
    · rw [List.cons_append, literalWords, if_neg hzero, ih ⟨other, hother, hends⟩]

theorem length_packBytes (bytes : List UInt8) :
    (packBytes bytes).length = (bytes.length + 3) / 4 := by
  fun_induction packBytes bytes with
  | case1 a b c d rest ih =>
    simp only [List.length_cons, ih]
    omega
  | case2 | case3 | case4 | case5 => simp

/-- The words of a string of any length are counted by its bytes. -/
theorem length_encodeString (text : String) :
    (encodeString text).length = (Text.Utf8.encode text.toList).length / 4 + 1 := by
  rw [encodeString, length_packBytes, List.length_append, List.length_singleton]
  omega

theorem literalBytes_encodeString (text : String) (rest : List UInt32) :
    literalBytes (encodeString text ++ rest) =
      Text.Utf8.encode (text.toList.takeWhile (· != '\x00')) := by
  obtain ⟨n, hpacked⟩ := codeBytes_packBytes (Text.Utf8.encode text.toList ++ [0])
  rw [literalBytes, codeBytes_append, encodeString, hpacked, List.append_assoc, List.append_assoc,
    List.singleton_append, Text.Utf8.takeWhile_encode]

/-! ### Strings in instructions -/

/-- A literal string is read as its text up to the first null character, whatever words follow. -/
theorem literalText_encodeString (text : String) (rest : List UInt32) :
    literalText (encodeString text ++ rest) = text.toList.takeWhile (· != '\x00') :=
  (congrArg Text.Utf8.decodeLossy (literalBytes_encodeString text rest)).trans
    (Text.Utf8.decodeLossy_encode _)

/-- A literal string is read from its words. -/
theorem literalText_literalWords (words : List UInt32) :
    literalText (literalWords words) = literalText words :=
  congrArg Text.Utf8.decodeLossy (literalBytes_literalWords words)

namespace Instruction

/-- A literal string that stands in an instruction is read as its text up to the first null
character. -/
theorem stringAt_of_drop {instruction : Instruction} {index : Nat} {text : String}
    {rest : List UInt32} (h : instruction.words.drop index = encodeString text ++ rest) :
    instruction.stringAt index = String.ofList (text.toList.takeWhile (· != '\x00')) := by
  rw [stringAt, h, literalText_encodeString]

/-- A literal string without null characters is read back. -/
theorem stringAt_of_drop_of_not_mem {instruction : Instruction} {index : Nat} {text : String}
    {rest : List UInt32} (h : instruction.words.drop index = encodeString text ++ rest)
    (hnull : '\x00' ∉ text.toList) : instruction.stringAt index = text := by
  rw [stringAt_of_drop h, List.takeWhile_eq_self_iff.mpr (bne_of_notMem hnull),
    String.ofList_toList]

/-- A literal string without null characters takes the words that it was written as. -/
theorem length_literalWords_encodeString {text : String} (hnull : '\x00' ∉ text.toList)
    (rest : List UInt32) :
    (literalWords (encodeString text ++ rest)).length = (encodeString text).length := by
  rw [length_literalWords, literalBytes_encodeString,
    List.takeWhile_eq_self_iff.mpr (bne_of_notMem hnull), ← length_encodeString,
    List.length_append]
  omega

/-- The words that the literal string at an index takes. -/
def stringWords (instruction : Instruction) (index : Nat) : List UInt32 :=
  (instruction.words.drop index).take (instruction.stringWordLength index)

theorem stringWords_eq_literalWords (instruction : Instruction) (index : Nat) :
    instruction.stringWords index = literalWords (instruction.words.drop index) :=
  (List.prefix_iff_eq_take.mp (literalWords_prefix_words _)).symm

/-- A literal string that stands in an instruction is read as its text up to the first null
character, and takes as many words as it was written with if it has none. Whatever words there are,
what is read at an index depends on nothing but the words that it is said to take, of which none but
the last has a zero byte. If that one has, the words are read alike wherever they stand and whatever
follows them; if not, they run to the end of the instruction. -/
theorem strings_read_and_measured :
    (∀ (before after : List UInt32) (text : String),
      let instruction : Instruction := ⟨before ++ (encodeString text ++ after)⟩
      instruction.stringAt before.length =
          String.ofList (text.toList.takeWhile (· != '\x00')) ∧
        ('\x00' ∉ text.toList →
          instruction.stringWordLength before.length = (encodeString text).length)) ∧
    ∀ (instruction : Instruction) (index : Nat),
      let own := instruction.stringWords index
      own.length = instruction.stringWordLength index ∧
        instruction.stringAt index = (Instruction.mk own).stringAt 0 ∧
        (∀ word ∈ own.dropLast, 0 ∉ wordBytes word) ∧
        ((∃ word ∈ own, 0 ∈ wordBytes word) →
          ∀ (other : Instruction) (place : Nat), own <+: other.words.drop place →
            other.stringAt place = instruction.stringAt index ∧ other.stringWords place = own) ∧
        ((∀ word ∈ own, 0 ∉ wordBytes word) → own = instruction.words.drop index) := by
  constructor
  · intro before after text
    have hdrop : (before ++ (encodeString text ++ after)).drop before.length =
        encodeString text ++ after := List.drop_left
    refine ⟨stringAt_of_drop hdrop, fun hnull ↦ ?_⟩
    rw [stringWordLength, hdrop, length_literalWords_encodeString hnull]
  · intro instruction index
    dsimp only
    rw [stringWords_eq_literalWords]
    refine ⟨rfl, congrArg String.ofList (literalText_literalWords _).symm,
      zero_notMem_of_mem_dropLast _, ?_, literalWords_eq_self⟩
    -- A string that ends in its words is its own words' string, with or without words behind.
    rintro hends other place ⟨more, hmore⟩
    have hself := literalWords_literalWords (instruction.words.drop index)
    have hwords : literalWords (other.words.drop place) =
        literalWords (instruction.words.drop index) := by
      rw [← hmore, literalWords_append more (by rwa [hself]), hself]
    refine ⟨congrArg String.ofList ?_, (stringWords_eq_literalWords other place).trans hwords⟩
    rw [← literalText_literalWords, hwords, literalText_literalWords]

/-- The declaration of a compute entry point: its name stands behind the execution model and the
identifier of its function, and before the identifiers of its interface. -/
def computeEntryPoint : Instruction :=
  ⟨[0x0007000f, 5, 2] ++ (encodeString "main" ++ [7, 8])⟩

/-- The name of the entry point, and the same words at the beginning of other code. -/
theorem strings_read_and_measured_entry_point :
    '\x00' ∉ "main".toList ∧ computeEntryPoint.stringAt 3 = "main" ∧
      computeEntryPoint.stringWordLength 3 = 2 ∧
      (∃ word ∈ computeEntryPoint.stringWords 3, 0 ∈ wordBytes word) ∧
      computeEntryPoint.stringWords 3 <+: encodeString "main" ++ [9] ∧
      (Instruction.mk (encodeString "main" ++ [9])).stringAt 0 = "main" := by
  obtain ⟨hread, hlength⟩ := strings_read_and_measured.1 [0x0007000f, 5, 2] [7, 8] "main"
  obtain ⟨-, -, -, hmoved, -⟩ := strings_read_and_measured.2 computeEntryPoint 3
  have hnull : '\x00' ∉ "main".toList := by decide
  have hmain : computeEntryPoint.stringAt 3 = "main" := hread.trans (by decide +kernel)
  have hends : ∃ word ∈ computeEntryPoint.stringWords 3, 0 ∈ wordBytes word := by
    decide +kernel
  have hplace : computeEntryPoint.stringWords 3 <+: encodeString "main" ++ [9] := by
    decide +kernel
  exact ⟨hnull, hmain, (hlength hnull).trans (by decide +kernel), hends, hplace,
    (hmoved hends ⟨encodeString "main" ++ [9]⟩ 0 hplace).1.trans hmain⟩

end Instruction

end Bytecode

end ShaderGuard
