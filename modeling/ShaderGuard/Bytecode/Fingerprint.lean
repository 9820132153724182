import ShaderGuard.Bytecode.Literal

/-!
The fingerprint of shader code.

The bytes of the code are folded into two 64-bit lanes, sixteen bytes at a time, by multiplying to
128 bits and adding the halves without carry. The result and the number of words are then absorbed
by a multiplicative hash, of which 32 bits are kept.
-/

set_option autoImplicit false

namespace ShaderGuard.Bytecode

/-- The identifier of an instrumented shader: its fingerprint, or a number counted up. -/
abbrev ShaderId := UInt32

namespace Fingerprint

/-- The low and the high half of a 128-bit product, combined by exclusive or. -/
def mix (x y : UInt64) : UInt64 :=
  let product := x.toNat * y.toNat
  UInt64.ofNat product ^^^ UInt64.ofNat (product >>> 64)

/-- The number that bytes write, least significant first. -/
def readBytes (bytes : List UInt8) : UInt64 :=
  bytes.foldr (fun byte number ↦ (number <<< 8) ||| byte.toUInt64) 0

/-- Two lanes of 64 bits. -/
structure Lanes where
  first : UInt64
  second : UInt64

/-- The lanes at the start. -/
def seed : Lanes := ⟨0x243f6a8885a308d3, 0x13198a2e03707344⟩

/-- Absorb sixteen bytes: the second lane moves up and the mixed word takes its place. -/
def absorb (lanes : Lanes) (x y : UInt64) : Lanes :=
  ⟨lanes.second, mix (lanes.first ^^^ x) (0xa4093822299f31d0 ^^^ y)⟩

/-- Absorb as many whole groups of sixteen bytes as there are. -/
def absorbGroups (lanes : Lanes) (groups : Nat) (bytes : List UInt8) : Lanes :=
  match groups with
  | 0 => lanes
  | groups + 1 =>
    absorbGroups (absorb lanes (readBytes (bytes.take 8)) (readBytes ((bytes.drop 8).take 8)))
      groups (bytes.drop 16)

/-- Combine both lanes with two final words. -/
def close (lanes : Lanes) (x y : UInt64) : UInt64 := mix (lanes.first ^^^ x) (lanes.second ^^^ y)

/-- The digest of a byte string. Up to sixteen bytes, the two final words are the first and the
last eight bytes, or the first and the last four, and so overlap. From there on they are the last
sixteen bytes, and all bytes but the last are absorbed before them in whole groups. -/
def digest (bytes : List UInt8) : UInt64 :=
  let length := bytes.length
  let last (count : Nat) := readBytes ((bytes.drop (length - count)).take count)
  let closed :=
    if length ≤ 16 then
      if 8 ≤ length then close seed (readBytes (bytes.take 8)) (last 8)
      else if 4 ≤ length then close seed (readBytes (bytes.take 4)) (last 4)
      else close seed 0 0
    else
      close (absorbGroups seed ((length - 1) / 16) bytes)
        (readBytes ((bytes.drop (length - 16)).take 8)) (last 8)
  closed ^^^ UInt64.ofNat length

/-- The factor of the multiplicative hash. -/
def factor : UInt64 := 0xf1357aea2e62a9c5

/-- Turn a word to the left by 26 bits. -/
def rotate (x : UInt64) : UInt64 := (x <<< 26) ||| (x >>> 38)

end Fingerprint

open Fingerprint

/-- The fingerprint of code. It depends on the words alone. -/
def fingerprint (code : Code) : ShaderId :=
  let state := (digest (codeBytes code) * factor + UInt64.ofNat code.length) * factor
  let turned := rotate state
  (turned ^^^ (turned >>> 32)).toUInt32

end ShaderGuard.Bytecode
