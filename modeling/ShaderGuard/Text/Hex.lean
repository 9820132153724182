/-!
Hexadecimal numbers.
-/

set_option autoImplicit false

namespace ShaderGuard.Text

/-- A number in lowercase hexadecimal without leading zeros; zero is `0`. -/
def hex (n : Nat) : String := String.ofList (Nat.toDigits 16 n)

/-- A number in lowercase hexadecimal behind `0x`. -/
def prefixedHex (n : Nat) : String := "0x" ++ hex n

end ShaderGuard.Text
