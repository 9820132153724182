import ShaderGuard.Table
import ShaderGuard.Text.Utf8

/-!
The names that an application gives to its objects for debugging.
-/

set_option autoImplicit false

namespace ShaderGuard.Vulkan

/-- The names of objects by handle. No name is empty. -/
abbrev NameTable := Table UInt64 String

namespace NameTable

/-- Name an object. An empty name, or none, takes its name away. -/
def setName (names : NameTable) (handle : UInt64) (name : Option String) : NameTable :=
  match name with
  | none => names.erase handle
  | some text => if text = "" then names.erase handle else names.insert handle text

/-- Name an object with the bytes before the first zero. What is not UTF-8 is no name. -/
def setBytes (names : NameTable) (handle : UInt64) (bytes : Option (List UInt8)) : NameTable :=
  names.setName handle
    ((bytes.bind fun bytes ↦ Text.Utf8.decode? (bytes.takeWhile (· != 0))).map String.ofList)

/-- Forget the name of an object. -/
def forget (names : NameTable) (handle : UInt64) : NameTable := names.setName handle none

end NameTable

end ShaderGuard.Vulkan
