import ShaderGuard.Platform
import ShaderGuard.Simulation.Markers
import ShaderGuard.Simulation.World

/-!
A platform in memory: a world, a toolchain on marker words, and files in two directories.
-/

set_option autoImplicit false

namespace ShaderGuard.Simulation

/-- Files with their code, by path. -/
abbrev Files := List (String × Code)

/-- The file that a path names. There are two directories: the one that the program runs in, and
`out` in it. Empty parts of a path and dots lead nowhere else; a path from the root names nothing
here. -/
def place? (path : String) : Option String :=
  match path.splitOn "/" with
  | "" :: _ => none
  | parts =>
    match parts.filter fun part ↦ part != "" && part != "." with
    | [name] => some name
    | ["out", name] => some s!"out/{name}"
    | _ => none

/-- Write a file, in place of one that the path named before. -/
def writeFile (path : String) (code : Code) (files : Files) : Except String Unit × Files :=
  match place? path with
  | some place => (.ok (), (place, code) :: files.filter fun file ↦ file.1 != place)
  | none => (.error "No such file or directory (os error 2)", files)

/-- The platform, with a device of its own or behind a Vulkan driver. -/
abbrev platform (vulkan : Bool) (script : ToolScript) : Platform :=
  { DeviceState := World
    device := if vulkan then Vulkan.device World.driver 0 else World.device
    ToolState := List ToolCall
    tools := script.tools
    StorageState := Files
    storage := ⟨writeFile⟩ }

end ShaderGuard.Simulation
