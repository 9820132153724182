import ShaderGuard.Bytecode.Fingerprint
import ShaderGuard.Table

/-!
The instrumented shaders that are alive, by identifier.

An entry says who owns a shader, a pipeline or a shader object, which module its code came from, and
what that code was: the positions in a report refer to it. When an owner or a module is destroyed
its entries go with it.
-/

set_option autoImplicit false

namespace ShaderGuard

open Bytecode (ShaderId)

/-- An instrumented shader. -/
structure InstrumentedShader where
  /-- The pipeline or pipeline library that owns the shader; null for a shader object's. -/
  pipeline : PipelineHandle
  /-- The module that the code came from; null for a shader object's. -/
  module : ModuleHandle
  /-- The shader object that owns the shader; null for a pipeline's. -/
  object : ShaderObjectHandle
  /-- The code that positions in reports refer to. -/
  code : Code
  deriving DecidableEq

/-- The instrumented shaders by identifier. -/
abbrev Registry := Table ShaderId InstrumentedShader

namespace Registry

/-- The entries that a test accepts. -/
def select (registry : Registry) (test : InstrumentedShader → Bool) :
    List (ShaderId × InstrumentedShader) :=
  registry.entries.filter fun entry ↦ test entry.2

/-- Remove the entries that a test accepts. -/
def eraseWhere (registry : Registry) (test : InstrumentedShader → Bool) : Registry :=
  registry.filter fun _ shader ↦ !test shader

/-- Remove the entries that a test accepts, and count them. -/
def takeWhere (registry : Registry) (test : InstrumentedShader → Bool) : Nat × Registry :=
  ((registry.select test).length, registry.eraseWhere test)

/-- Remove the entries that a pipeline owns, and count them. -/
def erasePipeline (registry : Registry) (pipeline : PipelineHandle) : Nat × Registry :=
  registry.takeWhere fun shader ↦ shader.pipeline = pipeline

/-- Remove the entries whose code came from a module, and count them. -/
def eraseModule (registry : Registry) (module : ModuleHandle) : Nat × Registry :=
  registry.takeWhere fun shader ↦ shader.module = module

/-- Remove the entries that a shader object owns, and count them. -/
def eraseObject (registry : Registry) (object : ShaderObjectHandle) : Nat × Registry :=
  registry.takeWhere fun shader ↦ shader.object = object

theorem get?_eraseWhere (registry : Registry) (test : InstrumentedShader → Bool) (id : ShaderId) :
    (registry.eraseWhere test).get? id = (registry.get? id).filter fun shader ↦ !test shader :=
  Table.get?_filter registry (fun _ shader ↦ !test shader) id

private theorem length_filter_add_length_filter_not {α : Type} (test : α → Bool) (xs : List α) :
    (xs.filter test).length + (xs.filter fun x ↦ !test x).length = xs.length := by
  induction xs with
  | nil => rfl
  | cons x rest ih =>
    cases h : test x <;> simp [h] <;> omega

/-- Each entry is either removed or kept. -/
theorem length_select_add_size_eraseWhere (registry : Registry)
    (test : InstrumentedShader → Bool) :
    (registry.select test).length + (registry.eraseWhere test).size = registry.size :=
  length_filter_add_length_filter_not (fun entry : ShaderId × InstrumentedShader ↦ test entry.2)
    registry.entries

/-- No entry is left that the test accepts. -/
@[simp] theorem select_eraseWhere (registry : Registry) (test : InstrumentedShader → Bool) :
    (registry.eraseWhere test).select test = [] := by
  simp [select, eraseWhere, Table.filter, List.filter_filter]

end Registry

end ShaderGuard
