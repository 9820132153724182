import ShaderGuard.Bytecode.Literal
import ShaderGuard.Table
import ShaderGuard.Text.Lines

/-!
The place in the source text that an instruction of a shader comes from.

A module may carry its source in two ways. In the first, strings name files, source instructions
give their text, possibly continued, and a line instruction names file, line and column. In the
second these are extended instructions of an imported set: a debug source names the strings of file
and text, and a debug line names the constants of line and column. Either line instruction is a
marker that holds from where it stands up to the end of the function.

`DebugInfo.scan` reads a run of instructions; the place of an instruction is what stands in force at
the end of the run up to it (`locate`).
-/

set_option autoImplicit false

namespace ShaderGuard.Bytecode

/-- The name of the imported set with debug sources and debug lines. -/
def debugSetName : String := "NonSemantic.Shader.DebugInfo.100"

/-- The number of a debug source in its set. -/
def debugSourceNumber : UInt32 := 35

/-- The number of a debug line in its set. -/
def debugLineNumber : UInt32 := 103

/-- A line marker. -/
inductive LineMarker where
  /-- A line instruction: the identifier of the file's name, the line and the column. -/
  | line (file line column : UInt32)
  /-- A debug line: the identifiers of the debug source and of the constants for line and
  column. -/
  | debugLine (source line column : UInt32)
  deriving DecidableEq

/-- A debug source: the identifiers of the strings with the file's name and with the text. -/
structure DebugSource where
  file : UInt32
  text : Option UInt32
  deriving DecidableEq

/-- What a run of instructions says about source text. Of two definitions of one identifier the
later counts. -/
structure DebugInfo where
  strings : Table UInt32 String := .empty
  constants : Table UInt32 UInt32 := .empty
  debugSources : Table UInt32 DebugSource := .empty
  /-- The text of each file that a source instruction embeds, by the file's identifier. -/
  sourceTexts : Table UInt32 String := .empty
  /-- The identifier of the imported set with debug sources and debug lines. -/
  debugSet : Option UInt32 := none
  /-- The file that the latest source instruction embeds: the one that is continued. -/
  openSource : Option UInt32 := none
  /-- The marker in force. -/
  marker : Option LineMarker := none

namespace DebugInfo

/-- An import, which matters if it is the set with debug sources and debug lines. -/
def addImport (info : DebugInfo) (instruction : Instruction) : DebugInfo :=
  if instruction.stringAt 2 = debugSetName then
    { info with debugSet := some (instruction.word 1) }
  else info

/-- A string. -/
def addString (info : DebugInfo) (instruction : Instruction) : DebugInfo :=
  { info with strings := info.strings.insert (instruction.word 1) (instruction.stringAt 2) }

/-- A constant, which matters if its value takes one word. -/
def addConstant (info : DebugInfo) (instruction : Instruction) : DebugInfo :=
  if instruction.wordCount = 4 then
    { info with constants := info.constants.insert (instruction.word 2) (instruction.word 3) }
  else info

/-- A source instruction, which opens the text of its file if it names one. -/
def addSource (info : DebugInfo) (instruction : Instruction) : DebugInfo :=
  if 3 < instruction.wordCount then
    let file := instruction.word 3
    let text := if 4 < instruction.wordCount then instruction.stringAt 4 else ""
    { info with sourceTexts := info.sourceTexts.insert file text, openSource := some file }
  else { info with openSource := none }

/-- More text of the file that is open. -/
def continueSource (info : DebugInfo) (instruction : Instruction) : DebugInfo :=
  match info.openSource with
  | none => info
  | some file =>
    match info.sourceTexts.get? file with
    | none => info
    | some text =>
      { info with sourceTexts := info.sourceTexts.insert file (text ++ instruction.stringAt 1) }

/-- An extended instruction, which matters if it is a debug source or a debug line of the set in
use. -/
def addExtended (info : DebugInfo) (instruction : Instruction) : DebugInfo :=
  if info.debugSet = some (instruction.word 3) then
    if instruction.word 4 = debugSourceNumber then
      let text := if 6 < instruction.wordCount then some (instruction.word 6) else none
      { info with
        debugSources := info.debugSources.insert (instruction.word 2) ⟨instruction.word 5, text⟩ }
    else if instruction.word 4 = debugLineNumber then
      { info with
        marker := some (.debugLine (instruction.word 5) (instruction.word 6)
          (instruction.word 8)) }
    else info
  else info

/-- One instruction, by its opcode. -/
def step (info : DebugInfo) (instruction : Instruction) : DebugInfo :=
  match instruction.opcode with
  | .sourceContinued => info.continueSource instruction
  | .source => info.addSource instruction
  | .string => info.addString instruction
  | .line =>
    { info with
      marker := some (.line (instruction.word 1) (instruction.word 2) (instruction.word 3)) }
  | .importSet => info.addImport instruction
  | .extended => info.addExtended instruction
  | .constant => info.addConstant instruction
  | .functionEnd => { info with marker := none }
  | _ => info

/-- What a run of instructions says. -/
def scan (run : List Instruction) : DebugInfo := run.foldl step {}

theorem scan_append (first second : List Instruction) :
    scan (first ++ second) = second.foldl step (scan first) := List.foldl_append

end DebugInfo

/-- A place in a source text. -/
structure SourceLocation where
  file : Option String
  line : UInt32
  column : UInt32
  /-- The text of the whole file. -/
  text : Option String
  deriving DecidableEq

/-- The place that a marker names. A constant that is not defined counts as zero. -/
def DebugInfo.resolve (info : DebugInfo) : LineMarker → SourceLocation
  | .line file line column =>
    ⟨info.strings.get? file, line, column, info.sourceTexts.get? file⟩
  | .debugLine source line column =>
    let value (constant : UInt32) := (info.constants.get? constant).getD 0
    let source := info.debugSources.get? source
    { file := source.bind fun source ↦ info.strings.get? source.file
      line := value line
      column := value column
      text := (source.bind DebugSource.text).bind info.strings.get? }

/-- The instructions of code up to the one at a position, and all if there are fewer. -/
def runUpTo (code : Code) (position : UInt32) : List Instruction :=
  (instructions code).take (position.toNat + 1)

/-- The place that the instruction at a position comes from, if a marker is in force there. -/
def locate (code : Code) (position : UInt32) : Option SourceLocation :=
  let info := DebugInfo.scan (runUpTo code position)
  info.marker.map info.resolve

/-- The line that a place names, in its text. Lines are counted from one. -/
def SourceLocation.sourceLine (location : SourceLocation) : Option String :=
  if location.line = 0 then none
  else
    location.text.bind fun text ↦
      ((Text.lines text.toList)[location.line.toNat - 1]?).map fun line ↦
        String.ofList (Text.trimEnd line)

/-- A place in words, with its line of source behind it. -/
def SourceLocation.describe (location : SourceLocation) : String :=
  let file := match location.file with
    | some file => s!"in file {file} "
    | none => ""
  let column := if location.column = 0 then "" else s!", column {location.column.toNat}"
  let source := match location.sourceLine with
    | some line => s!"{location.line.toNat}: {line}\n"
    | none => ""
  s!"{file}at line {location.line.toNat}{column}\n{source}"

/-- The part of a report that says where in its source a shader went wrong. -/
def sourceMessage (code : Code) (position : UInt32) (printfOnly : Bool) : String :=
  let place := match locate code position with
    | none => "Unable to source. Build shader with debug info to get source information.\n"
    | some location =>
      (if printfOnly then "Debug shader printf message generated "
        else "Shader validation error occurred ") ++ location.describe
  s!"SPIR-V Instruction Index = {position.toNat}\n" ++ place

end ShaderGuard.Bytecode
