import ShaderGuard.Fault

/-!
Log entries.

Every part of the library reports by returning entries, in the order in which they arise; what is
done with them is the caller's affair. An entry of a report that an application may filter carries
a message class. A note is an entry without one: it is all that a device may add to the log.
-/

set_option autoImplicit false

namespace ShaderGuard

/-- How serious an entry is. -/
inductive Severity where
  | trace
  | debug
  | info
  | warning
  | error
  deriving DecidableEq

/-- All severities, the least first. -/
def Severity.all : List Severity := [.trace, .debug, .info, .warning, .error]

/-- The name of a severity. -/
def Severity.name : Severity → String
  | .trace => "trace"
  | .debug => "debug"
  | .info => "info"
  | .warning => "warn"
  | .error => "error"

/-- The classes of reports that an application may filter by. -/
inductive MessageClass where
  /-- Instrumentation is being switched off. -/
  | internalError
  /-- Something will not be covered by instrumentation. -/
  | internalWarning
  /-- As `internalError`, where only printing from shaders is in use. -/
  | printfError
  /-- As `internalWarning`, where only printing from shaders is in use. -/
  | printfWarning
  /-- The optimizer complains about an instrumented shader. -/
  | instrumentationError
  deriving DecidableEq

/-- All message classes. -/
def MessageClass.all : List MessageClass :=
  [.internalError, .internalWarning, .printfError, .printfWarning, .instrumentationError]

/-- The identifier under which reports of a class are sent. -/
def MessageClass.id : MessageClass → String
  | .internalError => "UNASSIGNED-GPU-Assisted-Validation"
  | .internalWarning => "WARNING-GPU-Assisted-Validation"
  | .printfError => "UNASSIGNED-DEBUG-PRINTF"
  | .printfWarning => "WARNING-DEBUG-PRINTF"
  | .instrumentationError => "UNASSIGNED-GPU-Assisted"

/-- A log entry without a message class. -/
structure Note where
  severity : Severity
  /-- The part of the program, or the call, that reports. -/
  source : String
  text : String
  deriving DecidableEq

/-- A log entry. -/
structure Entry where
  severity : Severity
  /-- The part of the program, or the call, that reports. -/
  source : String
  /-- The message class of a report. -/
  messageClass : Option MessageClass
  text : String
  deriving DecidableEq

/-- A note as an entry of the log. -/
def Note.entry (note : Note) : Entry := ⟨note.severity, note.source, none, note.text⟩

/-- Whether an entry says where in the program it arose: errors do, nothing else does. -/
def Entry.isLocated (entry : Entry) : Bool := entry.severity = .error

/-- A report of a class. -/
def Entry.report (severity : Severity) (source : String) (messageClass : MessageClass)
    (text : String) : Entry :=
  ⟨severity, source, some messageClass, text⟩

/-- An entry without a class. -/
def Entry.plain (severity : Severity) (source text : String) : Entry :=
  ⟨severity, source, none, text⟩

/-- A value, and what was logged while it was made. -/
structure Logged (α : Type) where
  value : α
  log : List Entry

/-- A failed call to the device: what is logged, and the fault with the same text. -/
def Note.backendFailure (source text : String) : Note × Fault :=
  (⟨.error, source, text⟩, .backend text)

end ShaderGuard
