import ShaderGuard.Log
import ShaderGuard.Log.Calendar

/-!
Log entries as lines for a console.

A line reads `[time] [SEVERITY] [source] {class} text (file:line)`, of which the class and the
place are left out where there is none. On a console with colour the severity, the source and the
class are painted.
-/

set_option autoImplicit false

namespace ShaderGuard.Log

/-- A number with leading zeros, at least `width` digits. -/
def padded (width n : Nat) : String :=
  let digits := Nat.toDigits 10 n
  String.ofList (List.replicate (width - digits.length) '0' ++ digits)

/-- The time `seconds` and `nanoseconds` after the start of 1970, to the millisecond: what is less
than a millisecond is cut off. A year of five digits or more has a plus sign. -/
def timestamp (seconds nanoseconds : Nat) : String :=
  let second := seconds + nanoseconds / 1000000000
  let millisecond := nanoseconds % 1000000000 / 1000000
  let date := Date.ofDay (second / 86400)
  let inDay := second % 86400
  let sign := if date.year < 10000 then "" else "+"
  let hour := inDay / 3600
  let minute := inDay / 60 % 60
  s!"{sign}{padded 4 date.year}-{padded 2 date.month}-{padded 2 date.day} " ++
    s!"{padded 2 hour}:{padded 2 minute}:{padded 2 (inDay % 60)}.{padded 3 millisecond}"

/-- The word for a severity, five characters wide. -/
def severityWord : Severity → String
  | .trace => "TRACE"
  | .debug => "DEBUG"
  | .info => "INFO "
  | .warning => "WARN "
  | .error => "ERROR"

/-- The terminal's number for the style of a severity. -/
def severityStyle : Severity → String
  | .trace => "90"
  | .debug => "36"
  | .info => "32"
  | .warning => "33"
  | .error => "1;31"

/-- The terminal's sequence that ends a style. -/
def styleEnd : String := "\x1b[0m"

/-- A text between the start and the end of a style. Where the text itself ends a style, the style
starts again. -/
def paint (color : Bool) (style text : String) : String :=
  if color then
    let start := s!"\x1b[{style}m"
    start ++ text.replace styleEnd (styleEnd ++ start) ++ styleEnd
  else text

/-- What a console line shows. -/
structure ConsoleEntry where
  severity : Severity
  source : String
  /-- The identifier of the message class. -/
  id : Option String
  text : String
  /-- The file and the line of the program in which the entry arose. -/
  file : Option String
  line : Option UInt32

/-- The line without its time: what stands behind the first bracket and a blank. -/
def consoleBody (color : Bool) (entry : ConsoleEntry) : String :=
  let severity := paint color (severityStyle entry.severity) (severityWord entry.severity)
  let source := paint color "94" entry.source
  let id := match entry.id with
    | some id => paint color "35" ("\x7b" ++ id ++ "\x7d ")
    | none => ""
  let place := match entry.file, entry.line with
    | some file, some line => s!" ({file}:{line.toNat})"
    | _, _ => ""
  s!"[{severity}] [{source}] {id}{entry.text}{place}\n"

/-- The whole line, with the line feed. -/
def consoleLine (color : Bool) (seconds nanoseconds : Nat) (entry : ConsoleEntry) : String :=
  s!"[{timestamp seconds nanoseconds}] " ++ consoleBody color entry

end ShaderGuard.Log
