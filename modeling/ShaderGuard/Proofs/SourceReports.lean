import ShaderGuard.Bytecode.SourceLocation
import ShaderGuard.Proofs.TextLines

/-!
# The words of a report

A report about the source begins with the position of an instruction. Behind it stands that no place
in the source is known (`unplacedMessage`), or which place it is: its file, its line, its column,
and in a line of its own what the text of the file reads there. `Reports` gives these words. Which
line of the text is meant is said by the line feeds of the text (`QuotesLine`), and a file that is
not known, a column zero and a line that the text does not have are left out.

Exactly one text reports a place, and it is what is written for it (`reports_iff`). It differs from
what is written where no place is known (`placedMessage_ne_unplacedMessage`).
-/

set_option autoImplicit false

namespace ShaderGuard.Bytecode

/-! ### What is written -/

/-- The first line about the source. -/
def indexLine (position : UInt32) : String := s!"SPIR-V Instruction Index = {position.toNat}\n"

/-- What is said about the source of an instruction at which no marker is in force. -/
def unplacedMessage (position : UInt32) : String :=
  indexLine position ++
    "Unable to source. Build shader with debug info to get source information.\n"

/-- What is said about a place, behind the first line. -/
def placeText (printfOnly : Bool) (location : SourceLocation) : String :=
  (if printfOnly then "Debug shader printf message generated "
    else "Shader validation error occurred ") ++ location.describe

/-- What is said about the source of an instruction that comes from some place. -/
def placedMessage (position : UInt32) (printfOnly : Bool) (location : SourceLocation) : String :=
  indexLine position ++ placeText printfOnly location

theorem placedMessage_ne_unplacedMessage (position : UInt32) (printfOnly : Bool)
    (location : SourceLocation) :
    placedMessage position printfOnly location ≠ unplacedMessage position := by
  intro heq
  have htexts := congrArg String.toList heq
  simp only [placedMessage, placeText, unplacedMessage, String.toList_append] at htexts
  have hplace := congrArg List.head? (List.append_cancel_left htexts)
  cases printfOnly <;> simp at hplace

/-! ### What is to be read -/

/-- The line of source at the end of a report: what the line of the text reads that a place names,
behind its number, and nothing if the place has no text or the text no such line. -/
def QuotesLine (place : SourceLocation) (source : String) : Prop :=
  (∃ (text : String) (line : List Char) (shown : String), place.text = some text ∧
    Text.HasLine text.toList place.line.toNat line ∧ Text.Reads line shown.toList ∧
    source = s!"{place.line.toNat}: {shown}\n") ∨
  (source = "" ∧ ∀ text line, place.text = some text →
    ¬ Text.HasLine text.toList place.line.toNat line)

/-- That a report tells of a place: of its file if it is known, of its line, of its column if it is
not zero, and with the line of source behind. -/
def Reports (position : UInt32) (printfOnly : Bool) (place : SourceLocation)
    (report : String) : Prop :=
  ∃ source, QuotesLine place source ∧
    report = s!"SPIR-V Instruction Index = {position.toNat}\n" ++
      (if printfOnly then "Debug shader printf message generated "
        else "Shader validation error occurred ") ++
      (match place.file with
        | some file => s!"in file {file} "
        | none => "") ++
      s!"at line {place.line.toNat}" ++
      (if place.column = 0 then "" else s!", column {place.column.toNat}") ++ "\n" ++ source

/-! ### Agreement -/

/-- The line that is read for a place is what the line of its text reads. -/
theorem sourceLine_eq_some_iff (place : SourceLocation) (shown : String) :
    place.sourceLine = some shown ↔ ∃ text line, place.text = some text ∧
      Text.HasLine text.toList place.line.toNat line ∧ Text.Reads line shown.toList := by
  rw [SourceLocation.sourceLine]
  by_cases hzero : place.line = 0
  · rw [if_pos hzero]
    refine iff_of_false (fun h ↦ nomatch h) ?_
    rintro ⟨text, line, -, ⟨before, behind, -, -, hnumber⟩, -⟩
    rw [hzero] at hnumber
    exact absurd hnumber (Nat.succ_ne_zero _).symm
  · have hpositive : place.line.toNat ≠ 0 := fun h ↦ hzero (UInt32.toNat_inj.mp h)
    have hnumber : place.line.toNat = place.line.toNat - 1 + 1 := by omega
    have hread (text : String) :
        ((Text.lines text.toList)[place.line.toNat - 1]?).map
          (fun line ↦ String.ofList (Text.trimEnd line)) = some shown ↔
        ∃ line, Text.HasLine text.toList place.line.toNat line ∧ Text.Reads line shown.toList := by
      rw [hnumber, ← Text.lines_trimEnd_iff, Option.map_eq_some_iff, Option.map_eq_some_iff]
      refine exists_congr fun line ↦ and_congr_right fun _ ↦ ?_
      rw [← String.toList_inj, String.toList_ofList]
    rw [if_neg hzero, Option.bind_eq_some_iff]
    simp only [hread, exists_and_left]

/-- No line is read for a place exactly if its text has none with that number. -/
theorem sourceLine_eq_none_iff (place : SourceLocation) :
    place.sourceLine = none ↔ ∀ text line, place.text = some text →
      ¬ Text.HasLine text.toList place.line.toNat line := by
  rw [Option.eq_none_iff_forall_ne_some]
  constructor
  · intro h text line htext hline
    refine h (String.ofList (Text.trimEnd line)) ((sourceLine_eq_some_iff place _).mpr ?_)
    exact ⟨text, line, htext, hline, by simpa using Text.reads_trimEnd line⟩
  · intro h shown hshown
    obtain ⟨text, line, htext, hline, -⟩ := (sourceLine_eq_some_iff place shown).mp hshown
    exact h text line htext hline

theorem quotesLine_iff (place : SourceLocation) (source : String) :
    QuotesLine place source ↔ source =
      match place.sourceLine with
      | some line => s!"{place.line.toNat}: {line}\n"
      | none => "" := by
  have hquotes : QuotesLine place source ↔
      (∃ shown, place.sourceLine = some shown ∧ source = s!"{place.line.toNat}: {shown}\n") ∨
        (source = "" ∧ place.sourceLine = none) := by
    rw [sourceLine_eq_none_iff]
    refine or_congr_left ?_
    constructor
    · rintro ⟨text, line, shown, htext, hline, hshown, hsource⟩
      exact ⟨shown, (sourceLine_eq_some_iff place shown).mpr ⟨text, line, htext, hline, hshown⟩,
        hsource⟩
    · rintro ⟨shown, hread, hsource⟩
      obtain ⟨text, line, htext, hline, hshown⟩ := (sourceLine_eq_some_iff place shown).mp hread
      exact ⟨text, line, shown, htext, hline, hshown, hsource⟩
  rw [hquotes]
  cases place.sourceLine <;> simp

/-- Exactly one text reports a place. -/
theorem reports_iff {position : UInt32} {printfOnly : Bool} {place : SourceLocation}
    {report : String} :
    Reports position printfOnly place report ↔
      report = placedMessage position printfOnly place := by
  unfold Reports
  simp only [quotesLine_iff, exists_eq_left]
  unfold placedMessage placeText SourceLocation.describe indexLine
  refine iff_of_eq (congrArg (report = ·) ?_)
  simp only [String.append_assoc]
  rfl

end ShaderGuard.Bytecode
