import Mathlib.Data.List.DropRight
import Mathlib.Data.List.Induction
import ShaderGuard.Bytecode.SourceLocation
import ShaderGuard.Proofs.InstructionStream
import ShaderGuard.Proofs.SourceReports
import ShaderGuard.Proofs.Tables
import ShaderGuard.Sequence

/-!
# Looking back for the source

A place in the source is found by reading instructions forward, with seven things remembered on the
way. What is remembered in the end can be told without the way: each of them is due to the last
instruction of some kind, and one finds it by looking back from the end of the run. The text of a
file is that of the last source instruction which embeds it, with the continuations up to the next
source instruction; the marker in force is the last one behind the last end of a function. Only
whether an extended instruction is a debug source or a debug line depends on what stood before it,
the set imported last, so those are looked for among instructions that know what is before them
(`placed`).

`DebugInfo.Recalls` puts the two side by side. Every instruction keeps it
(`DebugInfo.Recalls.step`), hence every run leads to it (`DebugInfo.recalls_scan`), and a report is
written from what is found looking back (`sourceMessage_eq`). The words of a report are those of
`Reports`.
-/

set_option autoImplicit false

namespace ShaderGuard

/-! ### The last element of a kind -/

section LastWith

variable {α β : Type} (p : α → Prop) [DecidablePred p]

/-- The last element of a list that a test accepts. -/
def lastWith (xs : List α) : Option α := xs.reverse.find? fun x ↦ p x

theorem lastWith_concat (xs : List α) (x : α) :
    lastWith p (xs ++ [x]) = if p x then some x else lastWith p xs := by
  rw [lastWith, List.reverse_concat, List.find?_cons]
  by_cases hx : p x
  · simp [hx]
  · simp [hx, lastWith]

/-- An element is the last one that a test accepts exactly if it is accepted and the test refuses
everything behind it. -/
theorem lastWith_eq_some_iff (xs : List α) (x : α) :
    lastWith p xs = some x ↔ LastsIn (fun _ y ↦ y = x ∧ p y) (fun y ↦ ¬ p y) xs := by
  induction xs using List.reverseRecOn with
  | nil => exact iff_of_false (by simp [lastWith]) (not_lastsIn_nil _ _)
  | append_singleton xs y ih =>
    rw [lastWith_concat, lastsIn_concat_iff, ← ih]
    by_cases hy : p y <;> simp [hy]

theorem lastWith_append_cons (older : List α) {x : α} {newer : List α} (hx : p x)
    (hnewer : ∀ y ∈ newer, ¬ p y) : lastWith p (older ++ x :: newer) = some x :=
  (lastWith_eq_some_iff p _ x).mpr ⟨older, x, newer, rfl, ⟨rfl, hx⟩, hnewer⟩

theorem map_lastWith_concat (f : α → β) (xs : List α) (x : α) :
    (lastWith p (xs ++ [x])).map f = if p x then some (f x) else (lastWith p xs).map f := by
  rw [lastWith_concat]
  split <;> rfl

end LastWith

namespace Bytecode

open Instruction

/-! ### What single instructions say -/

namespace Instruction

/-- That an instruction imports the set with debug sources and debug lines. -/
def ImportsDebugSet (instruction : Instruction) : Prop :=
  instruction.opcode = .importSet ∧ instruction.stringAt 2 = debugSetName

instance (instruction : Instruction) : Decidable instruction.ImportsDebugSet :=
  inferInstanceAs (Decidable (_ ∧ _))

/-- That an instruction is a string with some identifier. -/
def DefinesString (instruction : Instruction) (id : UInt32) : Prop :=
  instruction.opcode = .string ∧ instruction.word 1 = id

instance (instruction : Instruction) (id : UInt32) : Decidable (instruction.DefinesString id) :=
  inferInstanceAs (Decidable (_ ∧ _))

/-- That an instruction is a constant of one word with some identifier. -/
def DefinesConstant (instruction : Instruction) (id : UInt32) : Prop :=
  (instruction.opcode = .constant ∧ instruction.wordCount = 4) ∧ instruction.word 2 = id

instance (instruction : Instruction) (id : UInt32) : Decidable (instruction.DefinesConstant id) :=
  inferInstanceAs (Decidable (_ ∧ _))

/-- That an instruction is a debug source with some identifier, if a given set is the one with debug
sources and debug lines. -/
def DefinesDebugSource (instruction : Instruction) (set : Option UInt32) (id : UInt32) : Prop :=
  instruction.opcode = .extended ∧ set = some (instruction.word 3) ∧
    instruction.word 4 = debugSourceNumber ∧ instruction.word 2 = id

instance (instruction : Instruction) (set : Option UInt32) (id : UInt32) :
    Decidable (instruction.DefinesDebugSource set id) :=
  inferInstanceAs (Decidable (_ ∧ _))

/-- The strings of file and text that a debug source names. -/
def debugSource (instruction : Instruction) : DebugSource :=
  ⟨instruction.word 5, if 6 < instruction.wordCount then some (instruction.word 6) else none⟩

/-- The file that a source instruction names. -/
def sourceFile? (instruction : Instruction) : Option UInt32 :=
  if 3 < instruction.wordCount then some (instruction.word 3) else none

/-- That an instruction is a source instruction for a file. -/
def OpensText (instruction : Instruction) (file : UInt32) : Prop :=
  instruction.opcode = .source ∧ instruction.sourceFile? = some file

instance (instruction : Instruction) (file : UInt32) : Decidable (instruction.OpensText file) :=
  inferInstanceAs (Decidable (_ ∧ _))

/-- The text that a source instruction begins its file with. -/
def openedText (instruction : Instruction) : String :=
  if 4 < instruction.wordCount then instruction.stringAt 4 else ""

/-- That an instruction is a line marker, if a given set is the one with debug sources and debug
lines. -/
def MarksLine (instruction : Instruction) (set : Option UInt32) : Prop :=
  instruction.opcode = .line ∨ instruction.opcode = .extended ∧
    set = some (instruction.word 3) ∧ instruction.word 4 = debugLineNumber

instance (instruction : Instruction) (set : Option UInt32) :
    Decidable (instruction.MarksLine set) :=
  inferInstanceAs (Decidable (_ ∨ _))

/-- The line marker that an instruction is. -/
def marker? (instruction : Instruction) (set : Option UInt32) : Option LineMarker :=
  if instruction.opcode = .line then
    some (.line (instruction.word 1) (instruction.word 2) (instruction.word 3))
  else if instruction.opcode = .extended ∧ set = some (instruction.word 3) ∧
      instruction.word 4 = debugLineNumber then
    some (.debugLine (instruction.word 5) (instruction.word 6) (instruction.word 8))
  else none

theorem isSome_marker?_iff (instruction : Instruction) (set : Option UInt32) :
    (instruction.marker? set).isSome ↔ instruction.MarksLine set := by
  unfold marker? MarksLine
  split
  · next hline => exact iff_of_true rfl (Or.inl hline)
  · next hline =>
    split
    · next hextended => exact iff_of_true rfl (Or.inr hextended)
    · next hextended => exact iff_of_false Bool.false_ne_true (not_or.mpr ⟨hline, hextended⟩)

end Instruction

/-! ### One instruction -/

namespace DebugInfo

theorem addImport_eq (info : DebugInfo) (instruction : Instruction) :
    info.addImport instruction = { info with
      debugSet := if instruction.stringAt 2 = debugSetName then some (instruction.word 1)
        else info.debugSet } := by
  unfold addImport
  split <;> rfl

theorem addConstant_eq (info : DebugInfo) (instruction : Instruction) :
    info.addConstant instruction = { info with
      constants := if instruction.wordCount = 4 then
          info.constants.insert (instruction.word 2) (instruction.word 3)
        else info.constants } := by
  unfold addConstant
  split <;> rfl

theorem addSource_eq (info : DebugInfo) (instruction : Instruction) :
    info.addSource instruction = { info with
      sourceTexts := if 3 < instruction.wordCount then
          info.sourceTexts.insert (instruction.word 3) instruction.openedText
        else info.sourceTexts
      openSource := instruction.sourceFile? } := by
  unfold addSource sourceFile?
  split <;> rfl

/-- A continuation changes the texts alone. -/
theorem continueSource_eq (info : DebugInfo) (instruction : Instruction) :
    info.continueSource instruction =
      { info with sourceTexts := (info.continueSource instruction).sourceTexts } := by
  unfold continueSource
  split
  · rfl
  · split <;> rfl

theorem addExtended_eq (info : DebugInfo) (instruction : Instruction) :
    info.addExtended instruction = { info with
      debugSources := if info.debugSet = some (instruction.word 3) ∧
            instruction.word 4 = debugSourceNumber then
          info.debugSources.insert (instruction.word 2) instruction.debugSource
        else info.debugSources
      marker := if info.debugSet = some (instruction.word 3) ∧
            instruction.word 4 = debugLineNumber then
          some (.debugLine (instruction.word 5) (instruction.word 6) (instruction.word 8))
        else info.marker } := by
  have hne : debugSourceNumber ≠ debugLineNumber := by decide
  obtain ⟨strings, constants, debugSources, sourceTexts, debugSet, openSource, marker⟩ := info
  unfold addExtended
  by_cases hset : debugSet = some (instruction.word 3)
  · subst hset
    by_cases hsource : instruction.word 4 = debugSourceNumber
    · simp [hsource, hne, debugSource]
    · by_cases hline : instruction.word 4 = debugLineNumber
      · simp [hline, hne.symm]
      · simp [hsource, hline]
  · simp [hset]

/-- What an instruction does to each of the seven things that are remembered. -/
theorem step_eq (info : DebugInfo) (instruction : Instruction) :
    info.step instruction =
      { strings := if instruction.opcode = .string then
            info.strings.insert (instruction.word 1) (instruction.stringAt 2)
          else info.strings
        constants := if instruction.opcode = .constant ∧ instruction.wordCount = 4 then
            info.constants.insert (instruction.word 2) (instruction.word 3)
          else info.constants
        debugSources := if instruction.opcode = .extended ∧
              info.debugSet = some (instruction.word 3) ∧
              instruction.word 4 = debugSourceNumber then
            info.debugSources.insert (instruction.word 2) instruction.debugSource
          else info.debugSources
        sourceTexts := if instruction.opcode = .source then
            (info.addSource instruction).sourceTexts
          else if instruction.opcode = .sourceContinued then
            (info.continueSource instruction).sourceTexts
          else info.sourceTexts
        debugSet := if instruction.opcode = .importSet ∧ instruction.stringAt 2 = debugSetName then
            some (instruction.word 1)
          else info.debugSet
        openSource := if instruction.opcode = .source then instruction.sourceFile?
          else info.openSource
        marker := if instruction.opcode = .functionEnd then none
          else (instruction.marker? info.debugSet).or info.marker } := by
  unfold step marker?
  -- One case for each opcode that means something here, and the last for all others.
  split
  case h_1 h =>
    rw [continueSource_eq]
    simp +decide [h]
  case h_2 h => simp +decide [h, addSource_eq]
  case h_3 h => simp +decide [h, addString]
  case h_4 h => simp +decide [h]
  case h_5 h => simp +decide [h, addImport_eq]
  case h_6 h =>
    have hor : ∀ (condition : Prop) [Decidable condition] (marker : LineMarker),
        (if condition then some marker else none).or info.marker =
          if condition then some marker else info.marker := fun condition _ marker ↦ by
      split <;> rfl
    simp +decide [h, addExtended_eq, hor]
  case h_7 h => simp +decide [h, addConstant_eq]
  case h_8 h => simp +decide [h]
  case h_9 hcontinued hsource hstring hline himport hextended hconstant hend =>
    rw [if_neg hstring, if_neg fun h ↦ hconstant h.1, if_neg fun h ↦ hextended h.1, if_neg hsource,
      if_neg hcontinued, if_neg fun h ↦ himport h.1, if_neg hsource, if_neg hend, if_neg hline,
      if_neg fun h ↦ hextended h.1, Option.none_or]

end DebugInfo

/-! ### Looking back -/

/-- The identifier of the set with debug sources and debug lines that was imported last. -/
def importedSet (run : List Instruction) : Option UInt32 :=
  (lastWith ImportsDebugSet run).map fun instruction ↦ instruction.word 1

/-- The last string with an identifier. -/
def stringIn (run : List Instruction) (id : UInt32) : Option String :=
  (lastWith (fun instruction ↦ instruction.DefinesString id) run).map
    fun instruction ↦ instruction.stringAt 2

/-- The last constant of one word with an identifier. -/
def constantIn (run : List Instruction) (id : UInt32) : Option UInt32 :=
  (lastWith (fun instruction ↦ instruction.DefinesConstant id) run).map
    fun instruction ↦ instruction.word 3

/-- An instruction in its place, with those before it. -/
structure Placed where
  before : List Instruction
  instruction : Instruction

/-- The instructions of a run in their places. -/
def placed (run : List Instruction) : List Placed :=
  run.mapIdx fun index instruction ↦ ⟨run.take index, instruction⟩

/-- The last debug source with an identifier. -/
def debugSourceIn (run : List Instruction) (id : UInt32) : Option DebugSource :=
  (lastWith (fun place : Placed ↦
    place.instruction.DefinesDebugSource (importedSet place.before) id) (placed run)).map
    fun place ↦ place.instruction.debugSource

/-- The file of the last source instruction: the one that is continued. -/
def openFile (run : List Instruction) : Option UInt32 :=
  (lastWith (fun instruction ↦ instruction.opcode = .source) run).bind sourceFile?

/-- The continuations of a file: those behind its last source instruction, up to the next source
instruction of any file. -/
def continuations (run : List Instruction) (file : UInt32) : List Instruction :=
  ((run.rtakeWhile fun instruction ↦ ¬ instruction.OpensText file).takeWhile
    fun instruction ↦ instruction.opcode ≠ .source).filter
    fun instruction ↦ instruction.opcode = .sourceContinued

/-- The text of a file: what its last source instruction begins it with, and the continuations. -/
def sourceTextIn (run : List Instruction) (file : UInt32) : Option String :=
  (lastWith (fun instruction ↦ instruction.OpensText file) run).map fun instruction ↦
    instruction.openedText ++
      String.join ((continuations run file).map fun instruction ↦ instruction.stringAt 1)

/-- The last line marker behind the last end of a function. -/
def markerIn (run : List Instruction) : Option LineMarker :=
  ((placed run).reverse.takeWhile fun place ↦ place.instruction.opcode ≠ .functionEnd).findSome?
    fun place ↦ place.instruction.marker? (importedSet place.before)

/-- The place that a marker names by the last definitions of a run. -/
def placeIn (run : List Instruction) : LineMarker → SourceLocation
  | .line file line column => ⟨stringIn run file, line, column, sourceTextIn run file⟩
  | .debugLine source line column =>
    { file := (debugSourceIn run source).bind fun source ↦ stringIn run source.file
      line := (constantIn run line).getD 0
      column := (constantIn run column).getD 0
      text := ((debugSourceIn run source).bind DebugSource.text).bind (stringIn run) }

/-! ### One more instruction -/

section Concat

variable (run : List Instruction) (instruction : Instruction)

theorem placed_concat : placed (run ++ [instruction]) = placed run ++ [⟨run, instruction⟩] := by
  rw [placed, List.mapIdx_concat, List.take_left, placed]
  congr 1
  refine List.mapIdx_eq_mapIdx_iff.mpr fun index hindex ↦ ?_
  rw [List.take_append_of_le_length (Nat.le_of_lt hindex)]

theorem importedSet_concat : importedSet (run ++ [instruction]) =
    if instruction.ImportsDebugSet then some (instruction.word 1) else importedSet run :=
  map_lastWith_concat _ _ _ _

theorem openFile_concat : openFile (run ++ [instruction]) =
    if instruction.opcode = .source then instruction.sourceFile? else openFile run := by
  rw [openFile, lastWith_concat]
  split <;> rfl

theorem debugSourceIn_concat (id : UInt32) : debugSourceIn (run ++ [instruction]) id =
    if instruction.DefinesDebugSource (importedSet run) id then some instruction.debugSource
    else debugSourceIn run id := by
  rw [debugSourceIn, placed_concat, map_lastWith_concat, debugSourceIn]

theorem markerIn_concat : markerIn (run ++ [instruction]) =
    if instruction.opcode = .functionEnd then none
    else (instruction.marker? (importedSet run)).or (markerIn run) := by
  rw [markerIn, placed_concat, List.reverse_concat, List.takeWhile_cons]
  by_cases hend : instruction.opcode = .functionEnd
  · simp [hend]
  · simp only [hend, ne_eq, not_false_eq_true, decide_true, if_true, if_false, List.findSome?_cons]
    cases instruction.marker? (importedSet run) <;> rfl

/-- Behind the last source instruction of a file the file is open exactly as long as no source
instruction of any other follows. -/
theorem openFile_eq_some_iff (file : UInt32)
    (hopened : (lastWith (fun instruction ↦ instruction.OpensText file) run).isSome) :
    openFile run = some file ↔
      ∀ later ∈ run.rtakeWhile fun instruction ↦ ¬ instruction.OpensText file,
        later.opcode ≠ .source := by
  induction run using List.reverseRecOn with
  | nil => cases hopened
  | append_singleton run last ih =>
    rw [lastWith_concat] at hopened
    rw [openFile_concat]
    by_cases hopens : last.OpensText file
    · rw [if_pos hopens.1, List.rtakeWhile_concat_neg _ _ _ (by simpa using hopens)]
      exact iff_of_true hopens.2 fun _ h ↦ absurd h List.not_mem_nil
    · rw [if_neg hopens] at hopened
      rw [List.rtakeWhile_concat_pos _ _ _ (by simpa using hopens)]
      by_cases hsource : last.opcode = .source
      · rw [if_pos hsource]
        refine iff_of_false (fun hfile ↦ hopens ⟨hsource, hfile⟩) fun hnone ↦ ?_
        exact hnone last (List.mem_append_right _ List.mem_cons_self) hsource
      · rw [if_neg hsource, ih hopened]
        simp [or_imp, forall_and, hsource]

/-- A continuation of a file that is open is one of its continuations. -/
theorem continuations_concat (file : UInt32) (hopens : ¬ instruction.OpensText file)
    (hopened : (lastWith (fun instruction ↦ instruction.OpensText file) run).isSome) :
    continuations (run ++ [instruction]) file =
      if instruction.opcode = .sourceContinued ∧ openFile run = some file then
        continuations run file ++ [instruction]
      else continuations run file := by
  have hfile := openFile_eq_some_iff run file hopened
  rw [continuations, continuations, List.rtakeWhile_concat_pos _ _ _ (by simpa using hopens)]
  by_cases hopen : openFile run = some file
  · have hall : ∀ later ∈ run.rtakeWhile fun instruction ↦ ¬ instruction.OpensText file,
        decide (later.opcode ≠ .source) = true := by
      simpa using hfile.mp hopen
    rw [List.takeWhile_append_of_pos hall, List.takeWhile_eq_self_iff.mpr hall, List.filter_append]
    by_cases hcontinued : instruction.opcode = .sourceContinued
    · rw [if_pos ⟨hcontinued, hopen⟩]
      simp +decide [hcontinued]
    · rw [if_neg fun h ↦ hcontinued h.1]
      by_cases hsource : instruction.opcode = .source <;>
        simp [hcontinued, hsource]
  · rw [if_neg fun h ↦ hopen h.2, List.takeWhile_append, if_neg fun hlength ↦ hopen (hfile.mpr ?_)]
    have hall := List.takeWhile_eq_self_iff.mp
      ((List.takeWhile_prefix _).eq_of_length hlength)
    simpa using hall

/-- One more instruction begins the text of a file, continues it, or leaves it. -/
theorem sourceTextIn_concat (file : UInt32) : sourceTextIn (run ++ [instruction]) file =
    if instruction.OpensText file then some instruction.openedText
    else if instruction.opcode = .sourceContinued ∧ openFile run = some file then
      (sourceTextIn run file).map (· ++ instruction.stringAt 1)
    else sourceTextIn run file := by
  rw [sourceTextIn, lastWith_concat]
  by_cases hopens : instruction.OpensText file
  · rw [if_pos hopens, if_pos hopens, continuations,
      List.rtakeWhile_concat_neg _ _ _ (by simpa using hopens)]
    exact congrArg some String.append_empty
  · rw [if_neg hopens, if_neg hopens, sourceTextIn]
    cases hopened : lastWith (fun instruction ↦ instruction.OpensText file) run with
    | none => split <;> rfl
    | some first =>
      rw [continuations_concat run instruction file hopens (by rw [hopened]; rfl)]
      split
      · simp [String.join_append, String.append_assoc]
      · rfl

end Concat

/-! ### What is remembered -/

namespace DebugInfo

/-- The text of a file behind a source instruction. -/
theorem get?_addSource (info : DebugInfo) (instruction : Instruction) (file : UInt32) :
    (info.addSource instruction).sourceTexts.get? file =
      if instruction.sourceFile? = some file then some instruction.openedText
      else info.sourceTexts.get? file := by
  rw [addSource_eq, Table.get?_ite_insert]
  refine if_congr ?_ rfl rfl
  simp [sourceFile?]

/-- The text of a file behind a continuation. -/
theorem get?_continueSource (info : DebugInfo) (instruction : Instruction) (file : UInt32) :
    (info.continueSource instruction).sourceTexts.get? file =
      if info.openSource = some file then
        (info.sourceTexts.get? file).map (· ++ instruction.stringAt 1)
      else info.sourceTexts.get? file := by
  unfold continueSource
  cases hopen : info.openSource with
  | none => rfl
  | some opened =>
    by_cases hfile : opened = file
    · subst hfile
      cases htext : info.sourceTexts.get? opened <;> simp [htext]
    · cases htext : info.sourceTexts.get? opened with
      | none => simp [hfile, htext]
      | some text => simp [hfile, htext, Table.get?_insert_of_ne _ _ hfile]

/-- That what is remembered is what one finds by looking back through a run. -/
structure Recalls (info : DebugInfo) (run : List Instruction) : Prop where
  strings : ∀ id, info.strings.get? id = stringIn run id
  constants : ∀ id, info.constants.get? id = constantIn run id
  debugSources : ∀ id, info.debugSources.get? id = debugSourceIn run id
  sourceTexts : ∀ file, info.sourceTexts.get? file = sourceTextIn run file
  debugSet : info.debugSet = importedSet run
  openSource : info.openSource = openFile run
  marker : info.marker = markerIn run

/-- Nothing is remembered at first, and nothing is found in an empty run. -/
theorem recalls_nil : Recalls {} [] :=
  ⟨fun _ ↦ rfl, fun _ ↦ rfl, fun _ ↦ rfl, fun _ ↦ rfl, rfl, rfl, rfl⟩

/-- An instruction changes what is remembered as it changes what is found. -/
theorem Recalls.step {info : DebugInfo} {run : List Instruction} (h : info.Recalls run)
    (instruction : Instruction) : (info.step instruction).Recalls (run ++ [instruction]) := by
  rw [step_eq]
  refine ⟨fun id ↦ ?strings, fun id ↦ ?constants, fun id ↦ ?debugSources, fun file ↦ ?sourceTexts,
    ?debugSet, ?openSource, ?marker⟩
  case strings =>
    rw [Table.get?_ite_insert, h.strings, stringIn, stringIn, map_lastWith_concat]
    rfl
  case constants =>
    rw [Table.get?_ite_insert, h.constants, constantIn, constantIn, map_lastWith_concat]
    rfl
  case debugSources =>
    rw [Table.get?_ite_insert, h.debugSources, debugSourceIn_concat, h.debugSet]
    exact if_congr (by simp only [DefinesDebugSource, and_assoc]) rfl rfl
  case sourceTexts =>
    dsimp only
    rw [sourceTextIn_concat, ← h.sourceTexts, ← h.openSource]
    by_cases hsource : instruction.opcode = .source
    · have hother : ¬ (instruction.opcode = .sourceContinued ∧ info.openSource = some file) :=
        fun hcontinued ↦ absurd (hsource.symm.trans hcontinued.1) (by decide)
      rw [if_pos hsource, get?_addSource, if_neg hother]
      exact if_congr (by simp [OpensText, hsource]) rfl rfl
    · rw [if_neg hsource, if_neg fun hopens : instruction.OpensText file ↦ hsource hopens.1]
      by_cases hcontinued : instruction.opcode = .sourceContinued
      · rw [if_pos hcontinued, get?_continueSource]
        exact if_congr (by simp [hcontinued]) rfl rfl
      · rw [if_neg hcontinued, if_neg fun hopen ↦ hcontinued hopen.1]
  case debugSet =>
    rw [importedSet_concat, h.debugSet]
    rfl
  case openSource => rw [openFile_concat, h.openSource]
  case marker => rw [markerIn_concat, h.debugSet, h.marker]

/-- What a run of instructions says is what one finds by looking back through it. -/
theorem recalls_scan (run : List Instruction) : (scan run).Recalls run := by
  induction run using List.reverseRecOn with
  | nil => exact recalls_nil
  | append_singleton run last ih =>
    rw [scan_append]
    exact ih.step last

theorem Recalls.resolve {info : DebugInfo} {run : List Instruction} (h : info.Recalls run)
    (marker : LineMarker) : info.resolve marker = placeIn run marker := by
  have hstrings : info.strings.get? = stringIn run := funext h.strings
  cases marker with
  | line file line column => simp only [DebugInfo.resolve, placeIn, hstrings, h.sourceTexts]
  | debugLine source line column =>
    simp only [DebugInfo.resolve, placeIn, h.constants, h.debugSources, hstrings]

end DebugInfo

theorem locate_eq (code : Code) (position : UInt32) :
    locate code position =
      (markerIn (runUpTo code position)).map (placeIn (runUpTo code position)) := by
  have hrecalls := DebugInfo.recalls_scan (runUpTo code position)
  rw [locate, hrecalls.marker]
  exact congrArg (Option.map · _) (funext hrecalls.resolve)

/-- A marker is in force exactly if one stands behind the last end of a function. -/
theorem isSome_markerIn_iff (run : List Instruction) :
    (markerIn run).isSome ↔
      LastsIn (fun older instruction ↦ instruction.MarksLine (importedSet older))
        (fun instruction ↦ instruction.opcode ≠ .functionEnd) run := by
  induction run using List.reverseRecOn with
  | nil => exact iff_of_false Bool.false_ne_true (not_lastsIn_nil _ _)
  | append_singleton run last ih =>
    rw [markerIn_concat, lastsIn_concat_iff, ← ih, ← isSome_marker?_iff]
    by_cases hend : last.opcode = .functionEnd
    · have hnone : last.marker? (importedSet run) = none := by
        simp +decide [marker?, hend]
      simp [hend, hnone]
    · simp [hend]

/-! ### What is reported -/

/-- What is reported is written from what is found by looking back. -/
theorem sourceMessage_eq (code : Code) (position : UInt32) (printfOnly : Bool) :
    sourceMessage code position printfOnly =
      match markerIn (runUpTo code position) with
      | none => unplacedMessage position
      | some marker =>
        placedMessage position printfOnly (placeIn (runUpTo code position) marker) := by
  unfold sourceMessage
  simp only [locate_eq]
  cases markerIn (runUpTo code position) with
  | none =>
    unfold unplacedMessage indexLine
    rw [Option.map_none]
  | some marker =>
    unfold placedMessage placeText indexLine
    rw [Option.map_some]

/-- Words that follow the instruction at a position are not read. -/
theorem runUpTo_assemble (code : Code) (position : UInt32) (header tail : List UInt32)
    (hheader : header.length = headerSize)
    (hposition : position.toNat < (instructions code).length) :
    runUpTo (header ++ (assemble (runUpTo code position) ++ tail)) position =
      runUpTo code position := by
  have hlength : (runUpTo code position).length = position.toNat + 1 := by
    rw [runUpTo, List.length_take]
    omega
  have hwellFormed : ∀ instruction ∈ runUpTo code position, instruction.WellFormed :=
    fun instruction hmem ↦ wellFormed_cut _ instruction (List.mem_of_mem_take hmem)
  rw [runUpTo, instructions_assemble header hheader _ hwellFormed, ← hlength, List.take_left]

/-- What is said about the source depends on the instructions up to the position alone, whatever
words follow them, malformed ones included. A place is reported exactly if a line instruction stands
there behind the last end of a function, or a debug line of the set that was then imported last, and
where none is reported it is said that none is known. The place is that of the last such marker, by
the last definitions of the identifiers: the report gives its file, its line and its column and
quotes the line of the text, and no other text does. -/
theorem source_found_looking_back (code : Code) (position : UInt32) (printfOnly : Bool) :
    (∀ other, runUpTo other position = runUpTo code position →
      sourceMessage other position printfOnly = sourceMessage code position printfOnly) ∧
    (∀ header tail, header.length = headerSize → position.toNat < (instructions code).length →
      sourceMessage (header ++ (assemble (runUpTo code position) ++ tail)) position printfOnly =
        sourceMessage code position printfOnly) ∧
    ((∃ place, Reports position printfOnly place (sourceMessage code position printfOnly)) ↔
      LastsIn (fun older instruction ↦ instruction.MarksLine (importedSet older))
        (fun instruction ↦ instruction.opcode ≠ .functionEnd) (runUpTo code position)) ∧
    (sourceMessage code position printfOnly = unplacedMessage position ↔
      ¬ LastsIn (fun older instruction ↦ instruction.MarksLine (importedSet older))
        (fun instruction ↦ instruction.opcode ≠ .functionEnd) (runUpTo code position)) ∧
    ∀ marker, markerIn (runUpTo code position) = some marker → ∀ report,
      Reports position printfOnly (placeIn (runUpTo code position) marker) report ↔
        report = sourceMessage code position printfOnly := by
  have hsame : ∀ other, runUpTo other position = runUpTo code position →
      sourceMessage other position printfOnly = sourceMessage code position printfOnly := by
    intro other hrun
    rw [sourceMessage_eq, sourceMessage_eq, hrun]
  refine ⟨hsame, fun header tail hheader hposition ↦
    hsame _ (runUpTo_assemble code position header tail hheader hposition), ?_, ?_, ?_⟩
  · rw [← isSome_markerIn_iff, sourceMessage_eq]
    cases markerIn (runUpTo code position) with
    | none =>
      refine iff_of_false ?_ Bool.false_ne_true
      rintro ⟨place, hreports⟩
      exact placedMessage_ne_unplacedMessage position printfOnly place
        (reports_iff.mp hreports).symm
    | some marker => exact iff_of_true ⟨_, reports_iff.mpr rfl⟩ rfl
  · rw [← isSome_markerIn_iff, sourceMessage_eq]
    cases markerIn (runUpTo code position) with
    | none => simp
    | some marker => simp [placedMessage_ne_unplacedMessage]
  · intro marker hmarker report
    rw [sourceMessage_eq, hmarker]
    exact reports_iff

/-- A file with two lines of source, of which the second stands in a continuation, then a line
instruction and the end of its function. At the line instruction the report gives file, line and
column and quotes the second line without the blank at its end; behind the end of the function no
place is known. The report at the line instruction stays the same if the end gives way to a word
that announces no instruction. -/
theorem source_found_looking_back_at_line :
    let header : List UInt32 := [magicNumber, 0x00010300, 0, 16, 0]
    let body : List Instruction := [⟨[0x00040007, 1, 0x6f632e61, 0x0000706d]⟩,
      ⟨[0x00060003, 2, 450, 1, 0x6e69616d, 0x00000a0d]⟩, ⟨[0x00030002, 0x203d2078, 0x00203b31]⟩,
      ⟨[0x00040008, 1, 2, 5]⟩, ⟨[0x00010038]⟩]
    let code : Code := header ++ assemble body
    let place : SourceLocation := ⟨some "a.comp", 2, 5, some "main\r\nx = 1; "⟩
    header.length = headerSize ∧ (3 : UInt32).toNat < (instructions code).length ∧
      markerIn (runUpTo code 3) = some (.line 1 2 5) ∧
      placeIn (runUpTo code 3) (.line 1 2 5) = place ∧
      sourceMessage code 3 false = "SPIR-V Instruction Index = 3\n" ++
        "Shader validation error occurred in file a.comp at line 2, column 5\n2: x = 1;\n" ∧
      sourceMessage code 4 false = "SPIR-V Instruction Index = 4\n" ++
        "Unable to source. Build shader with debug info to get source information.\n" ∧
      sourceMessage (header ++ (assemble (runUpTo code 3) ++ [0])) 3 false =
        sourceMessage code 3 false := by
  intro header body code place
  have hcode : instructions code = body := instructions_append_assemble rfl (by decide)
  have hrun (position : UInt32) : runUpTo code position = body.take (position.toNat + 1) := by
    rw [runUpTo, hcode]
  have hposition : (3 : UInt32).toNat < (instructions code).length := by
    rw [hcode]
    decide
  have hmarker : markerIn (runUpTo code 3) = some (.line 1 2 5) := by
    rw [hrun]
    decide
  have hplace : placeIn (runUpTo code 3) (.line 1 2 5) = place := by
    rw [hrun]
    decide
  obtain ⟨-, htail, -, -, hreports⟩ := source_found_looking_back code 3 false
  obtain ⟨-, -, -, hunplaced, -⟩ := source_found_looking_back code 4 false
  refine ⟨rfl, hposition, hmarker, hplace, ?_, hunplaced.mpr ?_, htail header [0] rfl hposition⟩
  · have hline : Text.HasLine "main\r\nx = 1; ".toList 2 "x = 1; ".toList :=
      ⟨"main\r\n".toList, [], by decide, ⟨by simp, by decide, by simp, by decide⟩, by decide⟩
    have hshown : Text.Reads "x = 1; ".toList "x = 1;".toList :=
      ⟨⟨[' '], by decide, by simp [Text.isBlank]⟩, by simp [Text.isBlank]⟩
    have hquotes : QuotesLine place "2: x = 1;\n" :=
      Or.inl ⟨"main\r\nx = 1; ", "x = 1; ".toList, "x = 1;", rfl, hline, hshown, by decide⟩
    refine ((hreports _ hmarker _).mp ?_).symm
    rw [hplace]
    exact ⟨"2: x = 1;\n", hquotes, by decide⟩
  · rw [← isSome_markerIn_iff, hrun]
    decide

end Bytecode

end ShaderGuard
