import ShaderGuard.Proofs.LiteralStrings
import ShaderGuard.Proofs.SourceLookup

/-!
# Two ways of carrying a source

A module may give its source by source and line instructions, with the text cut into an embedded
part and continuations, or by debug sources and debug lines, which name the strings of file and text
and the constants of line and column. A reader of the report is to notice no difference: with the
same file name, text, line and column, both modules are reported alike (`debug_encodings_agree`).

`CarriesInLines` and `CarriesInDebug` say of a run that what it defines last is such a source,
whatever else it holds. `linesBody` and `debugBody` are bodies that do nothing else, for any name,
any text in any cut, and any line and column, as long as each literal fits into one instruction
(`carriesInLines_linesBody`, `carriesInDebug_debugBody`).
-/

set_option autoImplicit false

namespace ShaderGuard.Bytecode

open Instruction

/-! ### Instructions and their operands -/

theorem encodeString_ne_nil (text : String) : encodeString text ≠ [] := by
  intro hnil
  obtain ⟨n, hpacked⟩ := codeBytes_packBytes (Text.Utf8.encode text.toList ++ [0])
  rw [show packBytes _ = [] from hnil] at hpacked
  simp [codeBytes] at hpacked

namespace Instruction

variable {instruction : Instruction} {operands : List UInt32} {text : String}

theorem drop_succ_words (instruction : Instruction) (index : Nat) :
    instruction.words.drop (index + 1) = instruction.operands.drop index := by
  rw [operands, List.drop_drop, Nat.add_comm]

/-- A literal string behind some operands is read back. -/
theorem stringAt_of_operands (before : List UInt32)
    (h : instruction.operands = before ++ encodeString text) (hnull : '\x00' ∉ text.toList) :
    instruction.stringAt (before.length + 1) = text := by
  have hdrop : instruction.words.drop (before.length + 1) = encodeString text ++ [] := by
    rw [drop_succ_words, h, List.drop_left, List.append_nil]
  exact stringAt_of_drop_of_not_mem hdrop hnull

/-- A source instruction with a literal string begins its file with that text. -/
theorem openedText_of_operands {language version file : UInt32}
    (h : instruction.operands = language :: version :: file :: encodeString text)
    (hnull : '\x00' ∉ text.toList) : instruction.openedText = text := by
  have hcount : 4 < instruction.wordCount := by
    have hlength := congrArg List.length h
    have hpos := List.length_pos_iff.mpr (encodeString_ne_nil text)
    simp only [operands, List.length_drop, List.length_cons] at hlength
    rw [wordCount]
    omega
  rw [openedText, if_pos hcount]
  exact stringAt_of_operands [language, version, file] h hnull

/-- The instruction with an opcode and some operands. -/
def ofOperands (opcode : Opcode) (operands : List UInt32) : Instruction :=
  ⟨UInt32.ofNat ((operands.length + 1) * 2 ^ 16 + opcode) :: operands⟩

@[simp] theorem wordCount_ofOperands (opcode : Opcode) (operands : List UInt32) :
    (ofOperands opcode operands).wordCount = operands.length + 1 := rfl

@[simp] theorem word_ofOperands_succ (opcode : Opcode) (operands : List UInt32) (index : Nat) :
    (ofOperands opcode operands).word (index + 1) = operands.getD index 0 := rfl

@[simp] theorem opcode_ofOperands {opcode : Nat} (h : opcode < 2 ^ 16) (operands : List UInt32) :
    (ofOperands opcode operands).opcode = opcode := by
  show ((UInt32.ofNat ((operands.length + 1) * 2 ^ 16 + opcode)) &&& 0xffff).toNat = opcode
  rw [toNat_and_of_mask _ (by decide : UInt32.toNat 0xffff = 2 ^ 16 - 1), UInt32.toNat_ofNat',
    Nat.mod_mod_of_dvd _ (by decide : 2 ^ 16 ∣ 2 ^ 32), Nat.mul_add_mod_self_right,
    Nat.mod_eq_of_lt h]

/-- Operands that fit into one instruction make a well-formed one. -/
theorem wellFormed_ofOperands {opcode : Nat} (h : opcode < 2 ^ 16)
    (hfits : operands.length + 1 < 2 ^ 16) : (ofOperands opcode operands).WellFormed := by
  refine ⟨List.cons_ne_nil _ _, ?_⟩
  show (UInt32.ofNat ((operands.length + 1) * 2 ^ 16 + opcode) >>> 16).toNat = operands.length + 1
  rw [toNat_shiftRight_of_lt _ (by decide), UInt32.toNat_ofNat', Nat.mod_eq_of_lt (by omega)]
  show _ / 2 ^ 16 = _
  omega

end Instruction

/-! ### A source in lines -/

/-- That what a run defines last is a source in lines: a string with the name of the file, a source
instruction with the first piece of its text, continuations with the other pieces, and a line
instruction that is in force. -/
structure CarriesInLines (run : List Instruction) (file : UInt32) (name first : String)
    (more : List String) (line column : UInt32) : Prop where
  named : ∃ string, lastWith (fun instruction ↦ instruction.DefinesString file) run = some string ∧
    string.operands = file :: encodeString name
  opened : ∃ source language version,
    lastWith (fun instruction ↦ instruction.OpensText file) run = some source ∧
    source.operands = language :: version :: file :: encodeString first
  continued : (continuations run file).map Instruction.operands = more.map encodeString
  marked : markerIn run = some (.line file line column)

theorem stringIn_of_operands {run : List Instruction} {id : UInt32} {text : String}
    {string : Instruction}
    (hlast : lastWith (fun instruction ↦ instruction.DefinesString id) run = some string)
    (hoperands : string.operands = id :: encodeString text) (hnull : '\x00' ∉ text.toList) :
    stringIn run id = some text := by
  rw [stringIn, hlast, Option.map_some]
  exact congrArg some (stringAt_of_operands [id] hoperands hnull)

/-- The texts of continuations are the pieces that they were written with. -/
theorem map_stringAt_of_operands {continued : List Instruction} {pieces : List String}
    (h : continued.map Instruction.operands = pieces.map encodeString)
    (hnull : ∀ piece ∈ pieces, '\x00' ∉ piece.toList) :
    (continued.map fun instruction ↦ instruction.stringAt 1) = pieces := by
  induction pieces generalizing continued with
  | nil =>
    rw [List.map_eq_nil_iff.mp h]
    rfl
  | cons piece pieces ih =>
    obtain ⟨instruction, rest, rfl, hoperands, hrest⟩ := List.map_eq_cons_iff.mp h
    obtain ⟨hpiece, hpieces⟩ := List.forall_mem_cons.mp hnull
    have hfirst : instruction.stringAt 1 = piece := stringAt_of_operands [] hoperands hpiece
    rw [List.map_cons, ih hrest hpieces, hfirst]

/-- A source in lines is found with its name, its whole text, its line and its column. -/
theorem CarriesInLines.place {run : List Instruction} {file : UInt32} {name first text : String}
    {more : List String} {line column : UInt32}
    (h : CarriesInLines run file name first more line column) (hname : '\x00' ∉ name.toList)
    (htext : '\x00' ∉ text.toList) (hcut : first ++ String.join more = text) :
    (markerIn run).map (placeIn run) = some ⟨some name, line, column, some text⟩ := by
  obtain ⟨string, hstring, hnamed⟩ := h.named
  obtain ⟨source, language, version, hsource, hopened⟩ := h.opened
  subst hcut
  rw [String.toList_append, List.mem_append, not_or, String.toList_join] at htext
  have hmore : ∀ piece ∈ more, '\x00' ∉ piece.toList := fun piece hpiece hmem ↦
    htext.2 (List.mem_flatMap.mpr ⟨piece, hpiece, hmem⟩)
  have hcontent : sourceTextIn run file = some (first ++ String.join more) := by
    rw [sourceTextIn, hsource, Option.map_some, openedText_of_operands hopened htext.1,
      map_stringAt_of_operands h.continued hmore]
  rw [h.marked, Option.map_some, placeIn, stringIn_of_operands hstring hnamed hname, hcontent]

/-! ### A source in debug instructions -/

/-- The identifiers that a debug source and a debug line go by: of the strings with the file's name
and its text, of the debug source, and of the constants for line and column. -/
structure DebugIds where
  file : UInt32
  text : UInt32
  source : UInt32
  line : UInt32
  column : UInt32

/-- That what a run defines last is a source in debug instructions: strings with the name of the
file and its text, a debug source that names the two, constants for line and column, and a debug
line that is in force. -/
structure CarriesInDebug (run : List Instruction) (ids : DebugIds) (name text : String)
    (line column : UInt32) : Prop where
  named : ∃ string,
    lastWith (fun instruction ↦ instruction.DefinesString ids.file) run = some string ∧
    string.operands = ids.file :: encodeString name
  written : ∃ string,
    lastWith (fun instruction ↦ instruction.DefinesString ids.text) run = some string ∧
    string.operands = ids.text :: encodeString text
  source : debugSourceIn run ids.source = some ⟨ids.file, some ids.text⟩
  line : constantIn run ids.line = some line
  column : constantIn run ids.column = some column
  marked : markerIn run = some (.debugLine ids.source ids.line ids.column)

/-- A source in debug instructions is found with its name, its text, its line and its column. -/
theorem CarriesInDebug.place {run : List Instruction} {ids : DebugIds} {name text : String}
    {line column : UInt32} (h : CarriesInDebug run ids name text line column)
    (hname : '\x00' ∉ name.toList) (htext : '\x00' ∉ text.toList) :
    (markerIn run).map (placeIn run) = some ⟨some name, line, column, some text⟩ := by
  obtain ⟨string, hstring, hnamed⟩ := h.named
  obtain ⟨content, hcontent, hwritten⟩ := h.written
  rw [h.marked, Option.map_some, placeIn, h.source, h.line, h.column]
  simp [stringIn_of_operands hstring hnamed hname, stringIn_of_operands hcontent hwritten htext]

/-! ### Bodies that carry a source -/

/-- A body that carries a source in lines. -/
def linesBody (file : UInt32) (name first : String) (more : List String) (line column : UInt32) :
    List Instruction :=
  ofOperands .string (file :: encodeString name) ::
    ofOperands .source (0 :: 0 :: file :: encodeString first) ::
    (more.map (fun piece ↦ ofOperands .sourceContinued (encodeString piece)) ++
      [ofOperands .line [file, line, column]])

/-- A body that carries a source in debug instructions of some set. -/
def debugBody (set : UInt32) (ids : DebugIds) (name text : String) (line column : UInt32) :
    List Instruction :=
  [ofOperands .importSet (set :: encodeString debugSetName),
    ofOperands .string (ids.file :: encodeString name),
    ofOperands .string (ids.text :: encodeString text),
    ofOperands .constant [0, ids.line, line],
    ofOperands .constant [0, ids.column, column],
    ofOperands .extended [0, ids.source, set, debugSourceNumber, ids.file, ids.text],
    ofOperands .extended
      [0, 0, set, debugLineNumber, ids.source, ids.line, ids.line, ids.column, ids.column]]

/-- What stands behind the last element that a test refuses. -/
theorem rtakeWhile_append_cons {α : Type} {p : α → Bool} {x : α} {newer : List α} (older : List α)
    (hx : ¬ p x) (hnewer : ∀ y ∈ newer, p y) : (older ++ x :: newer).rtakeWhile p = newer := by
  rw [List.rtakeWhile, List.reverse_append, List.reverse_cons, List.append_assoc,
    List.takeWhile_append_of_pos (by simpa using hnewer)]
  simp [hx]

/-- Continuations directly behind a source instruction are those of its file. -/
theorem continuations_append_cons {file : UInt32} {source : Instruction}
    {continued rest : List Instruction} (older : List Instruction) (hopens : source.OpensText file)
    (hcontinued : ∀ instruction ∈ continued, instruction.opcode = .sourceContinued)
    (hrest : ∀ instruction ∈ rest,
      instruction.opcode ≠ .source ∧ instruction.opcode ≠ .sourceContinued) :
    continuations (older ++ source :: (continued ++ rest)) file = continued := by
  have hsources : ∀ instruction ∈ continued ++ rest, instruction.opcode ≠ .source := by
    refine List.forall_mem_append.mpr ⟨fun instruction hmem ↦ ?_, fun instruction hmem ↦
      (hrest instruction hmem).1⟩
    rw [hcontinued instruction hmem]
    decide
  have hnone : rest.filter (fun instruction ↦ instruction.opcode = .sourceContinued) = [] :=
    List.filter_eq_nil_iff.mpr fun instruction hmem ↦ by simpa using (hrest instruction hmem).2
  have hall : continued.filter (fun instruction ↦ instruction.opcode = .sourceContinued) =
      continued :=
    List.filter_eq_self.mpr fun instruction hmem ↦ by simpa using hcontinued instruction hmem
  have hbehind : ∀ instruction ∈ continued ++ rest, ¬ instruction.OpensText file :=
    fun instruction hmem h ↦ hsources instruction hmem h.1
  rw [continuations, rtakeWhile_append_cons older (by simpa using hopens) (by simpa using hbehind),
    List.takeWhile_eq_self_iff.mpr (by simpa using hsources), List.filter_append, hall, hnone,
    List.append_nil]

/-- The set with debug sources and debug lines, where one import begins a run and no other
follows. -/
theorem importedSet_cons (set : UInt32) {rest : List Instruction}
    (hrest : ∀ instruction ∈ rest, instruction.opcode ≠ .importSet) :
    importedSet (ofOperands .importSet (set :: encodeString debugSetName) :: rest) = some set := by
  have hname : (ofOperands .importSet (set :: encodeString debugSetName)).stringAt 2 =
      debugSetName := stringAt_of_operands [set] rfl (by decide)
  have hlast := lastWith_append_cons ImportsDebugSet [] ⟨opcode_ofOperands (by decide) _, hname⟩
    fun instruction hmem h ↦ hrest instruction hmem h.1
  exact congrArg (Option.map fun instruction ↦ instruction.word 1) hlast

theorem carriesInLines_linesBody (file : UInt32) (name first : String) (more : List String)
    (line column : UInt32) :
    CarriesInLines (linesBody file name first more line column) file name first more line
      column := by
  have hopens : (ofOperands .source (0 :: 0 :: file :: encodeString first)).OpensText file :=
    ⟨opcode_ofOperands (by decide) _, if_pos (by simp)⟩
  constructor
  case named =>
    refine ⟨_, lastWith_append_cons _ [] ⟨opcode_ofOperands (by decide) _, rfl⟩ ?_, rfl⟩
    simp +decide [DefinesString, or_imp, forall_and]
  case opened =>
    refine ⟨_, 0, 0, lastWith_append_cons _ [_] hopens ?_, rfl⟩
    simp +decide [OpensText, or_imp, forall_and]
  case continued =>
    have hcontinued := continuations_append_cons
      [ofOperands .string (file :: encodeString name)] hopens
      (by simp +decide : ∀ instruction ∈ more.map fun piece ↦
        ofOperands .sourceContinued (encodeString piece), instruction.opcode = .sourceContinued)
      (by simp +decide : ∀ instruction ∈ [ofOperands .line [file, line, column]], _)
    refine (congrArg (List.map Instruction.operands) hcontinued).trans ?_
    rw [List.map_map]
    rfl
  case marked =>
    have hmarked := markerIn_concat (ofOperands .string (file :: encodeString name) ::
      ofOperands .source (0 :: 0 :: file :: encodeString first) ::
      more.map fun piece ↦ ofOperands .sourceContinued (encodeString piece))
      (ofOperands .line [file, line, column])
    refine hmarked.trans ?_
    simp +decide [marker?]

theorem carriesInDebug_debugBody (set : UInt32) (ids : DebugIds) (name text : String)
    (line column : UInt32) (hstrings : ids.file ≠ ids.text) (hconstants : ids.line ≠ ids.column) :
    CarriesInDebug (debugBody set ids name text line column) ids name text line column := by
  constructor
  case named =>
    refine ⟨_, lastWith_append_cons _ [_] ⟨opcode_ofOperands (by decide) _, rfl⟩ ?_, rfl⟩
    simp +decide [DefinesString, hstrings.symm]
  case written =>
    refine ⟨_, lastWith_append_cons _ [_, _] ⟨opcode_ofOperands (by decide) _, rfl⟩ ?_, rfl⟩
    simp +decide [DefinesString]
  case source =>
    -- The debug line at the end is none, and the instruction before it is one of the set.
    show debugSourceIn ([_, _, _, _, _, _] ++ [_]) _ = _
    rw [debugSourceIn_concat, if_neg fun h ↦ absurd h.2.2.1 (by simp +decide)]
    show debugSourceIn ([_, _, _, _, _] ++ [_]) _ = _
    rw [debugSourceIn_concat, importedSet_cons set (by simp +decide),
      if_pos ⟨opcode_ofOperands (by decide) _, rfl, rfl, rfl⟩]
    rfl
  case line =>
    have hlast : lastWith (fun instruction ↦ instruction.DefinesConstant ids.line)
        (debugBody set ids name text line column) =
          some (ofOperands .constant [0, ids.line, line]) :=
      lastWith_append_cons _ [_, _, _] ⟨⟨opcode_ofOperands (by decide) _, rfl⟩, rfl⟩
        (by simp +decide [DefinesConstant, hconstants.symm])
    rw [constantIn, hlast]
    rfl
  case column =>
    have hlast : lastWith (fun instruction ↦ instruction.DefinesConstant ids.column)
        (debugBody set ids name text line column) =
          some (ofOperands .constant [0, ids.column, column]) :=
      lastWith_append_cons _ [_, _, _, _] ⟨⟨opcode_ofOperands (by decide) _, rfl⟩, rfl⟩
        (by simp +decide [DefinesConstant])
    rw [constantIn, hlast]
    rfl
  case marked =>
    show markerIn ([_, _, _, _, _, _] ++ [_]) = _
    rw [markerIn_concat, importedSet_cons set (by simp +decide)]
    simp +decide [marker?]

theorem wellFormed_linesBody {file : UInt32} {name first : String} {more : List String}
    {line column : UInt32} (hname : (encodeString name).length + 2 < 2 ^ 16)
    (hfirst : (encodeString first).length + 4 < 2 ^ 16)
    (hmore : ∀ piece ∈ more, (encodeString piece).length + 1 < 2 ^ 16) :
    ∀ instruction ∈ linesBody file name first more line column, instruction.WellFormed := by
  refine List.forall_mem_cons.mpr ⟨wellFormed_ofOperands (by decide) hname,
    List.forall_mem_cons.mpr ⟨wellFormed_ofOperands (by decide) hfirst,
      List.forall_mem_append.mpr ⟨?_, List.forall_mem_singleton.mpr
        (wellFormed_ofOperands (by decide) (by simp))⟩⟩⟩
  intro instruction hmem
  obtain ⟨piece, hpiece, rfl⟩ := List.mem_map.mp hmem
  exact wellFormed_ofOperands (by decide) (hmore piece hpiece)

theorem wellFormed_debugBody {set : UInt32} {ids : DebugIds} {name text : String}
    {line column : UInt32} (hname : (encodeString name).length + 2 < 2 ^ 16)
    (htext : (encodeString text).length + 2 < 2 ^ 16) :
    ∀ instruction ∈ debugBody set ids name text line column, instruction.WellFormed := by
  have himport : (encodeString debugSetName).length + 2 < 2 ^ 16 := by decide
  simp only [debugBody, List.forall_mem_cons]
  exact ⟨wellFormed_ofOperands (by decide) himport, wellFormed_ofOperands (by decide) hname,
    wellFormed_ofOperands (by decide) htext, wellFormed_ofOperands (by decide) (by simp),
    wellFormed_ofOperands (by decide) (by simp), wellFormed_ofOperands (by decide) (by simp),
    wellFormed_ofOperands (by decide) (by simp), fun _ h ↦ absurd h List.not_mem_nil⟩

/-! ### Agreement -/

theorem sourceMessage_of_place {code : Code} {position : UInt32} {location : SourceLocation}
    (h : (markerIn (runUpTo code position)).map (placeIn (runUpTo code position)) = some location)
    (printfOnly : Bool) :
    sourceMessage code position printfOnly = placedMessage position printfOnly location := by
  obtain ⟨marker, hmarker, rfl⟩ := Option.map_eq_some_iff.mp h
  rw [sourceMessage_eq, hmarker]

/-- A source in lines, with its text in any cut, and a source in debug instructions are reported
alike, behind the first line, wherever their markers are in force and whatever else the modules
hold: with the file's name, the line, the column and the line of the text. And there are modules of
both kinds for any name, text, line and column, if each literal fits into one instruction. -/
theorem debug_encodings_agree (name text first : String) (more : List String)
    (line column : UInt32) (hname : '\x00' ∉ name.toList) (htext : '\x00' ∉ text.toList)
    (hcut : first ++ String.join more = text) :
    (∀ (code other : Code) (position otherPosition file : UInt32) (ids : DebugIds)
        (printfOnly : Bool),
      CarriesInLines (runUpTo code position) file name first more line column →
      CarriesInDebug (runUpTo other otherPosition) ids name text line column →
      sourceMessage code position printfOnly =
        indexLine position ++ placeText printfOnly ⟨some name, line, column, some text⟩ ∧
      sourceMessage other otherPosition printfOnly =
        indexLine otherPosition ++ placeText printfOnly ⟨some name, line, column, some text⟩) ∧
    (∀ (header : List UInt32) (position file : UInt32), header.length = headerSize →
      more.length + 2 ≤ position.toNat → (encodeString name).length + 2 < 2 ^ 16 →
      (encodeString first).length + 4 < 2 ^ 16 →
      (∀ piece ∈ more, (encodeString piece).length + 1 < 2 ^ 16) →
      CarriesInLines
        (runUpTo (header ++ assemble (linesBody file name first more line column)) position)
        file name first more line column) ∧
    (∀ (header : List UInt32) (position set : UInt32) (ids : DebugIds),
      header.length = headerSize → 6 ≤ position.toNat →
      (encodeString name).length + 2 < 2 ^ 16 → (encodeString text).length + 2 < 2 ^ 16 →
      ids.file ≠ ids.text → ids.line ≠ ids.column →
      CarriesInDebug
        (runUpTo (header ++ assemble (debugBody set ids name text line column)) position)
        ids name text line column) := by
  refine ⟨fun code other position otherPosition file ids printfOnly hlines hdebug ↦
    ⟨sourceMessage_of_place (hlines.place hname htext hcut) printfOnly,
      sourceMessage_of_place (hdebug.place hname htext) printfOnly⟩, ?_, ?_⟩
  · intro header position file hheader hposition hnameFits hfirst hmore
    have hlength : (linesBody file name first more line column).length ≤ position.toNat + 1 := by
      simp only [linesBody, List.length_cons, List.length_append, List.length_map, List.length_nil]
      omega
    rw [runUpTo, instructions_append_assemble hheader
      (wellFormed_linesBody hnameFits hfirst hmore), List.take_of_length_le hlength]
    exact carriesInLines_linesBody file name first more line column
  · intro header position set ids hheader hposition hnameFits htextFits hstrings hconstants
    rw [runUpTo, instructions_append_assemble hheader (wellFormed_debugBody hnameFits htextFits),
      List.take_of_length_le (Nat.succ_le_succ hposition)]
    exact carriesInDebug_debugBody set ids name text line column hstrings hconstants

/-- Two lines of source, of which the first stands in the source instruction and the second in a
continuation, and the same text in a debug source: both modules are reported at the second line. -/
theorem debug_encodings_agree_two_pieces :
    let header : List UInt32 := [magicNumber, 0x00010300, 0, 16, 0]
    let code : Code := header ++ assemble (linesBody 1 "a.comp" "main\n" ["x = 1"] 2 5)
    let other : Code := header ++ assemble (debugBody 1 ⟨2, 3, 4, 5, 6⟩ "a.comp" "main\nx = 1" 2 5)
    let rest := "Shader validation error occurred in file a.comp at line 2, column 5\n2: x = 1\n"
    '\x00' ∉ "a.comp".toList ∧ '\x00' ∉ "main\nx = 1".toList ∧
      "main\n" ++ String.join ["x = 1"] = "main\nx = 1" ∧
      CarriesInLines (runUpTo code 3) 1 "a.comp" "main\n" ["x = 1"] 2 5 ∧
      CarriesInDebug (runUpTo other 6) ⟨2, 3, 4, 5, 6⟩ "a.comp" "main\nx = 1" 2 5 ∧
      sourceMessage code 3 false = "SPIR-V Instruction Index = 3\n" ++ rest ∧
      sourceMessage other 6 false = "SPIR-V Instruction Index = 6\n" ++ rest := by
  intro header code other rest
  have hname : '\x00' ∉ "a.comp".toList := by decide
  have htext : '\x00' ∉ "main\nx = 1".toList := by decide
  have hcut : "main\n" ++ String.join ["x = 1"] = "main\nx = 1" := by decide
  have hrest : placeText false ⟨some "a.comp", 2, 5, some "main\nx = 1"⟩ = rest := by decide
  obtain ⟨hagree, hlines, hdebug⟩ :=
    debug_encodings_agree "a.comp" "main\nx = 1" "main\n" ["x = 1"] 2 5 hname htext hcut
  have hcode := hlines header 3 1 rfl (by decide) (by decide) (by decide) (by decide)
  have hother := hdebug header 6 1 ⟨2, 3, 4, 5, 6⟩ rfl (by decide) (by decide) (by decide)
    (by decide) (by decide)
  have hmessages := hagree code other 3 6 1 _ false hcode hother
  rw [hrest] at hmessages
  exact ⟨hname, htext, hcut, hcode, hother, hmessages⟩

end ShaderGuard.Bytecode
