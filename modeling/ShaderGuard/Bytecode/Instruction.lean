import ShaderGuard.Bytecode.Opcode

/-!
Shader code as a stream of instructions.

Code is a list of words. Five words of header come first, then one instruction after the other; the
high half of an instruction's first word is the number of its words and the low half its opcode.
`instructions` cuts the stream up to the first place that cannot be cut: a word count of zero, or
one that reaches past the end. `assemble` is the way back, and the two agree
(`instructions_assemble`).
-/

set_option autoImplicit false

namespace ShaderGuard

/-- Shader code: a list of words. -/
abbrev Code := List UInt32

namespace Bytecode

/-- The word that shader code begins with. -/
def magicNumber : UInt32 := 0x07230203

/-- The number of words in the header. -/
def headerSize : Nat := 5

/-- Whether code begins with the magic number. -/
def hasMagic (code : Code) : Bool := code.head? == some magicNumber

/-- One instruction: its words, the first of which holds the word count and the opcode. -/
structure Instruction where
  words : List UInt32
  deriving DecidableEq

namespace Instruction

/-- The word at an index, counted from the first word; zero behind the end. -/
def word (instruction : Instruction) (index : Nat) : UInt32 := instruction.words.getD index 0

/-- The opcode: the low half of the first word. -/
def opcode (instruction : Instruction) : Opcode := (instruction.word 0 &&& 0xffff).toNat

/-- The number of words. -/
def wordCount (instruction : Instruction) : Nat := instruction.words.length

/-- The words behind the first one. -/
def operands (instruction : Instruction) : List UInt32 := instruction.words.drop 1

/-- The number of words that a first word announces: its high half. -/
def announced (first : UInt32) : Nat := (first >>> 16).toNat

/-- An instruction with at least one word, and as many as its first word announces. -/
def WellFormed (instruction : Instruction) : Prop :=
  instruction.words ≠ [] ∧ announced (instruction.word 0) = instruction.wordCount

instance (instruction : Instruction) : Decidable instruction.WellFormed :=
  inferInstanceAs (Decidable (_ ∧ _))

end Instruction

open Instruction

/-- The instruction that a stream begins with, and the words behind it. -/
def split? : List UInt32 → Option (Instruction × List UInt32)
  | [] => none
  | first :: rest =>
    let count := announced first
    if count = 0 ∨ rest.length + 1 < count then none
    else some (⟨first :: rest.take (count - 1)⟩, rest.drop (count - 1))

theorem length_lt_of_split? {stream : List UInt32} {head : Instruction} {rest : List UInt32}
    (h : split? stream = some (head, rest)) : rest.length < stream.length := by
  cases stream with
  | nil => simp [split?] at h
  | cons first tail =>
    simp only [split?] at h
    split at h
    · simp at h
    · simp only [Option.some.injEq, Prod.mk.injEq] at h
      rw [← h.2, List.length_drop, List.length_cons]
      omega

/-- The instructions of a stream up to the first place that cannot be cut, and the words from there
on. -/
def cut (stream : List UInt32) : List Instruction × List UInt32 :=
  match _h : split? stream with
  | none => ([], stream)
  | some (head, rest) => (head :: (cut rest).1, (cut rest).2)
termination_by stream.length
decreasing_by all_goals exact length_lt_of_split? _h

/-- The instructions of a module, in order. -/
def instructions (code : Code) : List Instruction := (cut (code.drop headerSize)).1

/-- The words of a list of instructions. -/
def assemble (body : List Instruction) : List UInt32 := body.flatMap Instruction.words

theorem append_of_split? {stream : List UInt32} {head : Instruction} {rest : List UInt32}
    (h : split? stream = some (head, rest)) : head.words ++ rest = stream := by
  cases stream with
  | nil => simp [split?] at h
  | cons first tail =>
    simp only [split?] at h
    split at h
    · simp at h
    · simp only [Option.some.injEq, Prod.mk.injEq] at h
      obtain ⟨rfl, rfl⟩ := h
      simp

theorem wellFormed_of_split? {stream : List UInt32} {head : Instruction} {rest : List UInt32}
    (h : split? stream = some (head, rest)) : head.WellFormed := by
  cases stream with
  | nil => simp [split?] at h
  | cons first tail =>
    simp only [split?] at h
    split at h
    · simp at h
    · next hcount =>
      simp only [Option.some.injEq, Prod.mk.injEq] at h
      obtain ⟨rfl, rfl⟩ := h
      refine ⟨by simp, ?_⟩
      simp only [word, wordCount, List.getD_cons_zero, List.length_cons, List.length_take]
      omega

theorem split?_append {head : Instruction} (h : head.WellFormed) (rest : List UInt32) :
    split? (head.words ++ rest) = some (head, rest) := by
  obtain ⟨words⟩ := head
  obtain ⟨hne, hcount⟩ := h
  cases words with
  | nil => exact absurd rfl hne
  | cons first tail =>
    simp only [word, wordCount, List.getD_cons_zero, List.length_cons] at hcount
    simp only [List.cons_append, split?, List.length_append]
    rw [if_neg (by omega), hcount]
    simp

theorem cut_of_split?_eq_none {stream : List UInt32} (h : split? stream = none) :
    cut stream = ([], stream) := by
  rw [cut]
  split
  · rfl
  · next heq => simp [h] at heq

theorem cut_of_split?_eq_some {stream : List UInt32} {head : Instruction} {rest : List UInt32}
    (h : split? stream = some (head, rest)) :
    cut stream = (head :: (cut rest).1, (cut rest).2) := by
  conv => lhs; rw [cut]
  split
  · next heq => simp [h] at heq
  · next heq =>
    rw [h] at heq
    cases heq
    rfl

theorem cut_append {head : Instruction} (h : head.WellFormed) (rest : List UInt32) :
    cut (head.words ++ rest) = (head :: (cut rest).1, (cut rest).2) :=
  cut_of_split?_eq_some (split?_append h rest)

/-- Well-formed instructions are read back as they were written, and what follows them is read as
if it stood alone. -/
theorem instructions_assemble (header : List UInt32) (hheader : header.length = headerSize)
    (body : List Instruction) (hbody : ∀ instruction ∈ body, instruction.WellFormed)
    (tail : List UInt32) :
    instructions (header ++ (assemble body ++ tail)) = body ++ instructions (header ++ tail) := by
  simp only [instructions, ← hheader, List.drop_left]
  induction body with
  | nil => rfl
  | cons head rest ih =>
    have hhead := hbody head List.mem_cons_self
    have hrest := ih fun instruction hmem ↦ hbody instruction (List.mem_cons_of_mem _ hmem)
    simp only [assemble, List.flatMap_cons, List.append_assoc] at hrest ⊢
    rw [cut_append hhead]
    simp [hrest]

end Bytecode

end ShaderGuard
