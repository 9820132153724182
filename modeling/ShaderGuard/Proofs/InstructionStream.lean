import ShaderGuard.Bytecode.Instruction

/-!
# Reading a stream of instructions

Instructions have no common length, so the next one is found only by way of all before it, and
whatever code is submitted has to be cut in this manner, truncated or not. A cut takes nothing out
of order and leaves nothing behind that could still be cut: the instructions and the words from the
first place that cannot be cut are the stream (`append_cut`), each instruction has as many words as
it announces (`wellFormed_cut`), and the place is the end, or one whose word count is zero or
reaches past the end (`split?_cut`).

A reader goes through code by indices instead. It looks at the word at its position, takes the words
up to the position plus that word's count, and moves on; a step that asked for words which are not
there would have no result. Every step has one, the reader stops, and what it reads are the
instructions (`InstructionReader.reads_iff`).
-/

set_option autoImplicit false

namespace ShaderGuard.Bytecode

open Instruction

/-! ### Cutting -/

/-- A stream cannot be cut exactly if it is empty, or if its first word announces no word or more
words than there are. -/
theorem split?_eq_none_iff (stream : List UInt32) :
    split? stream = none ↔ ∀ first more, stream = first :: more →
      announced first = 0 ∨ stream.length < announced first := by
  cases stream with
  | nil => simp [split?]
  | cons first more =>
    constructor
    · rintro hnone _ _ ⟨⟩
      simp only [split?] at hnone
      split at hnone
      · next hcount => exact hcount
      · cases hnone
    · intro hcount
      exact if_pos (hcount first more rfl)

/-- A cut is an induction on the stream: it takes one instruction off as long as that can be done.
-/
theorem cut_induction {motive : List UInt32 → Prop}
    (uncut : ∀ stream, split? stream = none → motive stream)
    (cut : ∀ stream head rest, split? stream = some (head, rest) → motive rest → motive stream)
    (stream : List UInt32) : motive stream := by
  cases hsplit : split? stream with
  | none => exact uncut stream hsplit
  | some split =>
    exact cut stream split.1 split.2 hsplit (cut_induction uncut cut split.2)
termination_by stream.length
decreasing_by exact length_lt_of_split? hsplit

/-- The instructions and what is left of a stream are the stream. -/
theorem append_cut (stream : List UInt32) :
    assemble (cut stream).1 ++ (cut stream).2 = stream := by
  induction stream using cut_induction with
  | uncut stream hsplit =>
    rw [cut_of_split?_eq_none hsplit]
    rfl
  | cut stream head rest hsplit ih =>
    rw [cut_of_split?_eq_some hsplit, assemble, List.flatMap_cons, List.append_assoc]
    exact (congrArg (head.words ++ ·) ih).trans (append_of_split? hsplit)

theorem wellFormed_cut (stream : List UInt32) : ∀ instruction ∈ (cut stream).1,
    instruction.WellFormed := by
  induction stream using cut_induction with
  | uncut stream hsplit =>
    rw [cut_of_split?_eq_none hsplit]
    exact fun _ h ↦ absurd h List.not_mem_nil
  | cut stream head rest hsplit ih =>
    rw [cut_of_split?_eq_some hsplit]
    exact List.forall_mem_cons.mpr ⟨wellFormed_of_split? hsplit, ih⟩

/-- What is left of a stream cannot be cut. -/
theorem split?_cut (stream : List UInt32) : split? (cut stream).2 = none := by
  induction stream using cut_induction with
  | uncut stream hsplit => rwa [cut_of_split?_eq_none hsplit]
  | cut stream head rest hsplit ih => rwa [cut_of_split?_eq_some hsplit]

/-- Well-formed instructions behind a header are read back, and nothing else. -/
theorem instructions_append_assemble {header : List UInt32} {body : List Instruction}
    (hheader : header.length = headerSize)
    (hbody : ∀ instruction ∈ body, instruction.WellFormed) :
    instructions (header ++ assemble body) = body := by
  have hread := instructions_assemble header hheader body hbody []
  have hnone : instructions (header ++ []) = [] := by
    rw [instructions, ← hheader, List.append_nil, List.drop_length, cut_of_split?_eq_none rfl]
  rwa [List.append_nil, hnone, List.append_nil] at hread

/-! ### Reading by positions -/

/-- A place in code from which instructions are read. -/
structure InstructionReader where
  code : Code
  position : Nat

namespace InstructionReader

/-- The reader behind the header, or at the end of code that is shorter. -/
def start (code : Code) : InstructionReader := ⟨code, min headerSize code.length⟩

/-- The reader at the end of code. -/
def finish (code : Code) : InstructionReader := ⟨code, code.length⟩

/-- The words from one index up to another, if both are in range and in order. -/
def slice? (code : Code) (first last : Nat) : Option (List UInt32) :=
  if first ≤ last ∧ last ≤ code.length then some ((code.drop first).take (last - first)) else none

/-- The instruction that is read next, if there is one, and the reader behind it. A count of zero or
past the end sends the reader to the end of the code. There is no result if an index is out of
range. -/
def next? (reader : InstructionReader) : Option (Option Instruction × InstructionReader) :=
  match reader.code[reader.position]? with
  | none => some (none, reader)
  | some first =>
    let behind := reader.position + announced first
    if announced first = 0 ∨ reader.code.length < behind then
      some (none, finish reader.code)
    else
      (slice? reader.code reader.position behind).map fun words ↦
        (some ⟨words⟩, ⟨reader.code, behind⟩)

/-- That a reader reads some instructions and then no further one, and where it is then. -/
inductive Reads : InstructionReader → List Instruction → InstructionReader → Prop
  | done {reader last : InstructionReader} (h : reader.next? = some (none, last)) :
      Reads reader [] last
  | more {reader next last : InstructionReader} {head : Instruction} {rest : List Instruction}
      (h : reader.next? = some (some head, next)) (hrest : Reads next rest last) :
      Reads reader (head :: rest) last

/-- A reader reads in one way only. -/
theorem Reads.unique {reader first second : InstructionReader} {run other : List Instruction}
    (hrun : Reads reader run first) (hother : Reads reader other second) :
    run = other ∧ first = second := by
  induction hrun generalizing other second with
  | done h =>
    cases hother with
    | done hdone =>
      rw [h] at hdone
      cases hdone
      exact ⟨rfl, rfl⟩
    | more hmore hrest =>
      rw [h] at hmore
      cases hmore
  | more h hrest ih =>
    cases hother with
    | done hdone =>
      rw [h] at hdone
      cases hdone
    | more hmore hlater =>
      rw [h] at hmore
      cases hmore
      obtain ⟨rfl, rfl⟩ := ih hlater
      exact ⟨rfl, rfl⟩

/-- Where the stream behind a position cannot be cut, nothing is read, and the reader is at the end
of the code. -/
theorem next?_of_split?_eq_none {code : Code} {position : Nat} (hposition : position ≤ code.length)
    (h : split? (code.drop position) = none) :
    next? ⟨code, position⟩ = some (none, finish code) := by
  have hcount := (split?_eq_none_iff _).mp h
  unfold next?
  cases hfirst : code[position]? with
  | none =>
    have hend : position = code.length :=
      Nat.le_antisymm hposition (List.getElem?_eq_none_iff.mp hfirst)
    subst hend
    rfl
  | some first =>
    obtain ⟨hlt, hget⟩ := List.getElem?_eq_some_iff.mp hfirst
    have hdrop : code.drop position = first :: code.drop (position + 1) := by
      rw [List.drop_eq_getElem_cons hlt, hget]
    have hannounced := hcount first _ hdrop
    rw [List.length_drop] at hannounced
    have hbad : announced first = 0 ∨ code.length < position + announced first := by omega
    exact if_pos hbad

/-- Where the stream behind a position is cut, what is cut off is read, and the reader is at what is
left. -/
theorem next?_of_split?_eq_some {code : Code} {position : Nat} {head : Instruction}
    {rest : List UInt32} (h : split? (code.drop position) = some (head, rest)) :
    next? ⟨code, position⟩ = some (some head, ⟨code, position + head.wordCount⟩) ∧
      position + head.wordCount ≤ code.length ∧
      rest = code.drop (position + head.wordCount) := by
  have happend := append_of_split? h
  obtain ⟨hne, hannounced⟩ := wellFormed_of_split? h
  have hlength : head.wordCount + rest.length = code.length - position := by
    rw [wordCount, ← List.length_append, happend, List.length_drop]
  have hpos : 0 < head.wordCount := List.length_pos_iff.mpr hne
  have hlt : position < code.length := by omega
  have hfirst : code[position]? = some (head.word 0) := by
    have hhead : (code.drop position)[0]? = head.words[0]? := by
      rw [← happend, List.getElem?_append_left hpos]
    rw [List.getElem?_drop, Nat.add_zero] at hhead
    rw [hhead, word, List.getD_eq_getElem?_getD, List.getElem?_eq_getElem hpos]
    rfl
  refine ⟨?_, by omega, ?_⟩
  · have htake : (code.drop position).take head.wordCount = head.words := by
      rw [← happend]
      exact List.take_left
    simp only [next?, hfirst, hannounced, slice?, Nat.add_sub_cancel_left, htake]
    rw [if_neg (by omega), if_pos (by omega)]
    rfl
  · rw [← List.drop_drop, ← happend]
    exact List.drop_left.symm

/-- From any position in range, the reader reads what the stream behind it is cut into. -/
theorem reads_cut {code : Code} {position : Nat} (hposition : position ≤ code.length) :
    Reads ⟨code, position⟩ (cut (code.drop position)).1 (finish code) := by
  generalize hstream : code.drop position = stream
  induction stream using cut_induction generalizing position with
  | uncut stream hsplit =>
    rw [cut_of_split?_eq_none hsplit]
    exact .done (next?_of_split?_eq_none hposition (hstream ▸ hsplit))
  | cut stream head rest hsplit ih =>
    obtain ⟨hnext, hbehind, hrest⟩ := next?_of_split?_eq_some (hstream ▸ hsplit)
    rw [cut_of_split?_eq_some hsplit]
    exact .more hnext (ih hbehind hrest.symm)

/-- Reading code ends, no index is out of range on the way, and what is read are the code's
instructions. -/
theorem reads_iff (code : Code) (run : List Instruction) (last : InstructionReader) :
    Reads (start code) run last ↔ run = instructions code ∧ last = finish code := by
  have hcut : Reads (start code) (cut (code.drop (min headerSize code.length))).1 (finish code) :=
    reads_cut (Nat.min_le_right _ _)
  have hdrop : code.drop (min headerSize code.length) = code.drop headerSize := by
    by_cases hshort : headerSize ≤ code.length
    · rw [Nat.min_eq_left hshort]
    · rw [Nat.min_eq_right (by omega), List.drop_length, List.drop_eq_nil_of_le (by omega)]
  rw [hdrop] at hcut
  constructor
  · exact fun hreads ↦ hreads.unique hcut
  · rintro ⟨rfl, rfl⟩
    exact hcut

end InstructionReader

open InstructionReader

/-- Whatever the words of some code, reading it comes to an end without an index out of range, and
what is read, word by word, is the beginning of what stands behind the header: instructions with at
least one word and as many as their first word announces, up to the end or up to a word that
announces none or more than are left. The other way round, instructions written behind a header are
read back, and what follows them is read as if it stood alone. -/
theorem stream_cut_and_read :
    (∀ code run last,
      Reads (start code) run last ↔ run = instructions code ∧ last = finish code) ∧
    (∀ code : Code, ∃ rest, code.drop headerSize = assemble (instructions code) ++ rest ∧
      (∀ instruction ∈ instructions code, instruction.words ≠ [] ∧
        announced (instruction.word 0) = instruction.wordCount) ∧
      (rest = [] ∨ ∃ first more, rest = first :: more ∧
        (announced first = 0 ∨ rest.length < announced first))) ∧
    ∀ (header : List UInt32) (body : List Instruction) (tail : List UInt32),
      header.length = headerSize → (∀ instruction ∈ body, instruction.WellFormed) →
      instructions (header ++ (assemble body ++ tail)) =
        body ++ instructions (header ++ tail) := by
  refine ⟨reads_iff, fun code ↦ ?_, fun header body tail hheader hbody ↦
    instructions_assemble header hheader body hbody tail⟩
  refine ⟨(cut (code.drop headerSize)).2, (append_cut _).symm, wellFormed_cut _, ?_⟩
  have hstuck := (split?_eq_none_iff _).mp (split?_cut (code.drop headerSize))
  cases hrest : (cut (code.drop headerSize)).2 with
  | nil => exact Or.inl rfl
  | cons first more =>
    rw [hrest] at hstuck
    exact Or.inr ⟨first, more, rfl, hstuck first more rfl⟩

/-- A capability and an instruction without operands stand behind the header, and then a line
instruction that has lost its last two words: the two are read, and the reader is at the end. -/
theorem stream_cut_and_read_truncated :
    let header : List UInt32 := [magicNumber, 0x00010300, 0, 16, 0]
    let body : List Instruction := [⟨[0x00020011, 1]⟩, ⟨[0x00010000]⟩]
    let tail : List UInt32 := [0x00040008, 7]
    let code : Code := header ++ (assemble body ++ tail)
    header.length = headerSize ∧ (∀ instruction ∈ body, instruction.WellFormed) ∧
      instructions code = body ∧ Reads (start code) body ⟨code, 10⟩ := by
  intro header body tail code
  have hheader : header.length = headerSize := rfl
  have hbody : ∀ instruction ∈ body, instruction.WellFormed := by decide
  have htail : instructions (header ++ tail) = [] := by
    have hstuck : split? tail = none := by decide
    show (cut tail).1 = []
    rw [cut_of_split?_eq_none hstuck]
  obtain ⟨hread, -, hback⟩ := stream_cut_and_read
  have hcode : instructions code = body := by
    rw [hback header body tail hheader hbody, htail, List.append_nil]
  exact ⟨hheader, hbody, hcode, (hread _ _ _).mpr ⟨hcode.symm, rfl⟩⟩

end ShaderGuard.Bytecode
