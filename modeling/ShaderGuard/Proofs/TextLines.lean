import ShaderGuard.Text.Lines

/-!
# The lines of a text

Lines are read character by character, and so are the blanks at the end of a line dropped. This
module tells the outcome without either scan. `HasLine` says of a text where its lines stand:
between line feeds, and as many feeds before a line as there are lines before it. `Reads` says of a
line what is left of it: all but the blanks at its end. The two together are exactly what is read
(`lines_trimEnd_iff`).

A text is empty, or one line without a feed, or a line in front of a feed and of another text
(`cut_at_feeds`). What is read follows these three cases (`lines_of_notMem`,
`exists_lines_append_feed`), and a text that ends at a feed has but the third (`ended_at_feeds`). A
carriage return in front of a feed is no character of the line that is read, but it is a blank, so
that it is dropped in any case.
-/

set_option autoImplicit false

namespace ShaderGuard.Text

/-! ### Where lines stand -/

/-- That a line stands in a text between what is before it and what is behind it. -/
structure StandsBetween (line before behind : List Char) : Prop where
  /-- The line begins the text, or follows a line feed. -/
  begins : ∀ c ∈ before.getLast?, c = '\n'
  feedless : '\n' ∉ line
  /-- The line ends the text, or a line feed follows. -/
  ends : ∀ c ∈ behind.head?, c = '\n'
  /-- At the very end of the text no empty line stands. -/
  nonempty : line ++ behind ≠ []

/-- That a text has some line with some number. Lines are counted from one, and as many line feeds
are before a line as there are lines before it. -/
def HasLine (text : List Char) (number : Nat) (line : List Char) : Prop :=
  ∃ before behind, text = before ++ line ++ behind ∧ StandsBetween line before behind ∧
    number = before.count '\n' + 1

/-- A text is empty, or one line without a feed, or a line in front of a feed and of another
text. -/
theorem cut_at_feeds {motive : List Char → Prop} (nil : motive [])
    (last : ∀ line, line ≠ [] → '\n' ∉ line → motive line)
    (feed : ∀ line rest, '\n' ∉ line → motive rest → motive (line ++ '\n' :: rest))
    (text : List Char) : motive text := by
  induction hlength : text.length using Nat.strongRecOn generalizing text with
  | ind length ih =>
    by_cases hfeed : '\n' ∈ text
    · obtain ⟨line, rest, rfl, hline⟩ := List.eq_append_cons_of_mem hfeed
      have hshorter : rest.length < length := by
        rw [← hlength, List.length_append, List.length_cons]
        omega
      exact feed line rest hline (ih rest.length hshorter rest rfl)
    · by_cases hnil : text = []
      · rw [hnil]
        exact nil
      · exact last text hnil hfeed

/-- A text behind a line feed ends as the whole does. -/
theorem ends_append_feed_iff (line rest : List Char) :
    (∀ c ∈ (line ++ '\n' :: rest).getLast?, c = '\n') ↔ ∀ c ∈ rest.getLast?, c = '\n' := by
  rw [List.getLast?_append, List.getLast?_cons]
  cases rest.getLast? <;> simp

/-- Assumes: a text that is empty or ends at a line feed. It consists of lines in front of feeds
alone. -/
theorem ended_at_feeds {motive : List Char → Prop} (nil : motive [])
    (feed : ∀ line rest, '\n' ∉ line → motive rest → motive (line ++ '\n' :: rest))
    {text : List Char} (h : ∀ c ∈ text.getLast?, c = '\n') : motive text := by
  induction text using cut_at_feeds with
  | nil => exact nil
  | last line hline hfeedless =>
    have hlast : line.getLast hline = '\n' := h _ (List.getLast?_eq_some_getLast hline)
    exact absurd (hlast ▸ List.getLast_mem hline) hfeedless
  | feed line rest hfeedless ih =>
    exact feed line rest hfeedless (ih ((ends_append_feed_iff line rest).mp h))

/-! ### Blanks at the end of a line -/

/-- That a line is what it reads, but for blanks at its end. -/
structure Reads (line shown : List Char) : Prop where
  rest : ∃ blanks, line = shown ++ blanks ∧ ∀ c ∈ blanks, isBlank c
  last : ∀ c ∈ shown.getLast?, ¬ isBlank c

/-- A character in front of what ends in no blank, itself a blank only if something is behind it. -/
theorem last_cons {c : Char} {shown : List Char} (hlast : ∀ d ∈ shown.getLast?, ¬ isBlank d)
    (hc : shown = [] → ¬ isBlank c) : ∀ d ∈ (c :: shown).getLast?, ¬ isBlank d := by
  cases shown with
  | nil => simpa using hc rfl
  | cons e rest =>
    rw [List.getLast?_cons_cons]
    exact hlast

theorem trimEnd_of_isBlank {blanks : List Char} (h : ∀ c ∈ blanks, isBlank c) :
    trimEnd blanks = [] := by
  induction blanks with
  | nil => rfl
  | cons c blanks ih =>
    obtain ⟨hc, hblanks⟩ := List.forall_mem_cons.mp h
    rw [trimEnd, ih hblanks]
    exact if_pos hc

/-- What trimming leaves of a line is what the line reads. -/
theorem reads_trimEnd (line : List Char) : Reads line (trimEnd line) := by
  induction line with
  | nil => exact ⟨⟨[], rfl, by simp⟩, by simp [trimEnd]⟩
  | cons c rest ih =>
    obtain ⟨⟨blanks, hrest, hblanks⟩, hlast⟩ := ih
    rw [trimEnd]
    split
    · next hnil =>
      rw [hnil, List.nil_append] at hrest
      by_cases hc : isBlank c
      · rw [if_pos hc]
        refine ⟨⟨c :: rest, rfl, List.forall_mem_cons.mpr ⟨hc, ?_⟩⟩, by simp⟩
        rwa [hrest]
      · rw [if_neg hc]
        refine ⟨⟨rest, rfl, ?_⟩, by simpa using hc⟩
        rwa [hrest]
    · next hkept =>
      refine ⟨⟨blanks, ?_, hblanks⟩, last_cons hlast fun hnil ↦ absurd hnil hkept⟩
      rw [List.cons_append, ← hrest]

/-- A line reads nothing but what trimming leaves of it. -/
theorem Reads.trimEnd_eq {line shown : List Char} (h : Reads line shown) :
    trimEnd line = shown := by
  obtain ⟨⟨blanks, rfl, hblanks⟩, hlast⟩ := h
  induction shown with
  | nil => exact trimEnd_of_isBlank hblanks
  | cons c rest ih =>
    have hrest : trimEnd (rest ++ blanks) = rest := by
      refine ih fun d hd ↦ hlast d ?_
      rw [List.getLast?_cons, Option.mem_def.mp hd]
      exact rfl
    rw [List.cons_append, trimEnd, hrest]
    cases rest with
    | nil => exact if_neg (hlast c rfl)
    | cons d rest => rfl

/-! ### Lines as they are read -/

/-- A text without a line feed is its only line. -/
theorem lines_of_notMem {line : List Char} (hline : line ≠ []) (h : '\n' ∉ line) :
    lines line = [line] := by
  induction line with
  | nil => exact absurd rfl hline
  | cons c rest ih =>
    obtain ⟨hc, hrest⟩ := not_or.mp (mt List.mem_cons.mpr h)
    have hreturn : ¬ (c = '\r' ∧ rest.head? = some '\n') :=
      fun hboth ↦ hrest (List.mem_of_mem_head? hboth.2)
    rw [lines, if_neg (Ne.symm hc), if_neg hreturn]
    cases rest with
    | nil => rfl
    | cons d rest => rw [ih (List.cons_ne_nil d rest) hrest]

/-- A line in front of a feed is read, up to blanks at its end, and then the lines behind the
feed. -/
theorem exists_lines_append_feed {line : List Char} (h : '\n' ∉ line) :
    ∃ read, trimEnd read = trimEnd line ∧
      ∀ rest, lines (line ++ '\n' :: rest) = read :: lines rest := by
  induction line with
  | nil => exact ⟨[], rfl, fun rest ↦ rfl⟩
  | cons c more ih =>
    obtain ⟨hc, hmore⟩ := not_or.mp (mt List.mem_cons.mpr h)
    obtain ⟨read, hread, hlines⟩ := ih hmore
    by_cases hreturn : c = '\r' ∧ more = []
    · -- The return belongs to the end of the line, and as a blank it would be dropped anyway.
      obtain ⟨rfl, rfl⟩ := hreturn
      exact ⟨[], by decide, fun rest ↦ rfl⟩
    · refine ⟨c :: read, by rw [trimEnd, trimEnd, hread], fun rest ↦ ?_⟩
      have hnoreturn : ¬ (c = '\r' ∧ (more ++ '\n' :: rest).head? = some '\n') := by
        rintro ⟨rfl, hhead⟩
        cases more with
        | nil => exact hreturn ⟨rfl, rfl⟩
        | cons d more => exact hmore (List.mem_of_mem_head? hhead)
      rw [List.cons_append, lines, if_neg (Ne.symm hc), if_neg hnoreturn, hlines]

/-- Assumes: a text that is empty or ends at a line feed. Its lines are read apart from what is
behind it. -/
theorem lines_append {before : List Char} (h : ∀ c ∈ before.getLast?, c = '\n')
    (text : List Char) : lines (before ++ text) = lines before ++ lines text := by
  refine ended_at_feeds (motive := fun before ↦
    lines (before ++ text) = lines before ++ lines text) rfl ?_ h
  intro line rest hfeedless ih
  obtain ⟨read, -, hlines⟩ := exists_lines_append_feed hfeedless
  rw [List.append_assoc, List.cons_append, hlines, hlines, ih, List.cons_append]

/-- Assumes: a text that is empty or ends at a line feed. As many lines are read as it has feeds. -/
theorem length_lines {before : List Char} (h : ∀ c ∈ before.getLast?, c = '\n') :
    (lines before).length = before.count '\n' := by
  refine ended_at_feeds (motive := fun before ↦ (lines before).length = before.count '\n') rfl ?_ h
  intro line rest hfeedless ih
  obtain ⟨read, -, hlines⟩ := exists_lines_append_feed hfeedless
  rw [hlines, List.length_cons, ih, List.count_append, List.count_eq_zero.mpr hfeedless,
    List.count_cons_self, Nat.zero_add]

/-- The line at the beginning of a text is the first that is read. -/
theorem StandsBetween.exists_lines {line before behind : List Char}
    (h : StandsBetween line before behind) :
    ∃ read later, trimEnd read = trimEnd line ∧ lines (line ++ behind) = read :: later := by
  cases behind with
  | nil =>
    refine ⟨line, [], rfl, ?_⟩
    rw [List.append_nil]
    exact lines_of_notMem (fun hnil ↦ h.nonempty (by rw [hnil, List.append_nil])) h.feedless
  | cons c rest =>
    obtain rfl : c = '\n' := h.ends c rfl
    obtain ⟨read, hread, hlines⟩ := exists_lines_append_feed h.feedless
    exact ⟨read, lines rest, hread, hlines rest⟩

/-- A line that stands in a text is read in its turn. -/
theorem HasLine.getElem?_lines {text line : List Char} {number : Nat}
    (h : HasLine text (number + 1) line) :
    ((lines text)[number]?).map trimEnd = some (trimEnd line) := by
  obtain ⟨before, behind, rfl, hstands, hnumber⟩ := h
  obtain ⟨read, later, hread, hlines⟩ := hstands.exists_lines
  have hlength : (lines before).length = number := by
    rw [length_lines hstands.begins]
    omega
  rw [List.append_assoc, lines_append hstands.begins, hlines, ← hlength,
    List.getElem?_append_right (Nat.le_refl _), Nat.sub_self, List.getElem?_cons_zero,
    Option.map_some, hread]

/-- What is read in its turn stands in the text. -/
theorem exists_hasLine {text shown : List Char} {number : Nat}
    (h : ((lines text)[number]?).map trimEnd = some shown) :
    ∃ line, HasLine text (number + 1) line ∧ trimEnd line = shown := by
  induction text using cut_at_feeds generalizing number with
  | nil => cases h
  | last line hline hfeedless =>
    rw [lines_of_notMem hline hfeedless] at h
    cases number with
    | succ number => cases h
    | zero =>
      refine ⟨line, ⟨[], [], by simp, ?_, rfl⟩, Option.some.inj h⟩
      exact ⟨by simp, hfeedless, by simp, by simpa using hline⟩
  | feed line rest hfeedless ih =>
    obtain ⟨read, hread, hlines⟩ := exists_lines_append_feed hfeedless
    rw [hlines] at h
    cases number with
    | zero =>
      refine ⟨line, ⟨[], '\n' :: rest, rfl, ?_, rfl⟩, hread.symm.trans (Option.some.inj h)⟩
      exact ⟨by simp, hfeedless, by simp, by simp⟩
    | succ number =>
      obtain ⟨later, ⟨before, behind, rfl, hstands, hnumber⟩, hshown⟩ := ih h
      refine ⟨later, ⟨line ++ '\n' :: before, behind, by simp, ?_, ?_⟩, hshown⟩
      · exact ⟨(ends_append_feed_iff line before).mpr hstands.begins, hstands.feedless,
          hstands.ends, hstands.nonempty⟩
      · rw [List.count_append, List.count_eq_zero.mpr hfeedless, List.count_cons_self, Nat.zero_add,
          hnumber]

/-- What is read of a text in some turn, without the blanks at its end, is what the line with that
number reads, and nothing is read if the text has no such line. -/
theorem lines_trimEnd_iff (text : List Char) (number : Nat) (shown : List Char) :
    ((lines text)[number]?).map trimEnd = some shown ↔
      ∃ line, HasLine text (number + 1) line ∧ Reads line shown := by
  constructor
  · intro h
    obtain ⟨line, hline, rfl⟩ := exists_hasLine h
    exact ⟨line, hline, reads_trimEnd line⟩
  · rintro ⟨line, hline, hshown⟩
    rw [hline.getElem?_lines, hshown.trimEnd_eq]

end ShaderGuard.Text
