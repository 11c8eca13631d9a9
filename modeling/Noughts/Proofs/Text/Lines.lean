/-!
# Lines of bytes

A text can be split at its line feeds, `splitLines`. The last part is the line that is not finished
yet, which is empty if the text ends with a line feed, and all parts before it are finished lines.
Lines without line feeds that are each written with one behind them, `terminated`, are split into
themselves again: `splitLines_terminated`.
-/

namespace Noughts

/-- Lines as they stand in an input, each with a line feed behind it. -/
def terminated (lines : List (List UInt8)) : List UInt8 := lines.flatMap fun line => line ++ [0x0a]

/-- A line without the carriage return at its end, if there is one. -/
def dropReturn (line : List UInt8) : List UInt8 :=
  if line.getLast? = some 0x0d then line.dropLast else line

/-- A text split at its line feeds. The last part is the line that is not finished yet. -/
def splitLines (text : List UInt8) : List (List UInt8) := text.splitOn 0x0a

/-- The lines of a text that end with a line feed. -/
def finishedLines (text : List UInt8) : List (List UInt8) := (splitLines text).dropLast

/-- What follows the last line feed of a text. -/
def unfinishedLine (text : List UInt8) : List UInt8 := (splitLines text).getLastD []

/-- At a line feed a text is split into what stands before it and what stands behind it. -/
theorem splitLines_append_newline (text rest : List UInt8) :
    splitLines (text ++ 0x0a :: rest) = splitLines text ++ splitLines rest :=
  List.splitOnP_append_cons text rest rfl

/-- A text without a line feed is one line. -/
theorem splitLines_of_not_mem {line : List UInt8} (h : 0x0a ∉ line) : splitLines line = [line] := by
  refine List.splitOnP_eq_singleton fun b hb => ?_
  have hne : b ≠ 0x0a := fun heq => h (heq ▸ hb)
  simpa using hne

/-- A text without a line feed in it, or one with a last line feed in it. -/
theorem exists_last_newline (text : List UInt8) :
    0x0a ∉ text ∨ ∃ before line, text = before ++ 0x0a :: line ∧ 0x0a ∉ line := by
  induction text with
  | nil => exact Or.inl List.not_mem_nil
  | cons b text ih =>
      rcases ih with hnone | ⟨before, line, rfl, hline⟩
      · by_cases hb : b = 0x0a
        · exact Or.inr ⟨[], text, by rw [hb]; rfl, hnone⟩
        · exact Or.inl fun hmem => (List.mem_cons.1 hmem).elim (fun heq => hb heq.symm) hnone
      · exact Or.inr ⟨b :: before, line, rfl, hline⟩

/-- What has no line feed in it is joined to the unfinished line. -/
theorem splitLines_append_of_not_mem {line : List UInt8} (h : 0x0a ∉ line) (text : List UInt8) :
    splitLines (text ++ line) = finishedLines text ++ [unfinishedLine text ++ line] := by
  have hjoin (last : List UInt8) (hlast : 0x0a ∉ last) : 0x0a ∉ last ++ line :=
    fun hmem => (List.mem_append.1 hmem).elim hlast h
  rcases exists_last_newline text with hnone | ⟨before, last, rfl, hlast⟩
  · simp [finishedLines, unfinishedLine, splitLines_of_not_mem hnone,
      splitLines_of_not_mem (hjoin text hnone)]
  · rw [List.append_assoc, List.cons_append]
    simp [finishedLines, unfinishedLine, splitLines_append_newline, splitLines_of_not_mem hlast,
      splitLines_of_not_mem (hjoin last hlast)]

/-- A line that is added to a text, and what comes behind it. -/
theorem splitLines_append_line {line : List UInt8} (h : 0x0a ∉ line) (text rest : List UInt8) :
    splitLines (text ++ (line ++ [0x0a]) ++ rest) =
      finishedLines text ++ (unfinishedLine text ++ line) :: splitLines rest := by
  have hassoc : text ++ (line ++ [0x0a]) ++ rest = (text ++ line) ++ 0x0a :: rest := by simp
  rw [hassoc, splitLines_append_newline, splitLines_append_of_not_mem h]
  simp

/-- Behind a line that was added a new line begins. -/
theorem unfinishedLine_append_line {line : List UInt8} (h : 0x0a ∉ line) (text : List UInt8) :
    unfinishedLine (text ++ (line ++ [0x0a])) = [] := by
  have hsplit := splitLines_append_line h text []
  rw [List.append_nil] at hsplit
  have hempty : splitLines [] = [[]] := rfl
  rw [unfinishedLine, hsplit, hempty]
  simp

/-! ## Texts made of lines -/

/-- The first of several lines stands in front of a line feed and the others. -/
theorem terminated_cons (line : List UInt8) (lines : List (List UInt8)) :
    terminated (line :: lines) = line ++ 0x0a :: terminated lines := by
  simp [terminated]

/-- Written lines are split into themselves, and behind them a new line begins. -/
theorem splitLines_terminated {lines : List (List UInt8)} (h : ∀ line ∈ lines, 0x0a ∉ line) :
    splitLines (terminated lines) = lines ++ [[]] := by
  induction lines with
  | nil => rfl
  | cons line lines ih =>
      rw [terminated_cons, splitLines_append_newline,
        splitLines_of_not_mem (h line List.mem_cons_self),
        ih fun other hother => h other (List.mem_cons_of_mem _ hother)]
      rfl

/-- Behind a text that is empty or ends with a line feed, more text is split by itself. -/
theorem splitLines_append_of_ends {text : List UInt8}
    (h : text = [] ∨ text.getLast? = some 0x0a) (rest : List UInt8) :
    splitLines (text ++ rest) = finishedLines text ++ splitLines rest := by
  rcases h with rfl | hlast
  · rfl
  · obtain ⟨before, rfl⟩ := List.getLast?_eq_some_iff.1 hlast
    have hfinished : finishedLines (before ++ [0x0a]) = splitLines before := by
      rw [finishedLines, splitLines_append_newline]
      exact List.dropLast_concat
    rw [hfinished, List.append_assoc, List.singleton_append, splitLines_append_newline]

end Noughts
