import PostingTerminal.Text.Lines

/-!
# Lines of texts put together

* `EndsLine` — the texts that leave no line unfinished: the empty one and those that end with a
  line feed.  Behind such a text a new line begins (`lines_append`).
* `lines_line` — a text without a line feed, ended by one, is one line; a carriage return at its
  end goes with the line feed.
* `lines_unfinished` — without the line feed it is one line as it stands, if it is not empty.
* `finished`, `unfinished` — every text is whole lines followed by an unfinished one, which may
  be empty (`finished_append_unfinished`).
-/

namespace PostingTerminal.Text

/-- **No line is left unfinished** at the end of a text. -/
def EndsLine (cs : List Char) : Prop := ∀ c ∈ cs.getLast?, c = '\n'

/-- The empty text leaves no line unfinished. -/
theorem endsLine_nil : EndsLine [] := by simp [EndsLine]

/-- A text that ends with a line feed leaves no line unfinished. -/
theorem endsLine_concat (cs : List Char) : EndsLine (cs ++ ['\n']) := by simp [EndsLine]

/-- A text without an unfinished line is empty or ends with a line feed. -/
theorem EndsLine.eq_nil_or_concat {cs : List Char} (h : EndsLine cs) :
    cs = [] ∨ ∃ before, cs = before ++ ['\n'] := by
  rcases List.eq_nil_or_concat cs with rfl | ⟨before, c, rfl⟩
  · exact .inl rfl
  · have hc : c = '\n' := h c (by simp)
    exact .inr ⟨before, by rw [hc, List.concat_eq_append]⟩

/-- What is put behind whole lines ends them where it ends its own. -/
theorem EndsLine.append {a b : List Char} (ha : EndsLine a) (hb : EndsLine b) :
    EndsLine (a ++ b) := by
  rcases hb.eq_nil_or_concat with rfl | ⟨before, rfl⟩
  · rwa [List.append_nil]
  · rw [← List.append_assoc]
    exact endsLine_concat (a ++ before)

/-- The end of a text that ends its lines ends them too. -/
theorem EndsLine.of_append {a b : List Char} (h : EndsLine (a ++ b)) : EndsLine b := by
  intro c hc
  apply h c
  rw [List.getLast?_append, Option.mem_def.1 hc]
  rfl

/-- A line feed ends the current line, and what follows begins a new one. -/
theorem linesFrom_append (current body rest : List Char) :
    linesFrom current (body ++ '\n' :: rest)
      = linesFrom current (body ++ ['\n']) ++ lines rest := by
  induction body generalizing current with
  | nil => simp [linesFrom, lines]
  | cons c body ih =>
    by_cases hc : c = '\n'
    · simp [linesFrom, hc, ih]
    · simp [linesFrom, hc, ih]

/-- **Behind whole lines a new line begins.** -/
theorem lines_append {a : List Char} (h : EndsLine a) (b : List Char) :
    lines (a ++ b) = lines a ++ lines b := by
  rcases h.eq_nil_or_concat with rfl | ⟨before, rfl⟩
  · rfl
  · rw [List.append_assoc, List.singleton_append]
    exact linesFrom_append [] before b

/-- Characters other than a line feed join the current line. -/
theorem linesFrom_of_not_mem {body : List Char} (h : '\n' ∉ body) (current rest : List Char) :
    linesFrom current (body ++ rest) = linesFrom (body.reverse ++ current) rest := by
  induction body generalizing current with
  | nil => rfl
  | cons c body ih =>
    obtain ⟨hc, hbody⟩ : '\n' ≠ c ∧ '\n' ∉ body := by simpa using h
    simp [linesFrom, Ne.symm hc, ih hbody]

/-- **A text without a line feed, ended by one, is one line.** -/
theorem lines_line {body : List Char} (h : '\n' ∉ body) :
    lines (body ++ ['\n']) = [dropReturn body] := by
  rw [lines, linesFrom_of_not_mem h]
  simp [linesFrom]

/-- An unfinished line is a line if it is not empty. -/
theorem lines_unfinished {body : List Char} (h : '\n' ∉ body) (hne : body ≠ []) :
    lines body = [body] := by
  have hjoin := linesFrom_of_not_mem h [] []
  rw [List.append_nil, List.append_nil] at hjoin
  obtain ⟨c, cs, hcs⟩ : ∃ c cs, body.reverse = c :: cs :=
    List.exists_cons_of_ne_nil (by simpa using hne)
  rw [lines, hjoin, hcs, linesFrom, ← hcs, List.reverse_reverse]
  simp

/-- The whole lines of a text: all up to its last line feed. -/
def finished (cs : List Char) : List Char := (cs.reverse.dropWhile (· ≠ '\n')).reverse

/-- The unfinished line at the end of a text: what stands behind its last line feed. -/
def unfinished (cs : List Char) : List Char := (cs.reverse.takeWhile (· ≠ '\n')).reverse

/-- **Every text is whole lines followed by an unfinished one.** -/
theorem finished_append_unfinished (cs : List Char) : finished cs ++ unfinished cs = cs := by
  rw [finished, unfinished, ← List.reverse_append, List.takeWhile_append_dropWhile,
    List.reverse_reverse]

/-- Whole lines leave none unfinished. -/
theorem endsLine_finished (cs : List Char) : EndsLine (finished cs) := by
  intro c hc
  rw [finished, List.getLast?_reverse] at hc
  have hnot := List.head?_dropWhile_not (· ≠ '\n') cs.reverse
  rw [Option.mem_def.1 hc] at hnot
  simpa using hnot

/-- What is unfinished has no line feed. -/
theorem newline_not_mem_unfinished (cs : List Char) : '\n' ∉ unfinished cs := by
  intro h
  rw [unfinished, List.mem_reverse] at h
  simpa using List.all_eq_true.1 List.all_takeWhile _ h

/-- A text without a line feed is unfinished from its beginning. -/
theorem finished_of_not_mem {cs : List Char} (h : '\n' ∉ cs) : finished cs = [] := by
  have hother : ∀ c ∈ cs.reverse, decide (c ≠ '\n') = true := by
    intro c hc
    rw [List.mem_reverse] at hc
    simpa using ne_of_mem_of_not_mem hc h
  rw [finished, ← List.append_nil cs.reverse, List.dropWhile_append_of_pos hother]
  rfl

/-- A text without a line feed is unfinished. -/
theorem unfinished_of_not_mem {cs : List Char} (h : '\n' ∉ cs) : unfinished cs = cs := by
  have hparts := finished_append_unfinished cs
  rwa [finished_of_not_mem h, List.nil_append] at hparts

end PostingTerminal.Text
