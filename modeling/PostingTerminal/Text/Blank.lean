/-!
# Blank characters and trimming

A character is blank when it has the Unicode property White_Space, which is wider than the
blanks that separate the words of a command line.  Trimming takes blanks off the ends of a
text and nothing else.
-/

namespace PostingTerminal.Text

/-- Whether a character has the Unicode property White_Space. -/
def isBlank (c : Char) : Bool :=
  let n := c.toNat
  (9 ≤ n && n ≤ 13) || n == 32 || n == 133 || n == 160 || n == 5760
    || (8192 ≤ n && n ≤ 8202) || n == 8232 || n == 8233 || n == 8239 || n == 8287 || n == 12288

/-- Takes the blanks off the front. -/
def trimStart (cs : List Char) : List Char := cs.dropWhile isBlank

/-- Takes the blanks off the end. -/
def trimEnd (cs : List Char) : List Char := (cs.reverse.dropWhile isBlank).reverse

/-- Takes the blanks off both ends. -/
def trim (cs : List Char) : List Char := trimEnd (trimStart cs)

/-- Whether a text holds blanks only. -/
def allBlank (cs : List Char) : Bool := cs.all isBlank

/-- A string without the blanks at its ends. -/
def trimmed (s : String) : String := String.ofList (trim s.toList)

/-- A string without the blanks at its end. -/
def endTrimmed (s : String) : String := String.ofList (trimEnd s.toList)

/-- Of the empty text nothing is trimmed. -/
@[simp] theorem trim_nil : trim [] = [] := rfl

/-- A text that does not begin with a blank is left as it is. -/
theorem trimStart_eq_self {cs : List Char} (h : ∀ c ∈ cs.head?, isBlank c = false) :
    trimStart cs = cs := by
  cases cs with
  | nil => rfl
  | cons c cs => simp [trimStart, List.dropWhile, h c (by simp)]

/-- A text that does not end in a blank is left as it is. -/
theorem trimEnd_eq_self {cs : List Char} (h : ∀ c ∈ cs.getLast?, isBlank c = false) :
    trimEnd cs = cs := by
  have hreverse : trimStart cs.reverse = cs.reverse :=
    trimStart_eq_self (by rwa [List.head?_reverse])
  rw [trimEnd, ← trimStart, hreverse, List.reverse_reverse]

/-- A text without blanks at its ends is left as it is. -/
theorem trim_eq_self {cs : List Char} (hhead : ∀ c ∈ cs.head?, isBlank c = false)
    (hlast : ∀ c ∈ cs.getLast?, isBlank c = false) : trim cs = cs := by
  rw [trim, trimStart_eq_self hhead, trimEnd_eq_self hlast]

/-- Only blanks are taken off the end. -/
theorem trimEnd_append (cs : List Char) :
    ∃ blanks, allBlank blanks = true ∧ trimEnd cs ++ blanks = cs := by
  refine ⟨(cs.reverse.takeWhile isBlank).reverse, ?_, ?_⟩
  · rw [allBlank, List.all_reverse]
    exact List.all_takeWhile
  · rw [trimEnd, ← List.reverse_append, List.takeWhile_append_dropWhile, List.reverse_reverse]

/-- No blank is left at the end. -/
theorem getLast?_trimEnd (cs : List Char) : ∀ c ∈ (trimEnd cs).getLast?, isBlank c = false := by
  intro c hc
  rw [trimEnd, List.getLast?_reverse] at hc
  have hhead := List.head?_dropWhile_not isBlank cs.reverse
  rw [Option.mem_def.1 hc] at hhead
  simpa using hhead

/-- No blank is left at the front. -/
theorem head?_trim (cs : List Char) : ∀ c ∈ (trim cs).head?, isBlank c = false := by
  intro c hc
  obtain ⟨blanks, -, happend⟩ := trimEnd_append (trimStart cs)
  have hstart : (trimStart cs).head? = some c := by
    rw [← happend, List.head?_append, ← trim, Option.mem_def.1 hc, Option.some_or]
  have hhead := List.head?_dropWhile_not isBlank cs
  rw [← trimStart, hstart] at hhead
  simpa using hhead

/-- What has been trimmed is left as it is. -/
theorem trim_trim (cs : List Char) : trim (trim cs) = trim cs :=
  trim_eq_self (head?_trim cs) (getLast?_trimEnd _)

/-- Nothing is left exactly of a text that holds blanks only. -/
theorem trim_eq_nil_iff {cs : List Char} : trim cs = [] ↔ allBlank cs = true := by
  constructor
  · intro h
    obtain ⟨blanks, hblanks, happend⟩ := trimEnd_append (trimStart cs)
    rw [← trim, h, List.nil_append] at happend
    have hsplit : cs.takeWhile isBlank ++ blanks = cs := by
      rw [happend]
      exact List.takeWhile_append_dropWhile
    rw [← hsplit, allBlank, List.all_append, List.all_takeWhile, Bool.true_and]
    exact hblanks
  · intro h
    have hstart : trimStart (cs ++ []) = [] := List.dropWhile_append_of_pos (List.all_eq_true.1 h)
    rw [← List.append_nil cs, trim, hstart]
    rfl

end PostingTerminal.Text
