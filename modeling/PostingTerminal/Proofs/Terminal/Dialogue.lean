import PostingTerminal.Proofs.Terminal.Batch
import PostingTerminal.Proofs.Text.InputLines
import PostingTerminal.Terminal.Dialogue

/-!
# A dialogue is a batch

* `requested` — the inputs of a dialogue: the lines before the first that ends it, trimmed.
* `printedFor` — what a dialogue prints for executions.
* `continueDialogue_eq` — **going on with a dialogue executes what is requested in it** and says
  goodbye, whether or not a line has ended it.
* `dialogue_batch` — **a dialogue over the bytes of a text is a batch of its lines**.
-/

namespace PostingTerminal.Terminal

open CommandLine (Registry)
open Text (Cut inputLines)

/-- The inputs of a dialogue: the lines before the first that is `quit` or `q` without the blanks
at its ends, each without the blanks at its ends. -/
def requested (rows : List String) : List String :=
  (rows.map Text.trimmed).takeWhile fun line => line ≠ "quit" ∧ line ≠ "q"

/-- What a dialogue prints for executions: each output behind a prompt, a blank line below it. -/
def printedFor (executed : List Executed) : String :=
  String.join (executed.map fun e => prompt ++ e.output ++ "\n\n")

/-- Without input nothing is asked for. -/
@[simp] theorem requested_nil : requested [] = [] := rfl

/-- For no inputs nothing is printed. -/
@[simp] theorem printedFor_nil : printedFor [] = "" := rfl

/-- Each input is printed for with a prompt, its output and an empty line. -/
theorem printedFor_cons (e : Executed) (executed : List Executed) :
    printedFor (e :: executed) = prompt ++ e.output ++ "\n\n" ++ printedFor executed :=
  String.join_cons

/-- A line ends a dialogue if it is one of two words when trimmed. -/
theorem isQuit_iff (row : String) :
    isQuit row = true ↔ Text.trimmed row = "quit" ∨ Text.trimmed row = "q" := by
  simp [isQuit]

/-- Nothing is requested behind a line that ends the dialogue. -/
theorem requested_quit {row : String} (h : isQuit row = true) (rows : List String) :
    requested (row :: rows) = [] := by
  apply List.takeWhile_cons_of_neg
  rw [decide_eq_true_eq, ← not_or, ← isQuit_iff]
  exact not_not_intro h

/-- Every other line is requested as it is when trimmed. -/
theorem requested_cons {row : String} (h : ¬isQuit row = true) (rows : List String) :
    requested (row :: rows) = Text.trimmed row :: requested rows := by
  apply List.takeWhile_cons_of_pos
  rwa [decide_eq_true_eq, ← not_or, ← isQuit_iff]

/-- **Going on with a dialogue executes what is requested in it**, prints what comes of it and
says goodbye. -/
theorem continueDialogue_eq (registry : Registry Action) (rows : List String) (s : Session) :
    continueDialogue registry (rows.map some) s =
      match executeAll registry (requested rows) s with
      | (.ok executed, s') => (.ok ⟨printedFor executed ++ prompt ++ farewell, none⟩, s')
      | (.error halt, s') => (.error halt, s') := by
  induction rows generalizing s with
  | nil => rfl
  | cons row rows ih =>
    by_cases hquit : isQuit row = true
    · rw [requested_quit hquit, List.map_cons, continueDialogue, if_pos hquit]
      rfl
    rw [requested_cons hquit, executeAll_cons, List.map_cons, continueDialogue, if_neg hquit]
    rcases hexecute : execute registry (Text.trimmed row) s with ⟨halt | e, s₁⟩
    · have hanswer : answerLine registry row s = (.error halt, s₁) := Run.bind_error hexecute
      rw [Run.bind_error hanswer, Run.bind_error hexecute]
    · have hanswer : answerLine registry row s = (.ok (e.output ++ "\n\n"), s₁) :=
        Run.bind_ok hexecute
      rw [Run.bind_ok hanswer, Run.bind_ok hexecute]
      have hrest := ih s₁
      rcases hall : executeAll registry (requested rows) s₁ with ⟨halt | executed, s'⟩
      all_goals rw [hall] at hrest
      · rw [Run.bind_error hrest, Run.bind_error hall]
      · rw [Run.bind_ok hrest, Run.bind_ok hall]
        show (Except.ok _, s') = (Except.ok _, s')
        simp only [Dialogue.after, printedFor_cons, String.append_assoc]

/-- A dialogue over lines that can be read executes what is requested in it, between its banner
and its farewell. -/
theorem dialogue_eq (registry : Registry Action) (rows : List String) (s : Session) :
    dialogue registry (rows.map some) s =
      match executeAll registry (requested rows) s with
      | (.ok executed, s') =>
        (.ok ⟨banner ++ printedFor executed ++ prompt ++ farewell, none⟩, s')
      | (.error halt, s') => (.error halt, s') := by
  unfold dialogue
  have hcontinue := continueDialogue_eq registry rows s
  rcases hall : executeAll registry (requested rows) s with ⟨halt | executed, s'⟩
  all_goals rw [hall] at hcontinue
  · rw [Run.bind_error hcontinue]
  · rw [Run.bind_ok hcontinue]
    show (Except.ok _, s') = (Except.ok _, s')
    simp only [Dialogue.after, String.append_assoc]

/-- **A dialogue over the bytes of a text is a batch of its lines.**  A text is cut into lines, and
those before the first that is `quit` or `q` when trimmed are its inputs, each trimmed.  Executing
these in order gives what comes of them and the session that both the dialogue and the batch
leave.  The dialogue prints its banner, each output behind a prompt and with a blank line below
it, and one more prompt with the farewell, whether a line or the end of the text has ended it.
If an input stalls, so do both. -/
theorem dialogue_batch (registry : Registry Action) (text : String) (s : Session) :
    ∃ rows, Cut text.toList rows ∧
      let inputs := requested (rows.map String.ofList)
      match executeAll registry inputs s with
      | (.ok executed, s') =>
        dialogue registry (inputLines text.toUTF8.data.toList) s
            = (.ok ⟨banner ++ printedFor executed ++ prompt ++ farewell, none⟩, s') ∧
          executeBatch registry inputs s = (.ok (.ofExecuted executed), s')
      | (.error halt, s') =>
        dialogue registry (inputLines text.toUTF8.data.toList) s = (.error halt, s') ∧
          executeBatch registry inputs s = (.error halt, s') := by
  refine ⟨_, Text.cut_lines text.toList, ?_⟩
  have hrows : (Text.lines text.toList).map String.ofList = Text.linesOf text := rfl
  have hdialogue := dialogue_eq registry (Text.linesOf text) s
  have hbatch := executeBatch_eq registry (requested (Text.linesOf text)) s
  rw [hrows, Text.inputLines_toUTF8, Text.readableLines]
  dsimp only
  rcases hall : executeAll registry (requested (Text.linesOf text)) s with ⟨halt | executed, s'⟩
  all_goals rw [hall] at hdialogue hbatch
  · exact ⟨hdialogue, hbatch⟩
  · exact ⟨hdialogue, hbatch⟩

end PostingTerminal.Terminal
