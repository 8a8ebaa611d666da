import PostingTerminal.Terminal.Executor

/-!
# A dialogue with the terminal

A dialogue prompts for a line, executes it and prints its output, until the line is `quit` or
`q` or there are no more lines; then it says goodbye.  Blank lines are executed like all
others.  A line that cannot be read ends the dialogue with a failure and without a goodbye,
and what has been printed stays.
-/

namespace PostingTerminal.Terminal

open CommandLine (Registry)
open Text (InputLine)

/-- What is printed when a dialogue begins. -/
def banner : String :=
  "\n=== THREADLINE ===\nType `help` for commands, `quit` to exit.\n\n"

/-- What is printed before each line is read. -/
def prompt : String := "> "

/-- What is printed when a dialogue ends. -/
def farewell : String := "Goodbye!\n"

/-- Whether a line ends the dialogue. -/
def isQuit (line : String) : Bool :=
  let command := Text.trimmed line
  command == "quit" || command == "q"

/-- Executes a line of a dialogue and gives what is printed for it. -/
def answerLine (registry : Registry Action) (line : String) : Run String := do
  let executed ← execute registry (Text.trimmed line)
  return executed.output ++ "\n\n"

/-- What has come of a dialogue: what it has printed, and why it has failed if it has. -/
structure Dialogue where
  printed : String
  failure : Option Error

/-- The dialogue that prints something before it goes on. -/
def Dialogue.after (printed : String) (d : Dialogue) : Dialogue :=
  { d with printed := printed ++ d.printed }

/-- Goes on with a dialogue for the rest of the lines. -/
def continueDialogue (registry : Registry Action) : List InputLine → Run Dialogue
  | [] => return ⟨prompt ++ farewell, none⟩
  | none :: _ => return ⟨prompt, some (.file .notUtf8)⟩
  | some line :: rest =>
    if isQuit line then return ⟨prompt ++ farewell, none⟩
    else do
      let answer ← answerLine registry line
      return (← continueDialogue registry rest).after (prompt ++ answer)

/-- Holds a dialogue over lines. -/
def dialogue (registry : Registry Action) (lines : List InputLine) : Run Dialogue := do
  return (← continueDialogue registry lines).after banner

end PostingTerminal.Terminal
