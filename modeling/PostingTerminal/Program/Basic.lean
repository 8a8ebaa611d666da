import PostingTerminal.Program.Arguments
import PostingTerminal.Session.Places
import PostingTerminal.Terminal.Builtin
import PostingTerminal.Terminal.Dialogue

/-!
# The program

The program reads its settings, opens a session over them and either executes the inputs
among its arguments as one batch or holds a dialogue over its standard input.  It posts to a
dry-run platform.  Content is written by a language model if the environment describes one;
otherwise every request for content fails, and tells what is missing.

What the program meets where it runs is a value here, so that its output and its exit code
are functions of it.
-/

namespace PostingTerminal.Program

open Terminal (builtins)
open Text (InputLine)

/-- What the program meets where it runs. -/
structure Surroundings where
  environment : Environment
  /-- What reading a file of settings yields. -/
  settingsFile : String → Except FileError String
  places : Places
  /-- The lines of the standard input. -/
  lines : List InputLine
  /-- What comes of each request to the language model. -/
  exchanges : Nat → Response Llm.Exchange
  ids : IdSupply
  /-- What the wall clock shows when so many calls have been made. -/
  clock : Nat → Timestamp

/-- The variables of the environment that the program looks at. -/
def environmentNames : List String :=
  Settings.environmentNames ++ Llm.Client.environmentNames

/-- The files of the drafts whose ids stand in an input. -/
def namedFiles (input : String) : List String :=
  match Terminal.lineOf input with
  | .error _ => []
  | .ok line =>
    match CommandLine.tokens line with
    | .error _ => []
    | .ok words => ((words.map DraftId.mk).filter Store.isFileId).map Store.fileName

/-- Where content comes from. -/
def contentGenerator (environment : Environment) (settings : Settings)
    (exchanges : Nat → Response Llm.Exchange) : Generator :=
  match Llm.Client.ofEnvironment environment with
  | .ok client => .model (.new client settings.agentName settings.thread) (.new exchanges)
  | .error e => .disabled e.message

/-- The settings that hold under a file, if one is named. -/
def settings (file : Option String) (w : Surroundings) : Except Error Settings :=
  Settings.load (file.map w.settingsFile) w.environment

/-- Opens the session of the program. -/
def openSession (file : Option String) (w : Surroundings) : Except Error Session := do
  let settings ← settings file w
  let generator := contentGenerator w.environment settings w.exchanges
  Session.openAt w.places settings (.dryRun .empty) generator .none w.ids w.clock

/-- What the program has printed and the code it ends with. -/
structure Exit where
  output : String
  code : Nat
  deriving DecidableEq, Repr

/-- What the program does with an open session. -/
def work (inputs : List String) (lines : List InputLine) : Run Exit := do
  if inputs.isEmpty then
    let d ← Terminal.dialogue builtins lines
    return ⟨d.printed, if d.failure.isSome then 1 else 0⟩
  else return ⟨(← Terminal.executeBatch builtins inputs).output ++ "\n", 0⟩

/-- Runs the program.  It ends with code 2 if its arguments are refused and with code 1 if it
cannot open a session or read its input. -/
def run (arguments : List String) (w : Surroundings) : Exit :=
  match Demand.ofArguments arguments with
  | .refused => ⟨"", 2⟩
  | .help => ⟨usage, 0⟩
  | .run i =>
    match openSession i.settingsFile w with
    | .error _ => ⟨"", 1⟩
    | .ok s =>
      match (work i.inputs w.lines s).1 with
      | .error _ => ⟨"", 1⟩
      | .ok exit => exit

end PostingTerminal.Program
