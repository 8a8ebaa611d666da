import PostingTerminal.CommandLine.Tokens
import PostingTerminal.Terminal.Action

/-!
# Executing command lines

An input is a command line or a JSON object that carries one.  Whatever goes wrong with it
becomes the output of its execution, flagged as an error, and every execution is appended to
the transcript; that it cannot be appended is passed over.  A command that crashes is reported
like one that fails.

A batch executes its inputs in order, each on what the ones before it have left.
-/

namespace PostingTerminal.Terminal

open CommandLine (Registry Command tokens bind)
open Json (Value)

/-- What has come of an input. -/
structure Executed where
  command : String
  output : String
  isError : Bool
  data : Option Value

namespace Executed

/-- An execution that has failed before its command could give an output. -/
def failed (command output : String) : Executed := ⟨command, output, true, none⟩

/-- An execution without a command in it. -/
def nothing (command : String) : Executed := ⟨command, "Error: No command provided", false, none⟩

/-- A command that has given an output. -/
def ofOutput (command : String) (o : CommandOutput) : Executed :=
  ⟨command, o.output, o.isError, o.data⟩

/-- A command that could not be run or has failed. -/
def ofFailure (command name : String) (e : Error) : Executed :=
  .failed command ("Error executing command '" ++ name ++ "': " ++ e.message)

end Executed

/-- The members of an input that is a JSON object: its command line, empty if there is none. -/
def requestRecord : Json.Record String :=
  ⟨"CommandRequest", "", [.defaulted "command" .string fun v _ => v]⟩

/-- Whether an input is to be read as JSON. -/
def isRequest (raw : String) : Bool := (Text.trimStart raw.toList).head? == some '{'

/-- The command line in an input, blanks at its ends included. -/
def lineOf (raw : String) : Except Error String :=
  if isRequest raw then
    match requestRecord.decoder.fromText raw with
    | .error e => .error (.decoding e)
    | .ok line => .ok line
  else .ok raw

/-- Turns a crash of an action into a failure of it. -/
def contained {α : Type} (run : Run (Except Error α)) : Run (Except Error α) :=
  tryCatch run fun
    | .crashed => return .error (.handler "handler panicked")
    | .stalled => throw .stalled

/-- Runs a command on tokens. -/
def runCommand (registry : Registry Action) (line : String) (command : Command Action)
    (args : List String) : Run Executed := do
  match bind args command.params with
  | .error e => return .ofFailure line command.name e
  | .ok args =>
    match ← contained (command.action.run registry args) with
    | .error e => return .ofFailure line command.name e
    | .ok output => return .ofOutput line output

/-- Runs the command that tokens name. -/
def runTokens (registry : Registry Action) (line : String) : List String → Run Executed
  | [] => return .nothing line
  | name :: args =>
    match registry.lookup name with
    | none => return .failed line (Error.unknownCommand name).message
    | some command => runCommand registry line command args

/-- How an input is reported that cannot be read or split. -/
def unreadable (command : String) (e : Error) : Executed :=
  .failed command ("Error parsing command: " ++ e.message)

/-- Runs a line without blanks at its ends. -/
def runLine (registry : Registry Action) (line : String) : Run Executed :=
  if line.isEmpty then return .nothing line
  else
    match tokens line with
    | .error e => return unreadable line e
    | .ok ts => runTokens registry line ts

/-- Runs an input. -/
def runInput (registry : Registry Action) (raw : String) : Run Executed :=
  match lineOf raw with
  | .error e => return unreadable raw e
  | .ok line => runLine registry (Text.trimmed line)

/-- Runs an input and appends it to the transcript. -/
def execute (registry : Registry Action) (raw : String) : Run Executed := do
  let executed ← runInput registry raw
  let _ ← Run.append ⟨executed.command, executed.output, ← Run.now⟩
  return executed

/-- What has come of a batch. -/
structure Batch where
  commands : List String
  output : String
  deriving DecidableEq, Repr

/-- One execution as a terminal shows it. -/
def Executed.shown (e : Executed) : String := "$ " ++ e.command ++ "\n" ++ e.output

/-- What executions amount to together. -/
def Batch.ofExecuted (executed : List Executed) : Batch :=
  ⟨executed.map (·.command), "\n\n".intercalate (executed.map Executed.shown)⟩

/-- Executes inputs in order. -/
def executeAll (registry : Registry Action) (raws : List String) : Run (List Executed) :=
  raws.mapM (execute registry)

/-- Executes inputs in order as a batch. -/
def executeBatch (registry : Registry Action) (raws : List String) : Run Batch :=
  return .ofExecuted (← executeAll registry raws)

end PostingTerminal.Terminal
