import PostingTerminal.Program.Basic
import Std.Time.DateTime.Timestamp

/-!
# The executable

Here the program meets the world: arguments, environment, files, clock and terminal.  What is
read is handed to the program as a value, and what the program has changed is written back
after every step.  Of the drafts on disk a step is given those whose ids stand in its input,
which are all that it can ask for.

The clock is read once for each step.  The executable brings no transport of its own, so no
request to a language model that the environment describes can be sent.
-/

namespace PostingTerminal.Executable

open Program (Invocation Surroundings)
open Store (Directory File TranscriptFile Transcript)

/-- What a failed access to a file is taken for. -/
def fileError : IO.Error → FileError
  | .noFileOrDirectory .. => .notFound
  | e => .other (toString e)

/-- The text of a file. -/
def readText (path : String) : IO (Except FileError String) := do
  try
    return .ok (← IO.FS.readFile path)
  catch e => return .error (fileError e)

/-- What a file holds, if it can be read. -/
def readFile? (path : String) : IO (Option File) := do
  try
    return some (.ofBytes (← IO.FS.readBinFile path).toList)
  catch _ => return none

/-- The variables of the environment that the program looks at. -/
def readEnvironment : IO Environment :=
  Program.environmentNames.filterMapM fun name => do
    return (← IO.getEnv name).map fun value => (name, value)

/-- What is found where the transcript is kept. -/
def readTranscript (path : String) : IO TranscriptFile := do
  try
    return .ofBytes (← IO.FS.readBinFile path).toList
  catch
    | .noFileOrDirectory .. => return .missing
    | e => return .unusable (fileError e)

/-- Makes a directory where there is none. -/
def makeDirectory (path : String) : IO (Except FileError Directory) := do
  try
    IO.FS.createDirAll path
    return .ok .empty
  catch e => return .error (fileError e)

/-- The wall clock. -/
def readClock : IO Timestamp := do
  return (← Std.Time.Timestamp.now).toMillisecondsSinceUnixEpoch.val.toNat

/-- What the program meets, given the settings that are going to hold. -/
def readSurroundings (environment : Environment) (file : Except FileError String)
    (storage : StorageSettings) : IO Surroundings := do
  let drafts ←
    match storage.draftsDir with
    | none => pure (.ok .empty)
    | some path => makeDirectory path
  let transcript ←
    match storage.transcriptPath with
    | none => pure .missing
    | some path => readTranscript path
  let seed ← IO.rand 0 (1 <<< 62)
  let now ← readClock
  return {
    environment := environment
    settingsFile := fun _ => file
    places := ⟨fun _ => drafts, fun _ => transcript⟩
    lines := []
    exchanges := fun _ => .answer 0 (.error "no transport")
    ids := .from (seed <<< 60)
    clock := fun _ => now }

/-- Reads the files of drafts that an input may ask for. -/
def loadDrafts (input : String) (s : Session) : IO Session := do
  match s.drafts, s.settings.storage.draftsDir with
  | .files directory, some path =>
    let mut files := directory.files
    for name in Program.namedFiles input do
      if (directory.file? name).isNone then
        if let some file ← readFile? (path ++ "/" ++ name) then
          files := Directory.putFile files name file
    return { s with drafts := .files { directory with files := files } }
  | _, _ => return s

/-- Writes the files that have changed. -/
def saveDrafts (before after : Session) : IO Unit := do
  if let some path := after.settings.storage.draftsDir then
    for (name, file) in after.drafts.listing do
      if before.drafts.listing.lookup name != some file then
        IO.FS.writeBinFile (path ++ "/" ++ name) ⟨file.toBytes.toArray⟩

/-- Writes the entries that have been added to the transcript. -/
def saveTranscript (before after : Session) : IO Unit := do
  if let some path := after.settings.storage.transcriptPath then
    for call in after.journal.drop before.journal.length do
      if let .append entry := call then
        try
          let file ← IO.FS.Handle.mk path .append
          file.putStr entry.line
        catch _ => pure ()

/-- Makes a step of a session, and takes the time that the step takes. -/
def advance {α : Type} (input : String) (run : Run α) (s : Session) :
    IO (Except Halt α × Session) := do
  let now ← readClock
  let before ← loadDrafts input { s with clock := fun _ => now }
  let (result, after) := run before
  IO.sleep (after.elapsed - before.elapsed).toUInt32
  saveDrafts before after
  saveTranscript before after
  return (result, after)

/-- Prints a text at once. -/
def say (text : String) : IO Unit := do
  IO.print text
  (← IO.getStdout).flush

/-- Holds a dialogue. -/
partial def converse (s : Session) : IO UInt32 := do
  say Terminal.prompt
  let line ← (← IO.getStdin).getLine
  if line.isEmpty || Terminal.isQuit line then
    say Terminal.farewell
    return 0
  match ← advance line (Terminal.answerLine Terminal.builtins line) s with
  | (.error _, _) => return 1
  | (.ok answer, s) =>
    say answer
    converse s

/-- Executes inputs one after another. -/
def executeInputs : List String → Session → IO (Option (List Terminal.Executed))
  | [], _ => return some []
  | input :: rest, s => do
    match ← advance input (Terminal.execute Terminal.builtins input) s with
    | (.error _, _) => return none
    | (.ok executed, s) => return (← executeInputs rest s).map (executed :: ·)

/-- Reports why the program cannot go on. -/
def reportError (e : Error) : IO UInt32 := do
  IO.eprintln ("Error: " ++ e.message)
  return 1

/-- Does what the arguments ask for. -/
def run (i : Invocation) : IO UInt32 := do
  let environment ← readEnvironment
  let file ←
    match i.settingsFile with
    | none => pure (.error .notFound)
    | some path => readText path
  match Settings.load (i.settingsFile.map fun _ => file) environment with
  | .error e => reportError e
  | .ok settings =>
    let w ← readSurroundings environment file settings.storage
    match Program.openSession i.settingsFile w with
    | .error e => reportError e
    | .ok s =>
      if i.inputs.isEmpty then
        say Terminal.banner
        converse s
      else
        match ← executeInputs i.inputs s with
        | none => return 1
        | some executed =>
          say ((Terminal.Batch.ofExecuted executed).output ++ "\n")
          return 0

end PostingTerminal.Executable

/-- Runs the program. -/
def main (arguments : List String) : IO UInt32 := do
  match PostingTerminal.Program.Demand.ofArguments arguments with
  | .refused =>
    IO.eprint PostingTerminal.Program.usage
    return 2
  | .help =>
    IO.print PostingTerminal.Program.usage
    return 0
  | .run i => PostingTerminal.Executable.run i
