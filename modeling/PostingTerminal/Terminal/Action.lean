import PostingTerminal.CommandLine.Registry
import PostingTerminal.Publication

/-!
# What commands do

A command gives an output, which may be flagged as an error and may carry a value, or it
fails.  Three actions belong to the terminal: one lists the commands, one creates a thread
and one shows what has become of a draft.  Any other action is given as the computation that
it runs on its arguments.

A thread is created only when the cooldown of its class allows it, and only a thread that has
been published starts the next cooldown.
-/

namespace PostingTerminal.Terminal

open CommandLine (Args Registry)
open Json (Value)

/-- What a command gives. -/
structure CommandOutput where
  output : String
  isError : Bool
  data : Option Value

/-- The output of a command that has done what it was asked for. -/
def CommandOutput.success (output : String) (data : Option Value) : CommandOutput :=
  ⟨output, false, data⟩

/-- The output of a command that could not do what it was asked for. -/
def CommandOutput.failure (output : String) (data : Option Value) : CommandOutput :=
  ⟨output, true, data⟩

/-- What a command does. -/
inductive Action where
  | help
  | createThread
  | threadStatus
  /-- A computation on the arguments. -/
  | custom (run : Args → Run (Except Error CommandOutput))

/-- The line that a value adds to an output, if there is a value. -/
def optionalLine (label : String) : Option String → String
  | none => ""
  | some text => "\n" ++ label ++ ": " ++ text

/-- How a published thread is reported. -/
def creationReport (p : Publication) : String :=
  "Thread created successfully!"
    ++ optionalLine "Thread ID" (p.threadId.map (·.text))
    ++ optionalLine "Draft" (p.draftId.map (·.text))
    ++ "\nTweets: " ++ toString p.messageIds.length
    ++ optionalLine "First Tweet" p.firstSegment

/-- Creates a thread about a topic whatever the cooldown, and starts the next one if the
thread has been published. -/
def createThreadAbout (topic : String) : Run CommandOutput := do
  let p ← generateAndPublish topic
  if p.success then
    let _ ← Run.cooldownMark (← get).settings.thread.cooldownClass
    return .success (creationReport p) (some p.toJson)
  else return .failure ("Error creating thread: " ++ p.message) (some p.toJson)

/-- Creates a thread, about the default topic unless one is given. -/
def createThread (args : Args) : Run (Except Error CommandOutput) := do
  let settings := (← get).settings.thread
  match ← Run.cooldownStatus settings.cooldownClass with
  | .error e => return .error e
  | .ok wait =>
    if wait.isActive then
      return .ok (.failure ("Thread cooldown is active. Time remaining: "
        ++ toString wait.remainingMinutes ++ " minutes") none)
    else return .ok (← createThreadAbout ((args.getString? "topic").getD settings.defaultTopic))

/-- How a draft is reported. -/
def statusReport (d : Draft) : String :=
  let ids :=
    if d.messageIds.isEmpty then "none" else ", ".intercalate (d.messageIds.map (·.text))
  "Draft " ++ d.id.text ++ "\nStatus: " ++ d.status.name
    ++ "\nPosted: " ++ toString d.messageIds.length ++ "/" ++ toString d.segments.length
    ++ "\nTweet IDs: " ++ ids ++ optionalLine "Topic" d.topic

/-- Shows what has become of a draft. -/
def threadStatus (args : Args) : Run (Except Error CommandOutput) := do
  let id : DraftId := ⟨(args.getString? "draft_id").getD ""⟩
  match ← Run.fetch id with
  | .error e => return .error e
  | .ok none => return .ok (.failure ("Draft not found: " ++ id.text) none)
  | .ok (some d) => return .ok (.success (statusReport d) (some d.toJson))

/-- Runs the action of a command of a registry. -/
def Action.run (registry : Registry Action) (args : Args) :
    Action → Run (Except Error CommandOutput)
  | .help => return .ok (.success registry.helpText none)
  | .createThread => Terminal.createThread args
  | .threadStatus => Terminal.threadStatus args
  | .custom run => run args

end PostingTerminal.Terminal
