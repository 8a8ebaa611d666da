import PostingTerminal.Draft.Id
import PostingTerminal.Llm.Thread
import PostingTerminal.Platform.Script
import PostingTerminal.Store.Drafts
import PostingTerminal.Store.Transcript
import PostingTerminal.Store.Knowledge
import PostingTerminal.Store.Cooldown

/-!
# The session of an agent

A session is everything that an agent works with and on: its settings, its stores, the
platform it posts to, the generator of its content, the clock and the supply of ids.  What
the platform and the generator will answer is part of it, and so are what the clock will show
and the calls of the stores that will fail, so that a run is a function of the session it
starts in.  Every call that is made goes into a journal, with its arguments.

Two clocks run.  The wall clock stamps records.  It may move on, stand still or go back with
every call that is made; between two calls it stands still.  The waiting clock counts the time
spent on pauses and on answers of the platform and of the generator.
-/

namespace PostingTerminal

open Store (Drafts Transcript Knowledge Cooldowns Entry MemoryKind)

/-- The store operations that can be made to fail. -/
inductive Method where
  | persist
  | update
  | record
  | finalize
  | fetch
  | relevant
  | remember
  | append
  | recent
  | cooldownStatus
  | cooldownMark
  deriving DecidableEq, Repr

/-- A call of a collaborator, with its arguments. -/
inductive Call where
  | persist (draft : Draft)
  | update (id : DraftId) (status : DraftStatus)
  | record (id : DraftId) (message : MessageId)
  | finalize (draft : Draft)
  | fetch (id : DraftId)
  | relevant (topic : String)
  | remember (kind : MemoryKind) (text : String)
  | append (entry : Entry)
  | recent (limit : Nat)
  | cooldownStatus (name : String)
  | cooldownMark (name : String)
  | post (parent : Option MessageId) (request : Platform.Request) (time : Nat)
  | generate (topic context memories : String)
  deriving DecidableEq

/-- The store operation that a call is made to. -/
def Call.method? : Call → Option Method
  | .persist _ => some .persist
  | .update _ _ => some .update
  | .record _ _ => some .record
  | .finalize _ => some .finalize
  | .fetch _ => some .fetch
  | .relevant _ => some .relevant
  | .remember _ _ => some .remember
  | .append _ => some .append
  | .recent _ => some .recent
  | .cooldownStatus _ => some .cooldownStatus
  | .cooldownMark _ => some .cooldownMark
  | .post _ _ _ => none
  | .generate _ _ _ => none

/-- Whether a call posts to the platform. -/
def Call.isPost : Call → Bool
  | .post _ _ _ => true
  | _ => false

/-- Whether a call asks for content. -/
def Call.isGenerate : Call → Bool
  | .generate _ _ _ => true
  | _ => false

/-- How a call of a store fails: instead of being made, or after it has been made. -/
structure Fault where
  afterCall : Bool
  error : Error

/-- Which calls fail, by method and number. -/
abbrev Faults := Method → Nat → Option Fault

/-- No call fails. -/
def Faults.none : Faults := fun _ _ => .none

/-- Where content comes from. -/
inductive Generator where
  /-- What comes of each call. -/
  | scripted (script : Nat → Response (Except Error (List Segment)))
  /-- No content, for a reason. -/
  | disabled (reason : String)
  /-- A language model. -/
  | model (writer : Llm.Writer) (service : Llm.Service)

/-- What comes of asking a generator for a thread in the call with a number, and the generator
after it. -/
def Generator.ask (topic context memories : String) (call : Nat) :
    Generator → Response (Except Error (List Segment)) × Generator
  | .scripted script => (script call, .scripted script)
  | .disabled reason => (.answer 0 (.error (.llm (.other reason))), .disabled reason)
  | .model writer service =>
    let (response, service) := writer.write topic context memories service
    (response, .model writer service)

/-- Everything that an agent works with and on. -/
structure Session where
  settings : Settings
  drafts : Drafts
  transcript : Transcript
  knowledge : Knowledge
  cooldowns : Cooldowns
  platform : Platform
  generator : Generator
  faults : Faults
  ids : IdSupply
  /-- How many ids have been taken from the supply. -/
  idsTaken : Nat
  /-- What the wall clock shows when so many calls have been made. -/
  clock : Nat → Timestamp
  /-- The waiting clock. -/
  elapsed : Nat
  /-- The calls made so far, in order. -/
  journal : List Call

/-- Why a run does not come to its end. -/
inductive Halt where
  /-- A collaborator has crashed. -/
  | crashed
  /-- An answer is waited for that never comes. -/
  | stalled
  deriving DecidableEq, Repr

/-- A computation on a session.  One that does not come to its end leaves the session as it
was when it stopped. -/
abbrev Run (α : Type) := ExceptT Halt (StateM Session) α

namespace Session

/-- How many calls of a method have been made. -/
def callCount (s : Session) (m : Method) : Nat :=
  (s.journal.filter fun c => c.method? == some m).length

/-- How many calls the platform has had. -/
def postCount (s : Session) : Nat := (s.journal.filter Call.isPost).length

/-- How many calls the generator has had. -/
def generateCount (s : Session) : Nat := (s.journal.filter Call.isGenerate).length

/-- Notes a call. -/
def note (s : Session) (c : Call) : Session := { s with journal := s.journal ++ [c] }

/-- What the wall clock shows now. -/
def now (s : Session) : Timestamp := s.clock s.journal.length

/-- A session over the collaborators that settings describe. -/
def start (settings : Settings) (drafts : Drafts) (transcript : Transcript) (platform : Platform)
    (generator : Generator) (faults : Faults) (ids : IdSupply) (clock : Nat → Timestamp) :
    Session where
  settings := settings
  drafts := drafts
  transcript := transcript
  knowledge := .empty
  cooldowns := .ofWindows settings.cooldowns
  platform := platform
  generator := generator
  faults := faults
  ids := ids
  idsTaken := 0
  clock := clock
  elapsed := 0
  journal := []

end Session

end PostingTerminal
