import PostingTerminal.Session.Basic

/-!
# Calls of the collaborators

Every call is noted in the journal before it is made.  A call of a store that is to fail
gives the error it is to fail with, and changes nothing unless it fails after it has been
made.  A call of the platform or of the generator is noted, and counted, before its answer is
waited for.  There is a limit on the wait for a platform alone.
-/

namespace PostingTerminal

open Store (Entry MemoryKind CooldownStatus)
open Platform (ReplyOutcome TopOutcome)

/-- A step of a store within a session. -/
abbrev SessionStep (α : Type) := Session → Except Error α × Session

namespace Session

/-- Makes a call of a store, unless it is to fail. -/
def call {α : Type} (m : Method) (c : Call) (step : SessionStep α) : SessionStep α := fun s =>
  let fault := s.faults m (s.callCount m)
  let s := s.note c
  match fault with
  | none => step s
  | some fault =>
    if fault.afterCall then (.error fault.error, (step s).2) else (.error fault.error, s)

/-- A step of the drafts as a step of the session. -/
def onDrafts {α : Type} (step : Store.Step α) : SessionStep α := fun s =>
  ((step s.drafts).1, { s with drafts := (step s.drafts).2 })

end Session

namespace Run

/-- Makes a step of the session part of a run. -/
def step {α : Type} (f : SessionStep α) : Run (Except Error α) := fun s =>
  let (result, s) := f s
  (.ok result, s)

/-- The wall clock. -/
def now : Run Timestamp := do return (← get).now

/-- Lets time pass on the waiting clock. -/
def wait (milliseconds : Nat) : Run Unit :=
  modify fun s => { s with elapsed := s.elapsed + milliseconds }

/-- Takes the next id from the supply. -/
def freshId : Run DraftId := do
  let s ← get
  set { s with idsTaken := s.idsTaken + 1 }
  return s.ids s.idsTaken

/-- Begins the record of a draft. -/
def persist (d : Draft) : Run (Except Error Unit) :=
  step (Session.call .persist (.persist d) (Session.onDrafts (Store.Drafts.persist d)))

/-- Moves the record of a draft to another status. -/
def updateStatus (id : DraftId) (status : DraftStatus) : Run (Except Error Unit) :=
  step (Session.call .update (.update id status) fun s =>
    Session.onDrafts (Store.Drafts.updateStatus id status s.now) s)

/-- Appends a message id to the record of a draft. -/
def recordId (id : DraftId) (message : MessageId) : Run (Except Error Unit) :=
  step (Session.call .record (.record id message) fun s =>
    Session.onDrafts (Store.Drafts.recordId id message s.now) s)

/-- Finishes the record of a draft. -/
def finalize (d : Draft) : Run (Except Error Unit) :=
  step (Session.call .finalize (.finalize d) fun s => Session.onDrafts (Store.Drafts.finalize d s.now) s)

/-- Gives the record of a draft. -/
def fetch (id : DraftId) : Run (Except Error (Option Draft)) :=
  step (Session.call .fetch (.fetch id) (Session.onDrafts (Store.Drafts.fetch id)))

/-- The memories that are relevant to a topic. -/
def relevant (topic : String) : Run (Except Error String) :=
  step (Session.call .relevant (.relevant topic) fun s => (.ok (s.knowledge.relevant topic), s))

/-- Remembers a text. -/
def remember (kind : MemoryKind) (text : String) : Run (Except Error Unit) :=
  step (Session.call .remember (.remember kind text) fun s =>
    (.ok (), { s with knowledge := s.knowledge.remember kind text }))

/-- Appends an entry to the transcript. -/
def append (e : Entry) : Run (Except Error Unit) :=
  step (Session.call .append (.append e) fun s =>
    ((s.transcript.append e).1, { s with transcript := (s.transcript.append e).2 }))

/-- The last entries of the transcript. -/
def recent (limit : Nat) : Run (Except Error (List Entry)) :=
  step (Session.call .recent (.recent limit) fun s => (s.transcript.recent limit, s))

/-- Whether a class of actions has to wait. -/
def cooldownStatus (name : String) : Run (Except Error CooldownStatus) :=
  step (Session.call .cooldownStatus (.cooldownStatus name) fun s =>
    (.ok (s.cooldowns.status name s.now), s))

/-- Starts the cooldown of a class. -/
def cooldownMark (name : String) : Run (Except Error Unit) :=
  step (Session.call .cooldownMark (.cooldownMark name) fun s =>
    (.ok (), { s with cooldowns := s.cooldowns.recordAt name s.now }))

/-! ## The platform -/

/-- Waits for a response, for as long as the settings allow. -/
def await {α : Type} (response : Response α) : Run (Except Error α) := do
  let limit := (← get).settings.thread.postTimeoutSecs
  let timeOut (seconds : Nat) : Run (Except Error α) := do
    wait (1000 * seconds)
    return .error (.platform (.timedOut seconds))
  match response, limit with
  | .never, none => throw .stalled
  | .never, some seconds => timeOut seconds
  | .answer delay value, none =>
    wait delay
    return .ok value
  | .answer delay value, some seconds =>
    if delay ≤ 1000 * seconds then
      wait delay
      return .ok value
    else timeOut seconds
  | .crash delay, none =>
    wait delay
    throw .crashed
  | .crash delay, some seconds =>
    if delay ≤ 1000 * seconds then
      wait delay
      throw .crashed
    else timeOut seconds

/-- Asks the platform to post at the top. -/
def postTop (request : Platform.Request) : Run (Response TopOutcome) := fun s =>
  let k := s.postCount
  let s := s.note (.post none request s.elapsed)
  match s.platform with
  | .scripted script => (.ok (script.top k), s)
  | .dryRun state =>
    let (id, state) := state.postTop request
    (.ok (.answer 0 (.ok id)), { s with platform := .dryRun state })

/-- Asks the platform to post a reply. -/
def postReply (parent : MessageId) (request : Platform.Request) : Run (Response ReplyOutcome) :=
  fun s =>
    let k := s.postCount
    let s := s.note (.post (some parent) request s.elapsed)
    match s.platform with
    | .scripted script => (.ok (script.reply k), s)
    | .dryRun state =>
      let (outcome, state) := state.postReply parent request
      (.ok (.answer 0 outcome), { s with platform := .dryRun state })

/-! ## The generator -/

/-- Waits for a response, however long it takes. -/
def attend {α : Type} : Response α → Run α
  | .never => throw .stalled
  | .answer delay value => do
    wait delay
    return value
  | .crash delay => do
    wait delay
    throw .crashed

/-- Asks the generator for a thread. -/
def request (topic context memories : String) : Run (Response (Except Error (List Segment))) :=
  fun s =>
    let (response, generator) := s.generator.ask topic context memories s.generateCount
    (.ok response, { s.note (.generate topic context memories) with generator := generator })

/-- Asks for the segments of a thread. -/
def generate (topic context memories : String) : Run (Except Error (List Segment)) := do
  attend (← request topic context memories)

end Run

end PostingTerminal
