import PostingTerminal.Session.Calls

/-!
# Publishing a thread

A thread whose segments are all within the limit is written as a draft, marked as being
published and posted segment by segment, each but the first as a reply to the message before
it.  The first segment that cannot be posted ends the attempt; what has been posted stays.
In the end the draft is finished as published or failed, once.

After a segment has been posted its id is put into the draft and into the record of it, and
its text is remembered, before the next one is posted.  That the record or the memory cannot
be written does not stop the attempt.
-/

namespace PostingTerminal

open Json (Value)
open Platform (ReplyOutcome)

/-- What has come of an attempt to publish. -/
structure Publication where
  success : Bool
  message : String
  draftId : Option DraftId
  status : Option DraftStatus
  threadId : Option MessageId
  messageIds : List MessageId
  segments : List Segment
  deriving DecidableEq, Repr

namespace Publication

/-- An attempt that has left no draft. -/
def rejected (message : String) (segments : List Segment) : Publication :=
  ⟨false, message, none, none, none, [], segments⟩

/-- An attempt that has left a draft. -/
def ofDraft (d : Draft) (message : String) : Publication :=
  ⟨d.status = .published, message, some d.id, some d.status, d.threadId, d.messageIds, d.segments⟩

/-- The text of the first segment. -/
def firstSegment (p : Publication) : Option String := p.segments.head?.map (·.content)

/-- An attempt as JSON. -/
def toJson (p : Publication) : Value :=
  .object [
    ("success", .bool p.success),
    ("message", .string p.message),
    ("draftId", Value.ofOption (p.draftId.map (·.text))),
    ("status", Value.ofOption (p.status.map (·.name))),
    ("threadId", Value.ofOption (p.threadId.map (·.text))),
    ("tweetIds", MessageId.listToJson p.messageIds),
    ("segments", .list (p.segments.map (·.toJson)))]

end Publication

/-- Why segments are not published. -/
inductive Rejection where
  | noContent
  | tooLong (position count limit : Nat)
  deriving DecidableEq, Repr

/-- The wording of a rejection. -/
def Rejection.message : Rejection → String
  | .noContent => "thread content is required"
  | .tooLong position count limit =>
    "Tweet content exceeds character limit: segment " ++ toString position ++ " has "
      ++ toString count ++ " characters (max " ++ toString limit ++ ")"

/-- The first segment beyond the limit, counted from a position on. -/
def firstTooLong (limit : Nat) : (position : Nat) → List Segment → Option Rejection
  | _, [] => none
  | position, s :: rest =>
    if s.charCount > limit then some (.tooLong position s.charCount limit)
    else firstTooLong limit (position + 1) rest

/-- Why segments are not published under a limit, if there is a reason. -/
def rejection? (limit : Nat) (segments : List Segment) : Option Rejection :=
  if segments.isEmpty then some .noContent else firstTooLong limit 1 segments

/-- The key that every attempt to post a segment of a draft carries. -/
def postKey (id : DraftId) (index : Nat) : String := id.text ++ ":" ++ toString index

/-- The request for a segment of a draft. -/
def postRequest (id : DraftId) (index : Nat) (s : Segment) : Platform.Request :=
  ⟨s.content, s.mediaUrls, postKey id index⟩

/-- The id in the outcome of a reply at a position, or why there is none. -/
def replyId (position : Nat) (outcome : ReplyOutcome) : Except Error MessageId :=
  match outcome.success, outcome.messageId with
  | true, some id => .ok id
  | _, _ => .error (.platform (.replyFailed position outcome.failureMessage))

/-- Posts one segment: as a reply to the last message of the draft, or at the top if it has
none. -/
def postSegment (d : Draft) (index : Nat) (s : Segment) : Run (Except Error MessageId) := do
  let request := postRequest d.id index s
  match d.messageIds.getLast? with
  | none =>
    match ← Run.await (← Run.postTop request) with
    | .error e => return .error e
    | .ok (.error e) => return .error e
    | .ok (.ok none) => return .error (.platform .noTopId)
    | .ok (.ok (some id)) => return .ok id
  | some parent =>
    match ← Run.await (← Run.postReply parent request) with
    | .error e => return .error e
    | .ok outcome => return replyId (index + 1) outcome

/-- Pauses before every segment but the first. -/
def pauseBefore (index : Nat) : Run Unit := do
  if index > 0 then Run.wait (← get).settings.thread.postIntervalMs

/-- Posts the segments from an index on.  The draft that is given back has the ids of those
that were posted; an error tells why not all of them were. -/
def postFrom (d : Draft) : (index : Nat) → List Segment → Run (Option Error × Draft)
  | _, [] => return (none, d)
  | index, s :: rest => do
    pauseBefore index
    match ← postSegment d index s with
    | .error e => return (some e, d)
    | .ok id =>
      match d.appendId id (← Run.now) with
      | .error e => return (some e, d)
      | .ok d =>
        let _ ← Run.recordId d.id id
        let _ ← Run.remember .threadPost s.content
        postFrom d (index + 1) rest

/-- Finishes a draft with a final status, in the session and in its record. -/
def finish (d : Draft) (status : DraftStatus) : Run Draft := do
  match d.moveTo status (← Run.now) with
  | .error _ => return d
  | .ok d =>
    let _ ← Run.finalize d
    return d

/-- Marks a draft as being published, in its record and then in the session. -/
def startPublishing (d : Draft) : Run (Except Error Draft) := do
  match ← Run.updateStatus d.id .publishing with
  | .error e => return .error e
  | .ok () => return d.moveTo .publishing (← Run.now)

/-- Posts a draft whose record has been begun, and finishes it. -/
def publishDraft (d : Draft) : Run Publication := do
  match ← startPublishing d with
  | .error e =>
    let d ← finish d .failed
    return .ofDraft d ("Failed to start publishing: " ++ e.message)
  | .ok d =>
    match ← postFrom d 0 d.segments with
    | (none, d) =>
      let d ← finish d .published
      return .ofDraft d "Thread published successfully"
    | (some e, d) =>
      let d ← finish d .failed
      return .ofDraft d e.message

/-- Publishes segments, written about a topic or given directly. -/
def publishAbout (topic : Option String) (segments : List Segment) : Run Publication := do
  match rejection? (← get).settings.thread.maxSegmentChars segments with
  | some reason => return .rejected reason.message segments
  | none =>
    let d := Draft.new (← Run.freshId) segments topic (← Run.now)
    match ← Run.persist d with
    | .error e => return .rejected ("Failed to save draft: " ++ e.message) d.segments
    | .ok () => publishDraft d

/-- Publishes segments that are given directly. -/
def publish (segments : List Segment) : Run Publication := publishAbout none segments

/-- What content generation is shown of the transcript; nothing if it cannot be read. -/
def generationContext : Run String := do
  match ← Run.recent (← get).settings.recentLimit with
  | .error _ => return ""
  | .ok entries => return Store.history entries

/-- What content generation is shown of the memories; nothing if they cannot be read. -/
def generationMemories (topic : String) : Run String := do
  match ← Run.relevant topic with
  | .error _ => return ""
  | .ok text => return text

/-- Has segments written about a topic and publishes them. -/
def generateAndPublish (topic : String) : Run Publication := do
  let context ← generationContext
  let memories ← generationMemories topic
  match ← Run.generate topic context memories with
  | .error e => return .rejected ("Failed to generate thread content: " ++ e.message) []
  | .ok segments =>
    if segments.isEmpty then return .rejected "content generation produced no segments" []
    else publishAbout (some topic) segments

end PostingTerminal
