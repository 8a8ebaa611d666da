import PostingTerminal.Error

/-!
# Drafts of threads

A draft holds the segments of a thread and what has become of them: its status and the ids of
the messages posted so far, one for each of the leading segments.  A draft is only changed by
moving it to another status and, while it is being published, by appending an id.  Both give
the time of the change; a refused change gives none.
-/

namespace PostingTerminal

/-- A time in milliseconds since the epoch. -/
abbrev Timestamp := Nat

/-- One message of a thread. -/
structure Segment where
  content : String
  mediaIncluded : Bool
  mediaUrls : List String
  deriving DecidableEq, Repr, Inhabited

namespace Segment

/-- A segment without media. -/
def ofText (content : String) : Segment := ⟨content, false, []⟩

/-- How many characters the platform counts. -/
def charCount (s : Segment) : Nat := s.content.length

end Segment

/-- A thread and what has become of it. -/
structure Draft where
  id : DraftId
  topic : Option String
  segments : List Segment
  status : DraftStatus
  messageIds : List MessageId
  createdAt : Timestamp
  updatedAt : Timestamp
  deriving DecidableEq, Repr, Inhabited

namespace Draft

/-- A draft as it is first written. -/
def new (id : DraftId) (segments : List Segment) (topic : Option String) (now : Timestamp) :
    Draft :=
  ⟨id, topic, segments, .draft, [], now, now⟩

/-- Moves a draft to another status. -/
def moveTo (d : Draft) (next : DraftStatus) (now : Timestamp) : Except Error Draft :=
  if d.status.canMoveTo next then .ok { d with status := next, updatedAt := now }
  else .error (.store (.badTransition d.id d.status next))

/-- Appends the id of the message that the next segment has become. -/
def appendId (d : Draft) (id : MessageId) (now : Timestamp) : Except Error Draft :=
  if d.status ≠ .publishing then .error (.store (.notPublishing d.id d.status))
  else if d.messageIds.length ≥ d.segments.length then
    .error (.store (.everySegmentPosted d.id))
  else .ok { d with messageIds := d.messageIds ++ [id], updatedAt := now }

/-- The id of the thread: that of its first message. -/
def threadId (d : Draft) : Option MessageId := d.messageIds.head?

/-- The segments that have no message yet; none if there are more ids than segments. -/
def unposted? (d : Draft) : Option (List Segment) :=
  if d.messageIds.length ≤ d.segments.length then some (d.segments.drop d.messageIds.length)
  else none

/-- What a finished draft leaves in the record that a store keeps of it. -/
def finishAs (stored finished : Draft) (now : Timestamp) : Except Error Draft :=
  if finished.status.isTerminal then
    match stored.moveTo finished.status now with
    | .error e => .error e
    | .ok d => .ok { d with messageIds := finished.messageIds }
  else .error (.store (.notFinished finished.id finished.status))

end Draft

end PostingTerminal
