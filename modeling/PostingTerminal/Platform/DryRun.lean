import PostingTerminal.Draft.Basic

/-!
# Posting to the platform

A message is posted at the top or as a reply to a message that is there already.  Every
request carries a key, the same one for every attempt to post the same segment.  A platform
that only keeps what it is given stands in for a real one: it numbers the messages from one
on and posts no key twice.
-/

namespace PostingTerminal.Platform

/-- A message to post. -/
structure Request where
  text : String
  mediaUrls : List String
  key : String
  deriving DecidableEq, Repr

/-- What becomes of a reply. -/
structure ReplyOutcome where
  success : Bool
  messageId : Option MessageId
  failureMessage : Option String
  deriving DecidableEq, Repr

namespace ReplyOutcome

/-- A reply that has become a message. -/
def posted (id : MessageId) : ReplyOutcome := ⟨true, some id, none⟩

/-- A reply that has not been posted. -/
def failed (message : String) : ReplyOutcome := ⟨false, none, some message⟩

end ReplyOutcome

/-- A message that has been posted. -/
structure Posted where
  id : MessageId
  parent : Option MessageId
  text : String
  deriving DecidableEq, Repr

/-- A platform that keeps what is posted: the messages in order and the id of each key. -/
structure DryRun where
  posted : List Posted
  ids : List (String × MessageId)
  next : Nat
  deriving DecidableEq, Repr

namespace DryRun

/-- A platform without messages. -/
def empty : DryRun := ⟨[], [], 1⟩

/-- Posts a message, unless its key has been used: then the id of that message is given. -/
def post (p : DryRun) (parent : Option MessageId) (request : Request) : MessageId × DryRun :=
  match p.ids.lookup request.key with
  | some id => (id, p)
  | none =>
    let id : MessageId := ⟨"dry_" ++ toString p.next⟩
    (id, ⟨p.posted ++ [⟨id, parent, request.text⟩], p.ids ++ [(request.key, id)], p.next + 1⟩)

/-- Posts a message at the top. -/
def postTop (p : DryRun) (request : Request) : Option MessageId × DryRun :=
  let (id, p) := p.post none request
  (some id, p)

/-- Posts a reply. -/
def postReply (p : DryRun) (parent : MessageId) (request : Request) : ReplyOutcome × DryRun :=
  let (id, p) := p.post (some parent) request
  (.posted id, p)

end DryRun

end PostingTerminal.Platform
