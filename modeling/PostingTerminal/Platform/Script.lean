import PostingTerminal.Platform.DryRun
import PostingTerminal.Response

/-!
# What a platform will answer

A platform other than the dry run is known only by what it answers.  A `Script` says this for
every call by its number, once for the case that the call posts at the top and once for the
case that it posts a reply.
-/

namespace PostingTerminal.Platform

/-- What comes of the attempt to post at the top: an id, perhaps none, or an error. -/
abbrev TopOutcome := Except Error (Option MessageId)

/-- The answers of a platform by the number of the call. -/
structure Script where
  top : Nat → Response TopOutcome
  reply : Nat → Response ReplyOutcome

/-- The id that a scripted platform gives the message of a call unless another is written. -/
def defaultId (call : Nat) : MessageId := ⟨"msg_" ++ toString call⟩

/-- The platform that posts everything at once. -/
def Script.posting : Script where
  top k := .answer 0 (.ok (some (defaultId k)))
  reply k := .answer 0 (.posted (defaultId k))

end PostingTerminal.Platform

namespace PostingTerminal

open Platform (DryRun Script Posted)

/-- A platform. -/
inductive Platform where
  | dryRun (state : DryRun)
  | scripted (script : Script)

/-- The messages on a dry-run platform. -/
def Platform.posted : Platform → List Posted
  | .dryRun state => state.posted
  | .scripted _ => []

end PostingTerminal
