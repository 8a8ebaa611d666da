import PostingTerminal.Json.Decoder

/-!
# The stations of a draft's life

A draft is written, then being published, then published or failed; it may also fail before
publication begins.  Published and failed are final.
-/

namespace PostingTerminal

/-- Where a draft stands in its life. -/
inductive DraftStatus where
  | draft
  | publishing
  | published
  | failed
  deriving DecidableEq, Repr, Inhabited

namespace DraftStatus

/-- Whether the status never changes again. -/
def isTerminal : DraftStatus → Bool
  | .published | .failed => true
  | .draft | .publishing => false

/-- Whether a draft may move from one status to another. -/
def canMoveTo : DraftStatus → DraftStatus → Bool
  | .draft, .publishing | .draft, .failed => true
  | .publishing, .published | .publishing, .failed => true
  | _, _ => false

/-- The name of a status. -/
def name : DraftStatus → String
  | .draft => "draft"
  | .publishing => "publishing"
  | .published => "published"
  | .failed => "failed"

/-- Every status with its name. -/
def named : List (String × DraftStatus) :=
  [.draft, .publishing, .published, .failed].map fun s => (s.name, s)

/-- Reads a status by its name. -/
def decoder : Json.Decoder DraftStatus := .choice named

/-- No status can be left that is final. -/
theorem canMoveTo_of_isTerminal {s : DraftStatus} (h : s.isTerminal = true) (t : DraftStatus) :
    s.canMoveTo t = false := by
  cases s <;> cases t <;> simp_all [isTerminal, canMoveTo]

end DraftStatus

end PostingTerminal
