import PostingTerminal.Proofs.Json.Problems
import PostingTerminal.Error

/-!
# Line breaks in the wording of errors

* `Error.spliced` — what the wording of an error takes over as it is: names, ids and details.
* `Error.breaks_message` — **the line breaks in the wording of an error are those of what it takes
  over**.  Numbers, stations of a draft and quoted texts bring none.
-/

namespace PostingTerminal

open Text

/-! ## The wording of errors -/

/-- What the wording of a parse error takes over as it is. -/
def ParseError.spliced : ParseError → String
  | .unbalanced => ""
  | .other detail => detail

/-- What the wording of a registry error takes over as it is. -/
def RegistryError.spliced : RegistryError → String
  | .blankName => ""
  | .alreadyRegistered name => name
  | .other detail => detail

/-- What the wording of a store error takes over as it is. -/
def StoreError.spliced : StoreError → String
  | .alreadyExists id | .notFound id | .invalidId id | .badTransition id _ _
  | .notPublishing id _ | .everySegmentPosted id | .notFinished id _ => id.text
  | .other detail => detail

/-- What the wording of a platform error takes over as it is. -/
def PlatformError.spliced : PlatformError → String
  | .timedOut _ | .noTopId => ""
  | .replyFailed _ reason => reason.getD ""
  | .other detail => detail

/-- What the wording of an error of content generation takes over as it is. -/
def LlmError.spliced : LlmError → String
  | .refused _ reason body => reason ++ body
  | .undecodableReply e => e.problem.spliced
  | .undecodableThread e response => e.problem.spliced ++ response
  | .other detail => detail
  | .keyNotSet | .unsendableKey | .emptyReply | .noJson | .noClosingBrace
  | .wrongCount _ _ _ => ""

/-- What the wording of a settings error takes over as it is. -/
def SettingsError.spliced : SettingsError → String
  | .other detail => detail
  | .noSegmentChars | .noSegments | .boundsCrossed _ _ | .blankClass => ""

/-- What the wording of a file error takes over as it is. -/
def FileError.spliced : FileError → String
  | .other detail => detail
  | .notFound | .notADirectory | .isADirectory | .nameTooLong | .notUtf8 => ""

/-- **What the wording of an error takes over as it is**: names, ids and details. -/
def Error.spliced : Error → String
  | .parse e => e.spliced
  | .unknownCommand name => name
  | .missingParameter name => name
  | .invalidType name expected => name ++ expected
  | .handler detail => detail
  | .registry e => e.spliced
  | .store e => e.spliced
  | .platform e => e.spliced
  | .llm e => e.spliced
  | .settings e => e.spliced
  | .file e => e.spliced
  | .decoding e => e.problem.spliced
  | .undecodable detail => detail
  | .toml detail => detail

/-- The name of a status has no line break. -/
theorem DraftStatus.breaks_name (status : DraftStatus) : breaks status.name = [] := by
  cases status <;> exact breaks_ofList (by decide)

/-- The message of a parse error has the line breaks of what is spliced in. -/
theorem ParseError.breaks_message (e : ParseError) : breaks e.message = breaks e.spliced := by
  cases e with
  | unbalanced => exact breaks_ofList (by decide)
  | other detail => rfl

/-- The message of a registry error has the line breaks of what is spliced in. -/
theorem RegistryError.breaks_message (e : RegistryError) :
    breaks e.message = breaks e.spliced := by
  cases e with
  | blankName => exact breaks_ofList (by decide)
  | alreadyRegistered name => exact breaks_label (by decide) name
  | other detail => rfl

/-- The message of a store error has the line breaks of what is spliced in. -/
theorem StoreError.breaks_message (e : StoreError) : breaks e.message = breaks e.spliced := by
  cases e with
  | alreadyExists id => exact breaks_label (by decide) id.text
  | notFound id => exact breaks_label (by decide) id.text
  | invalidId id => exact breaks_label (by decide) id.text
  | badTransition id status next =>
    show breaks ("invalid status transition for " ++ id.text ++ ": " ++ status.name ++ " -> "
      ++ next.name) = breaks id.text
    rw [breaks_trailer next.breaks_name, breaks_trailer (breaks_ofList (by decide)),
      breaks_trailer status.breaks_name, breaks_enclosed (by decide) (by decide)]
  | notPublishing id status =>
    show breaks ("cannot record message ids while " ++ id.text ++ " is " ++ status.name)
      = breaks id.text
    rw [breaks_trailer status.breaks_name, breaks_enclosed (by decide) (by decide)]
  | everySegmentPosted id => exact breaks_trailer (breaks_ofList (by decide)) id.text
  | notFinished id status =>
    show breaks ("cannot finalize " ++ id.text ++ " while " ++ status.name) = breaks id.text
    rw [breaks_trailer status.breaks_name, breaks_enclosed (by decide) (by decide)]
  | other detail => rfl

/-- The message of a platform error has the line breaks of what is spliced in. -/
theorem PlatformError.breaks_message (e : PlatformError) :
    breaks e.message = breaks e.spliced := by
  cases e with
  | timedOut seconds =>
    exact (breaks_enclosed (by decide) (by decide) _).trans (breaks_toString seconds)
  | replyFailed position reason =>
    have hlabel : breaks ("Failed to post reply tweet " ++ toString position ++ ": ") = [] :=
      (breaks_enclosed (by decide) (by decide) _).trans (breaks_toString position)
    cases reason with
    | none => exact (breaks_trailer (breaks_ofList (by decide)) _).trans hlabel
    | some reason =>
      show breaks ("Failed to post reply tweet " ++ toString position ++ ": " ++ reason) = _
      rw [breaks_append, hlabel, List.nil_append]
      rfl
  | noTopId => exact breaks_ofList (by decide)
  | other detail => rfl

/-- The message about content generation has the line breaks of what is spliced in. -/
theorem LlmError.breaks_message (e : LlmError) : breaks e.message = breaks e.spliced := by
  cases e with
  | refused status reason body =>
    show breaks ("API error (" ++ toString status ++ " " ++ reason ++ "): " ++ body)
      = breaks (reason ++ body)
    rw [breaks_append, breaks_trailer (breaks_ofList (by decide)), breaks_append _ reason,
      breaks_enclosed (by decide) (by decide), breaks_toString, List.nil_append, breaks_append]
  | undecodableReply e => exact (breaks_label (by decide) _).trans e.breaks_message
  | undecodableThread e response =>
    show breaks ("Failed to parse thread: " ++ e.message ++ " - Response: " ++ response)
      = breaks (e.problem.spliced ++ response)
    rw [breaks_append, breaks_enclosed (by decide) (by decide), e.breaks_message, breaks_append]
  | wrongCount least most produced =>
    show breaks ("expected " ++ toString least ++ "-" ++ toString most
      ++ " tweets, model produced " ++ toString produced) = []
    rw [breaks_trailer (breaks_toString produced), breaks_trailer (breaks_ofList (by decide)),
      breaks_trailer (breaks_toString most), breaks_enclosed (by decide) (by decide),
      breaks_toString]
  | keyNotSet | unsendableKey | emptyReply | noJson | noClosingBrace =>
    exact breaks_ofList (by decide)
  | other detail => rfl

/-- The message of a settings error has the line breaks of what is spliced in. -/
theorem SettingsError.breaks_message (e : SettingsError) :
    breaks e.message = breaks e.spliced := by
  cases e with
  | boundsCrossed least most =>
    show breaks ("min_segments (" ++ toString least ++ ") should be <= max_segments ("
      ++ toString most ++ ")") = []
    rw [breaks_trailer (breaks_ofList (by decide)), breaks_trailer (breaks_toString most),
      breaks_enclosed (by decide) (by decide), breaks_toString]
  | noSegmentChars | noSegments | blankClass => exact breaks_ofList (by decide)
  | other detail => rfl

/-- The message of a file error has the line breaks of what is spliced in. -/
theorem FileError.breaks_message (e : FileError) : breaks e.message = breaks e.spliced := by
  cases e with
  | other detail => rfl
  | _ => exact breaks_ofList (by decide)

/-- **The line breaks in the wording of an error** are those of what it takes over. -/
theorem Error.breaks_message (e : Error) : breaks e.message = breaks e.spliced := by
  cases e with
  | parse e => exact e.breaks_message
  | unknownCommand name => exact breaks_label (by decide) name
  | missingParameter name => exact breaks_label (by decide) name
  | invalidType name expected =>
    show breaks ("Parameter '" ++ name ++ "' must be a " ++ expected ++ ".")
      = breaks (name ++ expected)
    rw [breaks_trailer (breaks_ofList (by decide)), breaks_append,
      breaks_enclosed (by decide) (by decide), breaks_append]
  | handler detail => rfl
  | registry e => exact (breaks_label (by decide) _).trans e.breaks_message
  | store e => exact (breaks_label (by decide) _).trans e.breaks_message
  | platform e => exact (breaks_label (by decide) _).trans e.breaks_message
  | llm e => exact (breaks_label (by decide) _).trans e.breaks_message
  | settings e => exact (breaks_label (by decide) _).trans e.breaks_message
  | file e => exact (breaks_label (by decide) _).trans e.breaks_message
  | decoding e => exact (breaks_label (by decide) _).trans e.breaks_message
  | undecodable detail => exact breaks_label (by decide) detail
  | toml detail => exact breaks_label (by decide) detail

end PostingTerminal
