import PostingTerminal.Draft.Status

/-!
# What can go wrong, by cause

Every operation of the terminal that can fail says why with a value of `Error`.  The causes
that the terminal itself knows are told apart; a collaborator that is not part of it can only
give a text, which is what the constructors named `other` hold.  The wording of every cause
is in `Error.message` and the functions beside it, and nowhere else.
-/

namespace PostingTerminal

/-- Identifies a draft, apart from any message that the platform has posted. -/
structure DraftId where
  text : String
  deriving DecidableEq, Repr, Inhabited

/-- Identifies a message that the platform has posted. -/
structure MessageId where
  text : String
  deriving DecidableEq, Repr, Inhabited

/-- Why a command line cannot be split into words. -/
inductive ParseError where
  | unbalanced
  | other (detail : String)

/-- Why a command cannot be registered. -/
inductive RegistryError where
  | blankName
  | alreadyRegistered (name : String)
  | other (detail : String)

/-- Why a draft, or the store that keeps it, refuses an operation. -/
inductive StoreError where
  | alreadyExists (id : DraftId)
  | notFound (id : DraftId)
  | invalidId (id : DraftId)
  | badTransition (id : DraftId) (status next : DraftStatus)
  | notPublishing (id : DraftId) (status : DraftStatus)
  | everySegmentPosted (id : DraftId)
  | notFinished (id : DraftId) (status : DraftStatus)
  | other (detail : String)

/-- Why posting to the platform fails. -/
inductive PlatformError where
  | timedOut (seconds : Nat)
  | noTopId
  | replyFailed (position : Nat) (reason : Option String)
  | other (detail : String)

/-- Why content cannot be generated. -/
inductive LlmError where
  | keyNotSet
  | unsendableKey
  | refused (status : Nat) (reason : String) (body : String)
  | undecodableReply (error : Json.DecodeError)
  | emptyReply
  | noJson
  | noClosingBrace
  | undecodableThread (error : Json.DecodeError) (response : String)
  | wrongCount (least most produced : Nat)
  | other (detail : String)

/-- Why settings are inconsistent. -/
inductive SettingsError where
  | noSegmentChars
  | noSegments
  | boundsCrossed (least most : Nat)
  | blankClass
  | other (detail : String)

/-- Why reading or writing a file fails. -/
inductive FileError where
  | notFound
  | notADirectory
  | isADirectory
  | nameTooLong
  | notUtf8
  | other (detail : String)

/-- Why an operation fails. -/
inductive Error where
  | parse (cause : ParseError)
  | unknownCommand (name : String)
  | missingParameter (name : String)
  | invalidType (name expected : String)
  | handler (detail : String)
  | registry (cause : RegistryError)
  | store (cause : StoreError)
  | platform (cause : PlatformError)
  | llm (cause : LlmError)
  | settings (cause : SettingsError)
  | file (cause : FileError)
  | decoding (cause : Json.DecodeError)
  | undecodable (detail : String)
  | toml (detail : String)

/-- The wording of a parse error. -/
def ParseError.message : ParseError → String
  | .unbalanced => "unbalanced quotes or trailing escape in command line"
  | .other detail => detail

/-- The wording of a registry error. -/
def RegistryError.message : RegistryError → String
  | .blankName => "command name must not be empty"
  | .alreadyRegistered name => "command already registered: " ++ name
  | .other detail => detail

/-- The wording of a store error. -/
def StoreError.message : StoreError → String
  | .alreadyExists id => "draft already exists: " ++ id.text
  | .notFound id => "draft not found: " ++ id.text
  | .invalidId id => "invalid draft id: " ++ id.text
  | .badTransition id status next =>
    "invalid status transition for " ++ id.text ++ ": " ++ status.name ++ " -> " ++ next.name
  | .notPublishing id status =>
    "cannot record message ids while " ++ id.text ++ " is " ++ status.name
  | .everySegmentPosted id => id.text ++ " already has an id for every segment"
  | .notFinished id status => "cannot finalize " ++ id.text ++ " while " ++ status.name
  | .other detail => detail

/-- The wording of a platform error. -/
def PlatformError.message : PlatformError → String
  | .timedOut seconds => "post timed out after " ++ toString seconds ++ "s"
  | .noTopId => "Failed to post first tweet: no tweet id returned"
  | .replyFailed position reason =>
    "Failed to post reply tweet " ++ toString position ++ ": "
      ++ reason.getD "no tweet id returned"
  | .other detail => detail

/-- The wording of an error of content generation. -/
def LlmError.message : LlmError → String
  | .keyNotSet => "LLM_API_KEY not set"
  | .unsendableKey => "builder error: failed to parse header value"
  | .refused status reason body =>
    "API error (" ++ toString status ++ " " ++ reason ++ "): " ++ body
  | .undecodableReply e => "error decoding response body: " ++ e.message
  | .emptyReply => "Empty response"
  | .noJson => "No JSON found in response"
  | .noClosingBrace => "No closing brace found in response"
  | .undecodableThread e response =>
    "Failed to parse thread: " ++ e.message ++ " - Response: " ++ response
  | .wrongCount least most produced =>
    "expected " ++ toString least ++ "-" ++ toString most ++ " tweets, model produced "
      ++ toString produced
  | .other detail => detail

/-- The wording of a settings error. -/
def SettingsError.message : SettingsError → String
  | .noSegmentChars => "max_segment_chars must be positive"
  | .noSegments => "min_segments must be at least 1"
  | .boundsCrossed least most =>
    "min_segments (" ++ toString least ++ ") should be <= max_segments (" ++ toString most ++ ")"
  | .blankClass => "cooldown_class must not be empty"
  | .other detail => detail

/-- The wording of a file error. -/
def FileError.message : FileError → String
  | .notFound => "No such file or directory (os error 2)"
  | .notADirectory => "Not a directory (os error 20)"
  | .isADirectory => "Is a directory (os error 21)"
  | .nameTooLong => "File name too long (os error 36)"
  | .notUtf8 => "stream did not contain valid UTF-8"
  | .other detail => detail

/-- The wording of an error. -/
def Error.message : Error → String
  | .parse e => e.message
  | .unknownCommand name => "Unknown command: " ++ name
  | .missingParameter name => "Missing required parameter: " ++ name
  | .invalidType name expected => "Parameter '" ++ name ++ "' must be a " ++ expected ++ "."
  | .handler detail => detail
  | .registry e => "Registry error: " ++ e.message
  | .store e => "Store error: " ++ e.message
  | .platform e => "Platform error: " ++ e.message
  | .llm e => "LLM error: " ++ e.message
  | .settings e => "Config error: " ++ e.message
  | .file e => "IO error: " ++ e.message
  | .decoding e => "Serialization error: " ++ e.message
  | .undecodable detail => "Serialization error: " ++ detail
  | .toml detail => "TOML error: " ++ detail

end PostingTerminal
