import PostingTerminal.Llm.Client
import PostingTerminal.Draft.Basic

/-!
# Threads written by a language model

The model is told who it writes as, what the terminal has shown lately, what is remembered
about the topic, and the rules for a thread.  From its answer everything between the first
opening and the last closing brace is read as a thread.  A thread with too few or too many
segments is refused; the blanks around each segment are taken off.
-/

namespace PostingTerminal.Llm

/-- What a model is told about every thread. -/
structure Writer where
  client : Client
  agentName : String
  minSegments : Nat
  maxSegments : Nat
  /-- The most characters that the model is told to use in a segment. -/
  targetChars : Nat
  deriving DecidableEq, Repr

/-- The writer for an agent's settings.  The model is told to stay thirty characters below
the limit. -/
def Writer.new (client : Client) (agentName : String) (thread : ThreadSettings) : Writer :=
  ⟨client, agentName, thread.minSegments, thread.maxSegments, max (thread.maxSegmentChars - 30) 1⟩

/-- What the model is told before the topic. -/
def Writer.systemText (w : Writer) (context memories : String) : String :=
  "You are the thread aspect of " ++ w.agentName
    ++ ". You create engaging and informative threads.\n\n"
    ++ "## SHORT TERM TERMINAL LOG\n=== TERMINAL LOG START ===\n" ++ context
    ++ "\n=== TERMINAL LOG END ===\n\n"
    ++ "# POTENTIALLY RELEVANT MEMORIES\n" ++ memories ++ "\n\n"
    ++ "# THREAD RULES\n"
    ++ "- Between " ++ toString w.minSegments ++ " and " ++ toString w.maxSegments ++ " tweets\n"
    ++ "- Each tweet must be under " ++ toString w.targetChars ++ " characters\n"
    ++ "- First tweet must grab attention\n"
    ++ "- Clear narrative structure, consistent tone\n"
    ++ "- End with a call-to-action or strong conclusion\n\n"
    ++ "# OUTPUT FORMAT (JSON only, no explanation)\n"
    ++ "\x7b\"topic\": \"...\", \"main_points\": [\"...\"], "
    ++ "\"thread_tweets\": [\x7b\"content\": \"...\", \"media_included\": false\x7d]\x7d"

/-- What the model is asked for. -/
def userText (topic : String) : String := "GENERATE A THREAD ABOUT " ++ topic

/-- One segment as the model writes it. -/
structure Written where
  content : String
  mediaIncluded : Bool
  deriving DecidableEq, Repr

/-- The members of a written segment. -/
def Written.record : Json.Record Written where
  name := "GeneratedTweet"
  blank := ⟨"", false⟩
  members := [
    .required "content" .string fun v t => { t with content := v },
    .defaulted "media_included" .flag fun v t => { t with mediaIncluded := v }]

/-- The members of a written thread, of which only the segments are kept. -/
def threadRecord : Json.Record (List Written) where
  name := "GeneratedThread"
  blank := []
  members := [
    .defaulted "topic" (.optional .string) fun _ ts => ts,
    .defaulted "main_points" (.list .string) fun _ ts => ts,
    .required "thread_tweets" (.list Written.record.decoder) fun v _ => v]

/-- The part of an answer from the first opening to the last closing brace. -/
def bracedPart (answer : List Char) : Except LlmError (List Char) :=
  match answer.dropWhile (· ≠ '{') with
  | [] => .error .noJson
  | inner =>
    match inner.reverse.dropWhile (· ≠ '}') with
    | [] => .error .noClosingBrace
    | part => .ok part.reverse

/-- The segment of a thread that a written one becomes. -/
def Written.toSegment (t : Written) : Segment := ⟨Text.trimmed t.content, t.mediaIncluded, []⟩

/-- The segments in an answer. -/
def Writer.segmentsOf (w : Writer) (answer : String) : Except Error (List Segment) :=
  match bracedPart answer.toList with
  | .error cause => .error (.llm cause)
  | .ok part =>
    match threadRecord.decoder.fromText (String.ofList part) with
    | .error e => .error (.llm (.undecodableThread e answer))
    | .ok written =>
      if written.length < w.minSegments ∨ written.length > w.maxSegments then
        .error (.llm (.wrongCount w.minSegments w.maxSegments written.length))
      else .ok (written.map (·.toSegment))

/-- The segments in a completion, if there is one. -/
def Writer.result (w : Writer) : Except Error String → Except Error (List Segment)
  | .error e => .error e
  | .ok answer => w.segmentsOf answer

/-- Has the model write a thread. -/
def Writer.write (w : Writer) (topic context memories : String) (s : Service) :
    Response (Except Error (List Segment)) × Service :=
  let (response, s) := w.client.complete (w.systemText context memories) (userText topic) s
  (response.map w.result, s)

end PostingTerminal.Llm
