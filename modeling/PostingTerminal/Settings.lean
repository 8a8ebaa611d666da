import PostingTerminal.Error
import PostingTerminal.Text.Blank
import PostingTerminal.Toml.Document

/-!
# Settings of an agent

Every setting has a default.  A file may replace any of them, and variables of the
environment come after the file.  Settings are used only if they are consistent: a segment
may hold something, a thread has at least one segment, the bounds are in order, and the class
whose cooldown a new thread waits for has a name.
-/

namespace PostingTerminal

/-- Settings for the publication of threads. -/
structure ThreadSettings where
  /-- The most characters that one segment may have. -/
  maxSegmentChars : Nat
  /-- The fewest segments that generated content may have. -/
  minSegments : Nat
  /-- The most segments that generated content may have. -/
  maxSegments : Nat
  defaultTopic : String
  /-- The pause between two posts, in milliseconds. -/
  postIntervalMs : Nat
  /-- How long one post may take, in seconds, if there is a limit. -/
  postTimeoutSecs : Option Nat
  cooldownClass : String
  deriving DecidableEq, Repr

/-- Where drafts and transcript are kept; in memory where no place is named. -/
structure StorageSettings where
  draftsDir : Option String
  transcriptPath : Option String
  deriving DecidableEq, Repr

/-- Settings of an agent. -/
structure Settings where
  agentName : String
  thread : ThreadSettings
  /-- The cooldown window of each class of actions, in minutes. -/
  cooldowns : List (String × Nat)
  /-- How many transcript entries content generation is shown. -/
  recentLimit : Nat
  storage : StorageSettings
  deriving DecidableEq, Repr

/-- The publication settings that hold unless others are given. -/
def ThreadSettings.default : ThreadSettings :=
  ⟨280, 2, 8, "the latest developments", 1000, none, "thread"⟩

/-- The settings that hold unless others are given. -/
def Settings.default : Settings :=
  ⟨"threadline", .default, [("thread", 60)], 20, ⟨none, none⟩⟩

/-- Variables of the environment. -/
abbrev Environment := List (String × String)

/-! ## Reading -/

/-- The publication settings in a file. -/
def ThreadSettings.record : Json.Record ThreadSettings where
  name := "ThreadConfig"
  blank := .default
  members := [
    .defaulted "max_segment_chars" (.natural "usize") fun v s => { s with maxSegmentChars := v },
    .defaulted "min_segments" (.natural "usize") fun v s => { s with minSegments := v },
    .defaulted "max_segments" (.natural "usize") fun v s => { s with maxSegments := v },
    .defaulted "default_topic" .string fun v s => { s with defaultTopic := v },
    .defaulted "post_interval_ms" (.natural "u64") fun v s => { s with postIntervalMs := v },
    .defaulted "post_timeout_secs" (.optional (.natural "u64"))
      fun v s => { s with postTimeoutSecs := v },
    .defaulted "cooldown_class" .string fun v s => { s with cooldownClass := v }]

/-- The history settings in a file: how many entries are shown. -/
def historyRecord : Json.Record Nat where
  name := "HistoryConfig"
  blank := Settings.default.recentLimit
  members := [.defaulted "recent_limit" (.natural "usize") fun v _ => v]

/-- The storage settings in a file. -/
def StorageSettings.record : Json.Record StorageSettings where
  name := "StorageConfig"
  blank := ⟨none, none⟩
  members := [
    .defaulted "drafts_dir" (.optional (.text "path string")) fun v s => { s with draftsDir := v },
    .defaulted "transcript_path" (.optional (.text "path string"))
      fun v s => { s with transcriptPath := v }]

/-- The settings in a file. -/
def Settings.record : Json.Record Settings where
  name := "AgentConfig"
  blank := .default
  members := [
    .defaulted "agent_name" .string fun v s => { s with agentName := v },
    .defaulted "thread" ThreadSettings.record.decoder fun v s => { s with thread := v },
    .defaulted "cooldowns" (.table (.natural "u64")) fun v s => { s with cooldowns := v },
    .defaulted "history" historyRecord.decoder fun v s => { s with recentLimit := v },
    .defaulted "storage" StorageSettings.record.decoder fun v s => { s with storage := v }]

namespace Settings

/-- Refuses settings that are not consistent, for the first cause that applies. -/
def validate (s : Settings) : Except Error Unit :=
  let t := s.thread
  if t.maxSegmentChars = 0 then .error (.settings .noSegmentChars)
  else if t.minSegments = 0 then .error (.settings .noSegments)
  else if t.minSegments > t.maxSegments then
    .error (.settings (.boundsCrossed t.minSegments t.maxSegments))
  else if Text.allBlank t.cooldownClass.toList then .error (.settings .blankClass)
  else .ok ()

/-- Settings from the text of a file, not yet checked for consistency. -/
def ofFile (text : String) : Except Error Settings :=
  match Toml.parse text.toList with
  | none => .error (.toml "malformed")
  | some v =>
    match Settings.record.decoder.ofValue false v with
    | .error problem => .error (.toml problem.message)
    | .ok s => .ok s

/-- Consistent settings from the text of a file. -/
def ofToml (text : String) : Except Error Settings := do
  let s ← ofFile text
  s.validate
  return s

/-- The cooldown window of a class in minutes. -/
def cooldownMinutes (s : Settings) (name : String) : Option Nat := s.cooldowns.reverse.lookup name

/-- A whole number of at most 64 bits in decimal, a plus sign before it allowed. -/
def readNatural (text : String) : Option Nat :=
  let digits :=
    match text.toList with
    | '+' :: ds => ds
    | ds => ds
  if digits.isEmpty || !digits.all Char.isDigit then none
  else
    let n := Decimal.natOfDigits digits
    if n ≤ Json.maxWord then some n else none

/-- The variables that can replace settings. -/
def environmentNames : List String :=
  ["AGENT_NAME", "THREAD_DEFAULT_TOPIC", "THREAD_POST_INTERVAL_MS", "THREADLINE_DRAFTS_DIR",
    "THREADLINE_TRANSCRIPT"]

/-- Replaces the settings that the environment names.  A pause that is no number is passed
over. -/
def override (s : Settings) (env : Environment) : Settings :=
  let interval := (env.lookup "THREAD_POST_INTERVAL_MS").bind readNatural
  { s with
    agentName := (env.lookup "AGENT_NAME").getD s.agentName
    thread := { s.thread with
      defaultTopic := (env.lookup "THREAD_DEFAULT_TOPIC").getD s.thread.defaultTopic
      postIntervalMs := interval.getD s.thread.postIntervalMs }
    storage :=
      { draftsDir := env.lookup "THREADLINE_DRAFTS_DIR" <|> s.storage.draftsDir
        transcriptPath := env.lookup "THREADLINE_TRANSCRIPT" <|> s.storage.transcriptPath } }

/-- Settings from a file, if one is named, and from the environment.  The file is given by
what reading it has yielded. -/
def load (file : Option (Except FileError String)) (env : Environment) : Except Error Settings := do
  let s ←
    match file with
    | none => .ok Settings.default
    | some (.error cause) => .error (.file cause)
    | some (.ok text) => ofFile text
  let s := s.override env
  s.validate
  return s

end Settings

end PostingTerminal
