import PostingTerminal.Session.Basic

/-!
# Opening a session

Settings may name places where drafts and the transcript are kept; what they do not name is
kept in memory.  A session can be opened if the place for drafts can be used as a directory
and the settings are consistent.  Of the two causes for a refusal the first one is given.
-/

namespace PostingTerminal

open Store (Directory Drafts TranscriptFile Transcript)

/-- What is found at the places that settings may name. -/
structure Places where
  /-- The directory that is there, or is made there. -/
  drafts : String → Except FileError Directory
  transcript : String → TranscriptFile

/-- Places where nothing has been kept yet. -/
def Places.unused : Places := ⟨fun _ => .ok .empty, fun _ => .missing⟩

/-- The drafts that are kept at a place, if one is named. -/
def Places.openDrafts (places : Places) : Option String → Except Error Drafts
  | none => .ok (.memory .empty)
  | some path =>
    match places.drafts path with
    | .error cause => .error (.file cause)
    | .ok directory => .ok (.files directory)

/-- The transcript that is kept at a place, if one is named. -/
def Places.openTranscript (places : Places) : Option String → Transcript
  | none => .memory []
  | some path => .file (places.transcript path)

/-- Opens a session over the places that the settings name. -/
def Session.openAt (places : Places) (settings : Settings) (platform : Platform)
    (generator : Generator) (faults : Faults) (ids : IdSupply) (clock : Nat → Timestamp) :
    Except Error Session := do
  let drafts ← places.openDrafts settings.storage.draftsDir
  settings.validate
  let transcript := places.openTranscript settings.storage.transcriptPath
  return .start settings drafts transcript platform generator faults ids clock

end PostingTerminal
