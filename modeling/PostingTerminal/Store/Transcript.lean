import PostingTerminal.Draft.Basic
import PostingTerminal.Json.Decoder
import PostingTerminal.Json.Printer
import PostingTerminal.Text.Blank
import PostingTerminal.Text.Lines

/-!
# The transcript of a terminal

Every executed line is kept with its output and its time.  The entries are kept in memory or
in a file with one compact JSON object on each line.  An entry is only ever appended to the
file; reading passes over lines that are blank or not an entry.  A history shows entries as a
terminal would.
-/

namespace PostingTerminal.Store

open Json (Value)

/-- An executed line, its output and its time. -/
structure Entry where
  input : String
  output : String
  time : Timestamp
  deriving DecidableEq, Repr, Inhabited

/-- An entry as JSON. -/
def Entry.toJson (e : Entry) : Value :=
  .object [("input", .string e.input), ("output", .string e.output), ("at", Value.ofNat e.time)]

/-- The members of an entry. -/
def Entry.record : Json.Record Entry where
  name := "TranscriptEntry"
  blank := ⟨"", "", 0⟩
  members := [
    .required "input" .string fun v e => { e with input := v },
    .required "output" .string fun v e => { e with output := v },
    .required "at" (.natural "u64") fun v e => { e with time := v }]

/-- The line of a file that an entry is written as. -/
def Entry.line (e : Entry) : String := e.toJson.compactText ++ "\n"

/-- The entry on a line of a file, if there is one. -/
def Entry.ofLine? (line : List Char) : Option Entry :=
  if Text.allBlank line then none
  else
    match Entry.record.decoder.scanAll line with
    | .error _ => none
    | .ok e => some e

/-- The entries in the text of a file. -/
def Entry.ofText (text : String) : List Entry := (Text.lines text.toList).filterMap Entry.ofLine?

/-- One entry of a history. -/
def Entry.shown (e : Entry) : String := "$ " ++ e.input ++ "\n" ++ e.output

/-- Entries as a terminal shows them, with an empty line between them. -/
def history (entries : List Entry) : String := "\n\n".intercalate (entries.map Entry.shown)

/-- The last entries, at most as many as the limit. -/
def lastEntries (limit : Nat) (entries : List Entry) : List Entry :=
  entries.drop (entries.length - limit)

/-- What is found where a transcript file should be. -/
inductive TranscriptFile where
  | missing
  | text (content : String)
  /-- A file whose bytes are not UTF-8. -/
  | bytes (content : List UInt8)
  /-- Something that is no file and cannot become one. -/
  | unusable (cause : FileError)

/-- A transcript. -/
inductive Transcript where
  | memory (entries : List Entry)
  | file (content : TranscriptFile)

namespace TranscriptFile

/-- The file with the given bytes. -/
def ofBytes (content : List UInt8) : TranscriptFile :=
  match String.fromUTF8? (ByteArray.mk content.toArray) with
  | some s => .text s
  | none => .bytes content

/-- Appends a line to the file. -/
def append (line : String) : TranscriptFile → Except Error TranscriptFile
  | .missing => .ok (.text line)
  | .text content => .ok (.text (content ++ line))
  | .bytes content => .ok (ofBytes (content ++ line.toUTF8.toList))
  | .unusable cause => .error (.file cause)

/-- The entries in the file. -/
def entries : TranscriptFile → Except Error (List Entry)
  | .missing => .ok []
  | .text content => .ok (Entry.ofText content)
  | .bytes _ => .error (.file .notUtf8)
  | .unusable cause =>
    match cause with
    | .notFound => .ok []
    | cause => .error (.file cause)

/-- The text of the file, if it is there and can be read. -/
def text? : TranscriptFile → Option String
  | .text content => some content
  | _ => none

end TranscriptFile

namespace Transcript

/-- Appends an entry. -/
def append (e : Entry) : Transcript → Except Error Unit × Transcript
  | .memory entries => (.ok (), .memory (entries ++ [e]))
  | .file content =>
    match content.append e.line with
    | .error cause => (.error cause, .file content)
    | .ok content => (.ok (), .file content)

/-- The last entries, at most as many as the limit. -/
def recent (limit : Nat) : Transcript → Except Error (List Entry)
  | .memory entries => .ok (lastEntries limit entries)
  | .file content => content.entries.map (lastEntries limit)

end Transcript

end PostingTerminal.Store
