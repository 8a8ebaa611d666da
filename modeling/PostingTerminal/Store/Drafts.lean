import PostingTerminal.Draft.Format
import PostingTerminal.Store.Directory

/-!
# Where drafts are kept

A store of drafts keeps one record for each id.  It can begin a record, move it to another
status, append a message id to it, finish it and give it back.  Records are kept in memory or
as files; both refuse the same operations for the same causes.

In memory a record is changed in place.  As a file it is read, decoded, changed, stamped with
the time and written to a temporary file that then takes the place of the old one.  The name
of the file is made from the id, which must therefore be spelled with ASCII letters, digits,
`_` and `-`.  The record that is written goes under the id it carries itself.  What an operation
on files does is said for whichever of its accesses fail.
-/

namespace PostingTerminal.Store

/-- A change of one draft at a time. -/
abbrev Change := Draft → Timestamp → Except Error Draft

/-- The changes that a store can make to a record, apart from finishing it. -/
def Change.moveTo (next : DraftStatus) : Change := fun d now => d.moveTo next now

/-- Appends a message id. -/
def Change.appendId (id : MessageId) : Change := fun d now => d.appendId id now

/-- Takes status and ids from a finished draft. -/
def Change.finishAs (finished : Draft) : Change := fun d now => d.finishAs finished now

/-! ## In memory -/

/-- Records in memory, in the order in which they were begun. -/
structure MemoryDrafts where
  drafts : List Draft
  deriving DecidableEq, Repr

namespace MemoryDrafts

/-- No records. -/
def empty : MemoryDrafts := ⟨[]⟩

/-- The record with an id. -/
def fetch (s : MemoryDrafts) (id : DraftId) : Option Draft := s.drafts.find? (·.id == id)

/-- Begins a record. -/
def persist (s : MemoryDrafts) (d : Draft) : Except Error MemoryDrafts :=
  if (s.fetch d.id).isSome then .error (.store (.alreadyExists d.id))
  else .ok ⟨s.drafts ++ [d]⟩

/-- Changes the record with an id. -/
def modify (s : MemoryDrafts) (id : DraftId) (change : Change) (now : Timestamp) :
    Except Error MemoryDrafts :=
  match s.fetch id with
  | none => .error (.store (.notFound id))
  | some d =>
    match change d now with
    | .error e => .error e
    | .ok d => .ok ⟨s.drafts.map fun old => if old.id == id then d else old⟩

end MemoryDrafts

/-! ## As files -/

/-- Whether a character may stand in the name of a draft's file. -/
def isNameChar (c : Char) : Bool := c.isAlphanum || c == '_' || c == '-'

/-- Whether an id can name a file. -/
def isFileId (id : DraftId) : Bool := !id.text.isEmpty && id.text.toList.all isNameChar

/-- The name of a draft's file. -/
def fileName (id : DraftId) : String := id.text ++ ".json"

/-- The name of the file that a draft is written to first. -/
def temporaryName (id : DraftId) : String := id.text ++ ".json.tmp"

/-- An operation on a directory of drafts. -/
abbrev FileStep (α : Type) := Directory → Except Error α × Directory

namespace FileDrafts

/-- Reads the record with an id. -/
def fetch (failures : Failures) (id : DraftId) : FileStep (Option Draft) := fun dir =>
  if !isFileId id then (.error (.store (.invalidId id)), dir)
  else
    match dir.read (fileName id) failures.read with
    | (.error .notFound, dir) => (.ok none, dir)
    | (.error cause, dir) => (.error (.file cause), dir)
    | (.ok text, dir) => ((Draft.ofText text).map some, dir)

/-- Writes a record under the id it carries. -/
def save (failures : Failures) (d : Draft) : FileStep Unit := fun dir =>
  if !isFileId d.id then (.error (.store (.invalidId d.id)), dir)
  else
    match dir.write (temporaryName d.id) d.toJson.prettyText failures.write with
    | (.error cause, dir) => (.error (.file cause), dir)
    | (.ok (), dir) =>
      (dir.rename (temporaryName d.id) (fileName d.id) failures.rename).map
        (Except.mapError Error.file) id

/-- Begins a record. -/
def persist (failures : Failures) (d : Draft) : FileStep Unit := fun dir =>
  match fetch failures d.id dir with
  | (.error e, dir) => (.error e, dir)
  | (.ok (some _), dir) => (.error (.store (.alreadyExists d.id)), dir)
  | (.ok none, dir) => save failures d dir

/-- Changes the record with an id and stamps it with the time. -/
def modify (failures : Failures) (id : DraftId) (change : Change) (now : Timestamp) :
    FileStep Unit := fun dir =>
  match fetch failures id dir with
  | (.error e, dir) => (.error e, dir)
  | (.ok none, dir) => (.error (.store (.notFound id)), dir)
  | (.ok (some d), dir) =>
    match change d now with
    | .error e => (.error e, dir)
    | .ok d => save failures { d with updatedAt := now } dir

end FileDrafts

/-! ## Either

An operation on a store that is given here is made while its accesses to files succeed. -/

/-- A store of drafts. -/
inductive Drafts where
  | memory (records : MemoryDrafts)
  | files (dir : Directory)

/-- An operation on a store of drafts. -/
abbrev Step (α : Type) := Drafts → Except Error α × Drafts

namespace Drafts

/-- Begins a record. -/
def persist (d : Draft) : Step Unit
  | .memory s =>
    match s.persist d with
    | .error e => (.error e, .memory s)
    | .ok s => (.ok (), .memory s)
  | .files dir => ((FileDrafts.persist .none d dir).1, .files (FileDrafts.persist .none d dir).2)

/-- Changes the record with an id. -/
def modify (id : DraftId) (change : Change) (now : Timestamp) : Step Unit
  | .memory s =>
    match s.modify id change now with
    | .error e => (.error e, .memory s)
    | .ok s => (.ok (), .memory s)
  | .files dir =>
    ((FileDrafts.modify .none id change now dir).1,
      .files (FileDrafts.modify .none id change now dir).2)

/-- Moves a record to another status. -/
def updateStatus (id : DraftId) (status : DraftStatus) (now : Timestamp) : Step Unit :=
  modify id (.moveTo status) now

/-- Appends a message id to a record. -/
def recordId (id : DraftId) (message : MessageId) (now : Timestamp) : Step Unit :=
  modify id (.appendId message) now

/-- Finishes the record of a draft. -/
def finalize (d : Draft) (now : Timestamp) : Step Unit := modify d.id (.finishAs d) now

/-- Gives a record back. -/
def fetch (id : DraftId) : Step (Option Draft)
  | .memory s => (.ok (s.fetch id), .memory s)
  | .files dir => ((FileDrafts.fetch .none id dir).1, .files (FileDrafts.fetch .none id dir).2)

/-- How many records are in memory. -/
def size : Drafts → Nat
  | .memory s => s.drafts.length
  | .files _ => 0

/-- The files of the store. -/
def listing : Drafts → List (String × File)
  | .memory _ => []
  | .files dir => dir.files

end Drafts

end PostingTerminal.Store
