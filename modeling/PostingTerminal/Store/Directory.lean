import PostingTerminal.Error

/-!
# A directory of files

A directory holds files under names, each name once.  It can be read, written and renamed in,
and notes every access it is asked for, so that what an operation touches can be stated.  A
name may have at most 255 bytes; an access under a longer name fails and changes nothing.

Any access may fail for a cause that lies outside.  One that reads or renames changes nothing
then; one that writes may have come some way.
-/

namespace PostingTerminal.Store

/-- What a file holds. -/
inductive File where
  | text (content : String)
  /-- Bytes that are not UTF-8. -/
  | bytes (content : List UInt8)
  deriving DecidableEq

/-- The file with the given bytes. -/
def File.ofBytes (content : List UInt8) : File :=
  match String.fromUTF8? (ByteArray.mk content.toArray) with
  | some s => .text s
  | none => .bytes content

/-- The bytes of a file. -/
def File.toBytes : File → List UInt8
  | .text content => content.toUTF8.toList
  | .bytes content => content

/-- One access to a directory. -/
inductive Access where
  | read (name : String)
  | write (name : String)
  | rename (source target : String)
  deriving DecidableEq, Repr

/-- The names that an access touches. -/
def Access.names : Access → List String
  | .read name => [name]
  | .write name => [name]
  | .rename source target => [source, target]

/-- A write that fails. -/
structure BrokenWrite where
  cause : FileError
  /-- How many bytes of the text the file holds then, if it has been opened at all. -/
  landed : Option Nat

/-- What fails of the accesses of an operation, of which there is one of each kind at most. -/
structure Failures where
  read : Option FileError
  write : Option BrokenWrite
  rename : Option FileError

/-- Nothing fails. -/
def Failures.none : Failures := ⟨.none, .none, .none⟩

/-- Files by name, and the accesses made so far. -/
structure Directory where
  files : List (String × File)
  accesses : List Access

namespace Directory

/-- A directory without files. -/
def empty : Directory := ⟨[], []⟩

/-- The file with a name. -/
def file? (dir : Directory) (name : String) : Option File := dir.files.lookup name

/-- The files after one is put under a name. -/
def putFile (files : List (String × File)) (name : String) (file : File) : List (String × File) :=
  match files with
  | [] => [(name, file)]
  | (n, f) :: rest => if n = name then (name, file) :: rest else (n, f) :: putFile rest name file

/-- The files after the file with a name is taken away. -/
def dropFile (files : List (String × File)) (name : String) : List (String × File) :=
  files.filter (·.1 != name)

/-- Whether a name is short enough for a file. -/
def admits (name : String) : Bool := name.utf8ByteSize ≤ 255

/-- Notes an access. -/
def note (dir : Directory) (access : Access) : Directory :=
  { dir with accesses := dir.accesses ++ [access] }

/-- Puts a file under a name, in place of the one that may be there. -/
def put (dir : Directory) (name : String) (file : File) : Directory :=
  { dir with files := putFile dir.files name file }

/-- Reads a file. -/
def read (dir : Directory) (name : String) (failure : Option FileError) :
    Except FileError String × Directory :=
  let dir := dir.note (.read name)
  if !admits name then (.error .nameTooLong, dir)
  else
    match failure, dir.file? name with
    | some cause, _ => (.error cause, dir)
    | none, none => (.error .notFound, dir)
    | none, some (.bytes _) => (.error .notUtf8, dir)
    | none, some (.text content) => (.ok content, dir)

/-- Writes a file, in place of the one that may be there. -/
def write (dir : Directory) (name content : String) (failure : Option BrokenWrite) :
    Except FileError Unit × Directory :=
  let dir := dir.note (.write name)
  if !admits name then (.error .nameTooLong, dir)
  else
    match failure with
    | none => (.ok (), dir.put name (.text content))
    | some ⟨cause, none⟩ => (.error cause, dir)
    | some ⟨cause, some landed⟩ =>
      (.error cause, dir.put name (.ofBytes (content.toUTF8.toList.take landed)))

/-- Renames a file, in place of the one that may have the new name. -/
def rename (dir : Directory) (source target : String) (failure : Option FileError) :
    Except FileError Unit × Directory :=
  let dir := dir.note (.rename source target)
  if !(admits source && admits target) then (.error .nameTooLong, dir)
  else
    match failure, dir.file? source with
    | some cause, _ => (.error cause, dir)
    | none, none => (.error .notFound, dir)
    | none, some file =>
      (.ok (), { dir with files := putFile (dropFile dir.files source) target file })

/-- What a directory gives back after a file is put under a name. -/
theorem lookup_putFile (files : List (String × File)) (name : String) (file : File)
    (other : String) :
    (putFile files name file).lookup other = if other = name then some file else files.lookup other := by
  induction files with
  | nil =>
    by_cases h : other = name
    · simp [putFile, h]
    · simp [putFile, List.lookup_cons, h, beq_eq_false_iff_ne.2 h]
  | cons f rest ih =>
    obtain ⟨n, t⟩ := f
    by_cases hn : n = name
    · subst hn
      by_cases h : other = n
      · simp [putFile, h]
      · simp [putFile, List.lookup_cons, h, beq_eq_false_iff_ne.2 h]
    · by_cases h : other = n
      · subst h
        simp [putFile, hn]
      · simp [putFile, List.lookup_cons, hn, beq_eq_false_iff_ne.2 h, ih]

/-- Noting an access changes no file. -/
@[simp]
theorem file?_note (dir : Directory) (access : Access) (name : String) :
    (dir.note access).file? name = dir.file? name := rfl

/-- What a directory gives back after a file has been put there. -/
theorem file?_put (dir : Directory) (name : String) (file : File) (other : String) :
    (dir.put name file).file? other = if other = name then some file else dir.file? other :=
  lookup_putFile dir.files name file other

end Directory

end PostingTerminal.Store
