import PostingTerminal.Proofs.Draft.Codec
import PostingTerminal.Proofs.Draft.Texts
import PostingTerminal.Proofs.Keyed
import PostingTerminal.Store.Drafts

/-!
# Drafts as files

What reading and writing a draft does to a directory, whatever its files hold and whichever
accesses fail.  A draft is written to a temporary file first, so that its own file is never seen
half written.

* `fileName_injective`, `temporaryName_injective`, `fileName_ne_temporaryName` — two ids share no
  file.
* `FileDrafts.fetch_directory`, `FileDrafts.fetch_congr` — reading changes nothing, and what is read
  depends on the file of the id alone.
* `FileDrafts.saved_save` — **all that writing can do**: the draft is written as a whole, or no file
  but the temporary one has changed.
* `FileDrafts.save_admitted`, `FileDrafts.save_not_admitted` — while no access fails, a draft is
  written if its id can name a file, and otherwise nothing changes.
* `FileDrafts.persist_congr`, `FileDrafts.modify_congr` — what an operation answers depends on what
  is read under its id.
-/

namespace PostingTerminal.Store

/-! ## Names -/

/-- A name that is short enough with the ending of a temporary file is short enough without. -/
theorem admits_fileName {id : DraftId} (h : Directory.admits (temporaryName id) = true) :
    Directory.admits (fileName id) = true := by
  have hlonger : (fileName id).utf8ByteSize ≤ (temporaryName id).utf8ByteSize := by
    rw [fileName, temporaryName, String.utf8ByteSize_append, String.utf8ByteSize_append]
    exact Nat.add_le_add_left (by decide) _
  have hshort : (temporaryName id).utf8ByteSize ≤ 255 := by simpa [Directory.admits] using h
  simpa [Directory.admits] using Nat.le_trans hlonger hshort

/-- Different ids stay different in front of the same ending. -/
theorem id_eq_of_append_eq {id id' : DraftId} {ending : String}
    (h : id.text ++ ending = id'.text ++ ending) : id = id' := by
  have htext : id.text.toList = id'.text.toList := by
    have h := congrArg String.toList h
    rw [String.toList_append, String.toList_append] at h
    exact List.append_cancel_right h
  cases id
  cases id'
  exact congrArg DraftId.mk (String.toList_inj.1 htext)

/-- Different ids name different files. -/
theorem fileName_injective {id id' : DraftId} (h : fileName id = fileName id') : id = id' :=
  id_eq_of_append_eq h

/-- Different ids name different temporary files. -/
theorem temporaryName_injective {id id' : DraftId} (h : temporaryName id = temporaryName id') :
    id = id' :=
  id_eq_of_append_eq h

/-- No file of a draft is a temporary one: the last letters of their names differ. -/
theorem fileName_ne_temporaryName (id id' : DraftId) : fileName id ≠ temporaryName id' := by
  intro h
  have hlast := congrArg (fun name => name.toList.getLast?) h
  simp [fileName, temporaryName, String.toList_append] at hlast

/-- An id names a file that a draft can be written to. -/
def Admitted (id : DraftId) : Prop :=
  isFileId id = true ∧ Directory.admits (temporaryName id) = true

/-! ## Files -/

/-- What a directory gives back after a file is taken away. -/
theorem Directory.lookup_dropFile (files : List (String × File)) (name other : String) :
    (dropFile files name).lookup other = if other = name then none else files.lookup other :=
  lookup_filter_ne files name other

/-- Directories with the same files give back the same. -/
theorem Directory.file?_congr {dir dir' : Directory} (h : dir'.files = dir.files) (name : String) :
    dir'.file? name = dir.file? name := by
  rw [file?, h, file?]

namespace FileDrafts

variable {failures : Failures} {dir dir' : Directory} {id : DraftId} {d : Draft}

/-! ## Reading -/

/-- Of an id that can name a file that file is read, of any other nothing. -/
theorem fetch_directory (failures : Failures) (id : DraftId) (dir : Directory) :
    (fetch failures id dir).2 = if isFileId id then dir.note (.read (fileName id)) else dir := by
  unfold fetch
  cases isFileId id with
  | false => rfl
  | true =>
    have hread : (dir.read (fileName id) failures.read).2 = dir.note (.read (fileName id)) := by
      unfold Directory.read
      dsimp only
      split
      · rfl
      · split <;> rfl
    rcases hrun : dir.read (fileName id) failures.read with ⟨cause | text, dir'⟩
    all_goals
      rw [hrun] at hread
      obtain rfl : dir' = _ := hread
    · cases cause <;> rfl
    · rfl

/-- Reading a record changes no file. -/
theorem files_fetch (failures : Failures) (id : DraftId) (dir : Directory) :
    (fetch failures id dir).2.files = dir.files := by
  rw [fetch_directory]
  split <;> rfl

/-- What is read under an id depends on the file of that id alone. -/
theorem fetch_congr (h : dir'.file? (fileName id) = dir.file? (fileName id)) :
    (fetch failures id dir').1 = (fetch failures id dir).1 := by
  have hread : (dir'.read (fileName id) failures.read).1
      = (dir.read (fileName id) failures.read).1 := by
    unfold Directory.read
    dsimp only
    rw [Directory.file?_note, Directory.file?_note, h]
    split
    · rfl
    · split <;> rfl
  unfold fetch
  cases isFileId id with
  | false => rfl
  | true =>
    rcases hrun : dir.read (fileName id) failures.read with ⟨answer, dir₁⟩
    rcases hrun' : dir'.read (fileName id) failures.read with ⟨answer', dir₂⟩
    rw [hrun, hrun'] at hread
    obtain rfl : answer' = answer := hread
    rcases answer' with cause | text
    · cases cause <;> rfl
    · rfl

/-- What is read under an id is the draft that the file of that id holds. -/
theorem fetch_of_text {text : String} (hid : isFileId id = true)
    (hname : Directory.admits (fileName id) = true)
    (h : dir.file? (fileName id) = some (.text text)) :
    (fetch .none id dir).1 = (Draft.ofText text).map some := by
  simp [fetch, Directory.read, Failures.none, hid, hname, h]

/-- Nothing is read under an id that there is no file of. -/
theorem fetch_of_absent (hid : isFileId id = true) (hname : Directory.admits (fileName id) = true)
    (h : dir.file? (fileName id) = none) : (fetch .none id dir).1 = .ok none := by
  simp [fetch, Directory.read, Failures.none, hid, hname, h]

/-- A draft that is read under an id is what the file of that id holds. -/
theorem text_of_fetch (h : (fetch failures id dir).1 = .ok (some d)) :
    ∃ text, dir.file? (fileName id) = some (.text text) ∧ Draft.ofText text = .ok d := by
  unfold fetch at h
  split at h
  · cases h
  rcases hrun : dir.read (fileName id) failures.read with ⟨cause | text, dir'⟩
  · rw [hrun] at h
    cases cause <;> cases h
  · have hfile : dir.file? (fileName id) = some (.text text) := by
      unfold Directory.read at hrun
      dsimp only at hrun
      split at hrun
      · cases hrun
      · split at hrun
        case h_4 content hcontent =>
          cases hrun
          exact hcontent
        all_goals cases hrun
    rw [hrun] at h
    cases hparse : Draft.ofText text with
    | error e => simp [hparse, Except.map] at h
    | ok parsed =>
      simp only [hparse, Except.map, Except.ok.injEq, Option.some.injEq] at h
      exact ⟨text, hfile, h ▸ hparse⟩

/-- A draft that is read is one that can be written. -/
theorem fitsWord_of_fetch (h : (fetch failures id dir).1 = .ok (some d)) : d.FitsWord := by
  obtain ⟨text, -, hparse⟩ := text_of_fetch h
  exact fitsWord_of_ofText hparse

/-! ## Writing -/

/-- The files of a directory after a draft has been written as a whole. -/
def Written (d : Draft) (dir dir' : Directory) : Prop :=
  ∀ name, dir'.file? name = if name = fileName d.id then some (.text d.toJson.prettyText)
    else if name = temporaryName d.id then none else dir.file? name

/-- A draft that has been written is the text of its file. -/
theorem Written.file (h : Written d dir dir') :
    dir'.file? (fileName d.id) = some (.text d.toJson.prettyText) := by
  rw [h, if_pos rfl]

/-- A draft that has been written changes no file but its own, and the temporary one. -/
theorem Written.file?_of_ne (h : Written d dir dir') {name : String}
    (hname : name ≠ temporaryName d.id) : dir'.file? name
      = if name = fileName d.id then some (.text d.toJson.prettyText) else dir.file? name := by
  rw [h name, if_neg hname]

/-- It is found under its own id only. -/
theorem Written.file?_fileName (h : Written d dir dir') (id : DraftId) :
    dir'.file? (fileName id)
      = if id = d.id then some (.text d.toJson.prettyText) else dir.file? (fileName id) := by
  rw [h.file?_of_ne (fileName_ne_temporaryName id d.id)]
  by_cases hid : id = d.id
  · rw [if_pos (congrArg fileName hid), if_pos hid]
  · rw [if_neg fun hname => hid (fileName_injective hname), if_neg hid]

/-- All that writing a draft can do. -/
inductive Saved (d : Draft) (dir : Directory) : Except Error Unit × Directory → Prop
  /-- The draft has been written as a whole. -/
  | written {dir' : Directory} (admitted : Admitted d.id) (written : Written d dir dir') :
      Saved d dir (.ok (), dir')
  /-- It has not, and only the temporary file may have changed. -/
  | broken (e : Error) {dir' : Directory}
      (frame : ∀ name, name ≠ temporaryName d.id → dir'.file? name = dir.file? name) :
      Saved d dir (.error e, dir')

/-- A draft whose id cannot name a file is not written, and no file changes. -/
theorem save_not_admitted (failures : Failures) (dir : Directory) (h : ¬ Admitted d.id) :
    ∃ e dir', save failures d dir = (.error e, dir') ∧ dir'.files = dir.files := by
  unfold save
  cases hid : isFileId d.id with
  | false => exact ⟨_, dir, rfl, rfl⟩
  | true =>
    have hname : Directory.admits (temporaryName d.id) = false :=
      Bool.eq_false_iff.2 fun hname => h ⟨hid, hname⟩
    refine ⟨.file .nameTooLong, dir.note (.write (temporaryName d.id)), ?_, rfl⟩
    simp [Directory.write, hname]

/-- A draft that has been written to the temporary file is given its own name, if this does not
fail. -/
theorem written_rename (hadmitted : Admitted d.id) (dir dir₁ : Directory)
    (htemporary : ∀ name, dir₁.file? name = if name = temporaryName d.id
      then some (.text d.toJson.prettyText) else dir.file? name) :
    ∃ dir', dir₁.rename (temporaryName d.id) (fileName d.id) none = (.ok (), dir') ∧
      Written d dir dir' := by
  have hsource : dir₁.file? (temporaryName d.id) = some (.text d.toJson.prettyText) := by
    rw [htemporary, if_pos rfl]
  have hnames : (!(Directory.admits (temporaryName d.id) && Directory.admits (fileName d.id)))
      = false := by
    rw [hadmitted.2, admits_fileName hadmitted.2]
    rfl
  unfold Directory.rename
  dsimp only
  rw [Directory.file?_note, hsource, hnames, if_neg Bool.false_ne_true]
  refine ⟨_, rfl, fun name => ?_⟩
  show (Directory.putFile _ _ _).lookup name = _
  rw [Directory.lookup_putFile, Directory.lookup_dropFile]
  by_cases hname : name = temporaryName d.id
  · rw [if_pos hname, if_pos hname]
  · rw [if_neg hname, if_neg hname]
    exact if_congr Iff.rfl rfl ((htemporary name).trans (if_neg hname))

/-- **All that writing a draft does**, whichever accesses fail. -/
theorem saved_save (failures : Failures) (d : Draft) (dir : Directory) :
    Saved d dir (save failures d dir) := by
  by_cases hadmitted : Admitted d.id
  case neg =>
    obtain ⟨e, dir', hsave, hfiles⟩ := save_not_admitted failures dir hadmitted
    rw [hsave]
    exact .broken e fun name _ => Directory.file?_congr hfiles name
  obtain ⟨hid, hname⟩ := hadmitted
  have hput (name : String) (hother : name ≠ temporaryName d.id) (file : File) :
      ((dir.note (.write (temporaryName d.id))).put (temporaryName d.id) file).file? name
        = dir.file? name := by
    rw [Directory.file?_put, if_neg hother, Directory.file?_note]
  rcases hwrite : failures.write with _ | ⟨cause, _ | landed⟩
  · -- the temporary file has been written, and is to be given the name of the draft's
    cases hrename : failures.rename with
    | none =>
      obtain ⟨dir', hrun, hwritten⟩ := written_rename ⟨hid, hname⟩ dir
        ((dir.note (.write (temporaryName d.id))).put (temporaryName d.id)
          (.text d.toJson.prettyText)) fun name => Directory.file?_put _ _ _ name
      have hsave : save failures d dir = (.ok (), dir') := by
        simp [save, Directory.write, hid, hname, hwrite, hrename, hrun, Except.mapError]
      rw [hsave]
      exact .written ⟨hid, hname⟩ hwritten
    | some cause =>
      have hsave : save failures d dir = (.error (.file cause),
          ((dir.note (.write (temporaryName d.id))).put (temporaryName d.id)
            (.text d.toJson.prettyText)).note (.rename (temporaryName d.id) (fileName d.id))) := by
        simp [save, Directory.write, Directory.rename, hid, hname, hwrite, hrename,
          admits_fileName hname, Except.mapError]
      rw [hsave]
      exact .broken _ fun name hother => hput name hother _
  · have hsave : save failures d dir
        = (.error (.file cause), dir.note (.write (temporaryName d.id))) := by
      simp [save, Directory.write, hid, hname, hwrite]
    rw [hsave]
    exact .broken _ fun _ _ => rfl
  · have hsave : save failures d dir = (.error (.file cause),
        (dir.note (.write (temporaryName d.id))).put (temporaryName d.id)
          (.ofBytes (d.toJson.prettyText.toUTF8.toList.take landed))) := by
      simp [save, Directory.write, hid, hname, hwrite]
    rw [hsave]
    exact .broken _ fun name hother => hput name hother _

/-- A draft that is written goes to its file as a whole. -/
theorem written_of_save (h : (save failures d dir).1 = .ok ()) :
    Admitted d.id ∧ Written d dir (save failures d dir).2 := by
  have hsaved := saved_save failures d dir
  rcases hrun : save failures d dir with ⟨answer, dir'⟩
  rw [hrun] at h hsaved
  obtain rfl : answer = .ok () := h
  cases hsaved with
  | written admitted written => exact ⟨admitted, written⟩

/-- A draft whose id can name a file is written, while no access fails. -/
theorem save_admitted (dir : Directory) (h : Admitted d.id) : (save .none d dir).1 = .ok () := by
  obtain ⟨hid, hname⟩ := h
  simp [save, Directory.write, Directory.rename, Failures.none, Directory.file?_put, hid, hname,
    admits_fileName hname, Except.mapError]

/-- A draft is written exactly if its id can name a file, while no access fails. -/
theorem save_ok_iff : (save .none d dir).1 = .ok () ↔ Admitted d.id :=
  ⟨fun h => (written_of_save h).1, save_admitted dir⟩

/-! ## What an operation answers -/

variable {other : Directory}

/-- Whether a draft can be written depends on its id and on what fails, not on the files. -/
theorem save_congr (failures : Failures) (d : Draft) (dir other : Directory) :
    (save failures d other).1 = (save failures d dir).1 := by
  have hsave (dir : Directory) : (save failures d dir).1 =
      if !isFileId d.id then .error (.store (.invalidId d.id))
      else if !Directory.admits (temporaryName d.id) then .error (.file .nameTooLong)
      else match failures.write, failures.rename with
        | some broken, _ => .error (.file broken.cause)
        | none, some cause => .error (.file cause)
        | none, none => .ok () := by
    cases hid : isFileId d.id with
    | false => simp [save, hid]
    | true =>
      cases hname : Directory.admits (temporaryName d.id) with
      | false => simp [save, Directory.write, hid, hname]
      | true =>
        rcases hwrite : failures.write with _ | ⟨cause, _ | landed⟩
        · cases hrename : failures.rename <;>
            simp [save, Directory.write, Directory.rename, Directory.file?_put, hid, hname, hwrite,
              hrename, admits_fileName hname, Except.mapError]
        all_goals simp [save, Directory.write, hid, hname, hwrite]
  rw [hsave, hsave]

/-- Whether a record can be begun depends on what is found under its id. -/
theorem persist_congr (h : (fetch failures d.id other).1 = (fetch failures d.id dir).1) :
    (persist failures d other).1 = (persist failures d dir).1 := by
  unfold persist
  rcases hother : fetch failures d.id other with ⟨found, other'⟩
  rcases hdir : fetch failures d.id dir with ⟨found', dir'⟩
  rw [hother, hdir] at h
  obtain rfl : found = found' := h
  rcases found with _ | _ | _
  · rfl
  · exact save_congr failures d dir' other'
  · rfl

/-- Whether a record can be changed depends on what is found under its id. -/
theorem modify_congr {change : Change} {now : Timestamp}
    (h : (fetch failures id other).1 = (fetch failures id dir).1) :
    (modify failures id change now other).1 = (modify failures id change now dir).1 := by
  unfold modify
  rcases hother : fetch failures id other with ⟨found, other'⟩
  rcases hdir : fetch failures id dir with ⟨found', dir'⟩
  rw [hother, hdir] at h
  obtain rfl : found = found' := h
  rcases found with _ | _ | d
  · rfl
  · rfl
  · dsimp only
    rcases change d now with _ | new
    · rfl
    · exact save_congr failures _ dir' other'

end FileDrafts

end PostingTerminal.Store
