import PostingTerminal.Proofs.Store.InPlace

/-!
# Drafts stay in their directory

An id comes to a store of files from a caller, or from a file that somebody else has written.
Either way it is put into the name of a file only if it is spelled with ASCII letters, digits,
`_` and `-`.

* `DraftName` — the names that such ids make, for a draft and for its temporary file.
* `withExtension` — the temporary name is the other one with its extension replaced
  (`temporaryName_eq_withExtension`).
* `Directory.Touches` — the accesses that lie between two states of a directory, and that all
  other files are as they were; `Directory.Confined` — all of them to draft names.
* `FileDrafts.confined_save`, … — **every operation is confined**, whatever the files hold and
  whichever accesses fail.
* `Drafts.stays_in_directory` — so is every request, and hence every run of a store.
-/

namespace PostingTerminal.Store

/-! ## Names -/

/-- Spelled with ASCII letters, digits, `_` and `-`, and not empty. -/
def PlainName (x : String) : Prop := x ≠ "" ∧ ∀ c ∈ x.toList, c.isAlphanum ∨ c = '_' ∨ c = '-'

/-- **The name of a draft's file or of its temporary file.** -/
def DraftName (name : String) : Prop :=
  ∃ x, PlainName x ∧ (name = x ++ ".json" ∨ name = x ++ ".json.tmp")

/-- The ids that can name a file are spelled so. -/
theorem isFileId_iff {id : DraftId} : isFileId id = true ↔ PlainName id.text := by
  simp [isFileId, isNameChar, PlainName, or_assoc]

/-- The name of a draft's file is a draft name. -/
theorem draftName_fileName {id : DraftId} (h : isFileId id = true) : DraftName (fileName id) :=
  ⟨id.text, isFileId_iff.1 h, .inl rfl⟩

/-- So is the name of its temporary file. -/
theorem draftName_temporaryName {id : DraftId} (h : isFileId id = true) :
    DraftName (temporaryName id) :=
  ⟨id.text, isFileId_iff.1 h, .inr rfl⟩

/-- A name with what stands behind its last dot replaced.  In front of that dot there must be
something, otherwise the extension is added. -/
def withExtension (name extension : String) : String :=
  let before := (name.toList.reverse.dropWhile (· ≠ '.')).tail.reverse
  (if before.isEmpty then name else String.ofList before) ++ "." ++ extension

/-- **The temporary name is the name with its extension replaced.** -/
theorem temporaryName_eq_withExtension {id : DraftId} (h : PlainName id.text) :
    temporaryName id = withExtension (fileName id) "json.tmp" := by
  have hbefore : ((fileName id).toList.reverse.dropWhile (· ≠ '.')).tail.reverse
      = id.text.toList := by
    rw [fileName, String.toList_append, List.reverse_append]
    exact List.reverse_reverse id.text.toList
  have hne : id.text.toList.isEmpty = false := by simpa using h.1
  unfold withExtension
  dsimp only
  rw [hbefore, hne, if_neg Bool.false_ne_true, String.ofList_toList, String.append_assoc]
  rfl

/-! ## Accesses -/

namespace Directory

variable {dir dir' dir'' : Directory} {accesses accesses' : List Access} {name : String}

/-- **What lies between two states of a directory** is the accesses that have been noted, and
the files that none of them touches are as they were. -/
structure Touches (dir dir' : Directory) (accesses : List Access) : Prop where
  noted : dir'.accesses = dir.accesses ++ accesses
  frame (name : String) (h : ∀ access ∈ accesses, name ∉ access.names) :
    dir'.file? name = dir.file? name

/-- Where nothing is noted nothing is touched. -/
theorem Touches.refl (dir : Directory) : dir.Touches dir [] :=
  ⟨(List.append_nil _).symm, fun _ _ => rfl⟩

/-- Of two steps the accesses are those of the first and then those of the second. -/
theorem Touches.trans (h : dir.Touches dir' accesses) (h' : dir'.Touches dir'' accesses') :
    dir.Touches dir'' (accesses ++ accesses') := by
  constructor
  · rw [h'.noted, h.noted, List.append_assoc]
  · intro name huntouched
    rw [h'.frame name fun access hmem => huntouched access (List.mem_append_right _ hmem),
      h.frame name fun access hmem => huntouched access (List.mem_append_left _ hmem)]

/-- Noting an access changes no file. -/
theorem touches_note (dir : Directory) (access : Access) :
    dir.Touches (dir.note access) [access] := ⟨rfl, fun _ _ => rfl⟩

/-- Putting a file under a name touches that name, once the access has been noted. -/
theorem touches_put (dir : Directory) (name : String) (file : File) :
    dir.Touches ((dir.note (.write name)).put name file) [.write name] := by
  refine ⟨rfl, fun other huntouched => ?_⟩
  have hother : other ≠ name := by simpa [Access.names] using huntouched
  rw [file?_put, if_neg hother, file?_note]

/-- Writing a file touches that file, also where it fails on the way. -/
theorem touches_write (dir : Directory) (name content : String) (failure : Option BrokenWrite) :
    dir.Touches (dir.write name content failure).2 [.write name] := by
  unfold write
  dsimp only
  split
  · exact touches_note dir _
  · rcases failure with _ | ⟨cause, _ | landed⟩
    · exact touches_put dir name _
    · exact touches_note dir _
    · exact touches_put dir name _

/-- Renaming a file touches it under both names. -/
theorem touches_rename (dir : Directory) (source target : String) (failure : Option FileError) :
    dir.Touches (dir.rename source target failure).2 [.rename source target] := by
  unfold rename
  dsimp only
  split
  · exact touches_note dir _
  split
  · exact touches_note dir _
  · exact touches_note dir _
  · refine ⟨rfl, fun other huntouched => ?_⟩
    obtain ⟨hsource, htarget⟩ : other ≠ source ∧ other ≠ target := by
      simpa [Access.names] using huntouched
    show (putFile _ _ _).lookup other = dir.files.lookup other
    rw [lookup_putFile, if_neg htarget, lookup_dropFile, if_neg hsource]
    rfl

/-- **Only draft names are touched** between two states of a directory. -/
def Confined (dir dir' : Directory) : Prop :=
  ∃ accesses, dir.Touches dir' accesses ∧
    ∀ access ∈ accesses, ∀ name ∈ access.names, DraftName name

/-- Where nothing is done only draft names are touched. -/
theorem Confined.refl (dir : Directory) : dir.Confined dir := ⟨[], .refl dir, nofun⟩

/-- Two steps that only touch draft names can be made one after the other. -/
theorem Confined.trans (h : dir.Confined dir') (h' : dir'.Confined dir'') :
    dir.Confined dir'' := by
  obtain ⟨accesses, htouches, hnames⟩ := h
  obtain ⟨accesses', htouches', hnames'⟩ := h'
  refine ⟨accesses ++ accesses', htouches.trans htouches', fun access hmem => ?_⟩
  rcases List.mem_append.1 hmem with hmem | hmem
  · exact hnames access hmem
  · exact hnames' access hmem

/-- An access to draft names is confined. -/
theorem Touches.confined {access : Access} (h : dir.Touches dir' [access])
    (hnames : ∀ name ∈ access.names, DraftName name) : dir.Confined dir' :=
  ⟨[access], h, by simpa using hnames⟩

/-- Between states that only draft names have been touched in, every other file is kept. -/
theorem Confined.file? (h : dir.Confined dir') (hname : ¬ DraftName name) :
    dir'.file? name = dir.file? name := by
  obtain ⟨accesses, htouches, hnames⟩ := h
  exact htouches.frame name fun access hmem hin => hname (hnames access hmem name hin)

end Directory

/-! ## Operations -/

namespace FileDrafts

open Directory (Confined)

variable {failures : Failures} {dir other : Directory} {now : Timestamp} {r : Request}

/-- Reading a record is confined. -/
theorem confined_fetch (failures : Failures) (id : DraftId) (dir : Directory) :
    dir.Confined (fetch failures id dir).2 := by
  rw [fetch_directory]
  cases hid : isFileId id with
  | false => exact .refl dir
  | true =>
    exact (Directory.touches_note dir _).confined
      (List.forall_mem_singleton.2 (draftName_fileName hid))

/-- **Writing a record is confined**, whatever id the record carries. -/
theorem confined_save (failures : Failures) (d : Draft) (dir : Directory) :
    dir.Confined (save failures d dir).2 := by
  unfold save
  cases hid : isFileId d.id with
  | false => exact .refl dir
  | true =>
    have htemporary := draftName_temporaryName hid
    have hwrite : dir.Confined
        (dir.write (temporaryName d.id) d.toJson.prettyText failures.write).2 :=
      (Directory.touches_write dir _ _ _).confined (List.forall_mem_singleton.2 htemporary)
    rcases hdir : dir.write (temporaryName d.id) d.toJson.prettyText failures.write
      with ⟨_ | _, dir'⟩
    all_goals rw [hdir] at hwrite
    · exact hwrite
    · have hrename : dir'.Confined
          (dir'.rename (temporaryName d.id) (fileName d.id) failures.rename).2 := by
        apply (Directory.touches_rename dir' _ _ _).confined
        intro name hname
        obtain rfl | rfl : name = temporaryName d.id ∨ name = fileName d.id := by
          simpa [Access.names] using hname
        · exact htemporary
        · exact draftName_fileName hid
      exact hwrite.trans hrename

/-- Beginning a record is confined, once it has been looked for. -/
theorem confined_persist (failures : Failures) (d : Draft) (dir : Directory) :
    (fetch failures d.id dir).2.Confined (persist failures d dir).2 := by
  unfold persist
  rcases fetch failures d.id dir with ⟨_ | _ | _, dir'⟩
  · exact .refl dir'
  · exact confined_save failures d dir'
  · exact .refl dir'

/-- **Changing a record is confined**, whatever the file holds that it has been read from. -/
theorem confined_modify (failures : Failures) (id : DraftId) (change : Change) (now : Timestamp)
    (dir : Directory) :
    (fetch failures id dir).2.Confined (modify failures id change now dir).2 := by
  unfold modify
  rcases fetch failures id dir with ⟨_ | _ | d, dir'⟩
  · exact .refl dir'
  · exact .refl dir'
  · dsimp only
    rcases change d now with _ | new
    · exact .refl dir'
    · exact confined_save failures _ dir'

/-! ## Requests -/

/-- **A request is confined**, once its record has been looked for. -/
theorem confined_answer (failures : Failures) (dir : Directory) (now : Timestamp) (r : Request) :
    (fetch failures r.target dir).2.Confined (answer failures dir now r).2 := by
  cases r with
  | persist d => exact confined_persist failures d dir
  | update id status => exact confined_modify failures id _ now dir
  | record id message => exact confined_modify failures id _ now dir
  | finalize d => exact confined_modify failures d.id _ now dir
  | fetch id => exact .refl _

/-- A request about an id that cannot name a file is refused, and nothing is touched. -/
theorem answer_invalid (h : isFileId r.target = false) :
    answer failures dir now r = (.refused (.store (.invalidId r.target)), dir) := by
  have hfetch : fetch failures r.target dir = (.error (.store (.invalidId r.target)), dir) := by
    unfold fetch
    rw [h]
    rfl
  have hmodify (change : Change) : modify failures r.target change now dir
      = (.error (.store (.invalidId r.target)), dir) := by
    unfold modify
    rw [hfetch]
  cases r with
  | persist d =>
    have hpersist : persist failures d dir = (.error (.store (.invalidId d.id)), dir) := by
      unfold persist
      rw [show fetch failures d.id dir = _ from hfetch]
      rfl
    rw [answer, hpersist]
    rfl
  | fetch id =>
    rw [answer, show fetch failures id dir = _ from hfetch]
    rfl
  | update id status | record id message | finalize d =>
    rw [answer_of_change? rfl, hmodify]
    rfl

/-- The reply to a request depends on what is found under the id that it is about. -/
theorem answer_congr (h : (fetch failures r.target other).1 = (fetch failures r.target dir).1) :
    (answer failures other now r).1 = (answer failures dir now r).1 := by
  cases r with
  | persist d => exact congrArg Reply.ofWrite (persist_congr h)
  | fetch id => exact congrArg Reply.ofRead h
  | update id status => exact congrArg Reply.ofWrite (modify_congr h)
  | record id message => exact congrArg Reply.ofWrite (modify_congr h)
  | finalize d => exact congrArg Reply.ofWrite (modify_congr h)

/-- A request only touches draft names. -/
theorem file?_answer {name : String} (hname : ¬ DraftName name) :
    (answer failures dir now r).2.file? name = dir.file? name :=
  ((confined_fetch failures r.target dir).trans (confined_answer failures dir now r)).file? hname

/-- **Requests only touch draft names**, whichever accesses fail. -/
theorem file?_after {name : String} (hname : ¬ DraftName name) (tries : List Try) :
    (after dir tries).file? name = dir.file? name := by
  induction tries generalizing dir with
  | nil => rfl
  | cons t tries ih => exact ih.trans (file?_answer hname)

end FileDrafts

namespace Drafts

/-- Events in a store of files only touch draft names. -/
theorem file?_after {dir : Directory} {name : String} (hname : ¬ DraftName name)
    (events : List Event) :
    ∃ dir', (Drafts.files dir).after events = .files dir' ∧ dir'.file? name = dir.file? name := by
  induction events generalizing dir with
  | nil => exact ⟨dir, rfl, rfl⟩
  | cons e events ih =>
    -- whichever the event is, the store after it holds the same under the name
    have hnext : ∃ dir₁, (Drafts.files dir).next e = .files dir₁ ∧
        dir₁.file? name = dir.file? name := by
      cases e with
      | reopen => exact ⟨_, rfl, rfl⟩
      | request r now =>
        refine ⟨(FileDrafts.answer .none dir now r).2, ?_, FileDrafts.file?_answer hname⟩
        rw [Drafts.next, answer_files_eq]
    obtain ⟨dir₁, hstore, hfile⟩ := hnext
    obtain ⟨dir', hafter, hfile'⟩ := @ih dir₁
    exact ⟨dir', by rw [after_cons, hstore, hafter], hfile'.trans hfile⟩

/-- **Drafts stay in their directory.**  Whatever the files of a directory hold and whichever
accesses fail, every access of a request is to names of drafts or of their temporary files, and
what is answered depends on files of such names only; all other files are kept, over any run too.
A request about an id that can name a file begins at the file of that id, one about any other id is
refused before anything is touched.  A store of files answers so while no access fails.  Different
ids have different files, no draft's file is a temporary one, and the temporary name is the other
one with its extension replaced. -/
theorem stays_in_directory (dir : Directory) (now : Timestamp) (r : Request) :
    (∀ failures, ∃ dir' accesses, (FileDrafts.answer failures dir now r).2 = dir' ∧
      dir'.accesses = dir.accesses ++ accesses ∧
      (∀ access ∈ accesses, ∀ name ∈ access.names, DraftName name) ∧
      (∀ name, (∀ access ∈ accesses, name ∉ access.names) → dir'.file? name = dir.file? name) ∧
      (PlainName r.target.text → accesses.head? = some (.read (fileName r.target)))) ∧
    (∀ failures (other : Directory),
      (∀ name, DraftName name → other.file? name = dir.file? name) →
      (FileDrafts.answer failures other now r).1 = (FileDrafts.answer failures dir now r).1) ∧
    (∀ tries name, ¬ DraftName name → (FileDrafts.after dir tries).file? name = dir.file? name) ∧
    (∀ events name, ¬ DraftName name → ∃ dir', (Drafts.files dir).after events = .files dir' ∧
      dir'.file? name = dir.file? name) ∧
    (¬ PlainName r.target.text → ∀ failures, FileDrafts.answer failures dir now r
      = (.refused (.store (.invalidId r.target)), dir)) ∧
    (Drafts.files dir).answer now r
      = ((FileDrafts.answer .none dir now r).1, .files (FileDrafts.answer .none dir now r).2) ∧
    (∀ id id', fileName id = fileName id' → id = id') ∧
    (∀ id id', fileName id ≠ temporaryName id') ∧
    ∀ id, PlainName id.text → temporaryName id = withExtension (fileName id) "json.tmp" := by
  refine ⟨fun failures => ?_, fun failures other hagree => ?_,
    fun tries name hname => FileDrafts.file?_after hname tries,
    fun events name hname => file?_after hname events, fun hplain failures => ?_,
    answer_files_eq dir now r, fun _ _ => fileName_injective, fileName_ne_temporaryName,
    fun _ => temporaryName_eq_withExtension⟩
  · obtain ⟨accesses, htouches, hnames⟩ := FileDrafts.confined_answer failures dir now r
    rw [FileDrafts.fetch_directory] at htouches
    cases hid : isFileId r.target with
    | true =>
      rw [if_pos hid] at htouches
      have hall := (dir.touches_note (.read (fileName r.target))).trans htouches
      refine ⟨_, _, rfl, hall.noted, ?_, hall.frame, fun _ => rfl⟩
      intro access hmem name hname
      rcases List.mem_cons.1 hmem with rfl | hmem
      · obtain rfl := List.mem_singleton.1 hname
        exact draftName_fileName hid
      · exact hnames access hmem name hname
    | false =>
      rw [hid, if_neg Bool.false_ne_true] at htouches
      refine ⟨_, accesses, rfl, htouches.noted, hnames, htouches.frame, fun hplain => ?_⟩
      rw [isFileId_iff.2 hplain] at hid
      cases hid
  · apply FileDrafts.answer_congr
    cases hid : isFileId r.target with
    | true => exact FileDrafts.fetch_congr (hagree _ (draftName_fileName hid))
    | false => simp [FileDrafts.fetch, hid]
  · rw [← isFileId_iff, Bool.not_eq_true] at hplain
    exact FileDrafts.answer_invalid hplain

end Drafts

end PostingTerminal.Store
