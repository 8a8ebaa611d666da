import PostingTerminal.Proofs.Store.Requests

/-!
# A directory of drafts mirrors records in memory

A directory mirrors records in memory when the file of every id holds the text of the record
under that id, and there is no such file where there is no record.  Every request keeps the
two in step.

* `FileDrafts.Mirrors` — the relation, and `Mirrors.save`, that a write keeps it.
* `Drafts.answer_admitted` — a request about an id that can name a file has the same reply from
  both, and the directory mirrors the records again.
* `Drafts.answer_not_admitted` — a request about any other id changes no file, and nothing is
  found.
* `replies_files_eq_memory` — **a store of files answers as one in memory**, however often it
  is opened again.
* `Drafts.Mirrors.effect` — hence a request to either store has one of the effects that it can
  have in memory.
-/

namespace PostingTerminal.Store

namespace FileDrafts

variable {dir : Directory} {s s' : MemoryDrafts} {r : Draft} {id : DraftId}

/-! ## Mirroring -/

/-- The files of a directory are the records in memory. -/
structure Mirrors (dir : Directory) (s : MemoryDrafts) : Prop where
  kept {id : DraftId} {d : Draft} (h : s.fetch id = some d) : Keeps dir d
  absent {id : DraftId} (h : s.fetch id = none) : dir.file? (fileName id) = none

/-- An empty directory mirrors no records. -/
theorem mirrors_empty : Mirrors .empty .empty := ⟨fun h => (by cases h), fun _ => rfl⟩

/-- Only the files of a directory matter, not what has been done with them. -/
theorem Mirrors.of_files {dir' : Directory} (h : Mirrors dir s) (hfiles : dir'.files = dir.files) :
    Mirrors dir' s := by
  constructor
  · intro id d hd
    have hkeeps := h.kept hd
    exact ⟨hkeeps.admitted, (Directory.file?_congr hfiles _).trans hkeeps.file, hkeeps.fits⟩
  · intro id hnone
    exact (Directory.file?_congr hfiles _).trans (h.absent hnone)

/-- The records of a directory are under ids that name files. -/
theorem Mirrors.admitted (h : Mirrors dir s) (hr : s.fetch id = some r) : Admitted id := by
  have hkeeps := h.kept hr
  rw [← MemoryDrafts.id_of_fetch hr]
  exact hkeeps.admitted

/-- **What is read** under an id that names a file is the record in memory. -/
theorem Mirrors.fetch_named (h : Mirrors dir s) (hid : isFileId id = true)
    (hname : Directory.admits (fileName id) = true) :
    fetch .none id dir = (.ok (s.fetch id), dir.note (.read (fileName id))) := by
  cases hs : s.fetch id with
  | some d =>
    have hfetch := (h.kept hs).fetch_eq
    rw [MemoryDrafts.id_of_fetch hs] at hfetch
    exact hfetch
  | none =>
    apply Prod.ext
    · exact fetch_of_absent hid hname (h.absent hs)
    · rw [fetch_directory, if_pos hid]

/-- So it is under an id that a draft can be written under. -/
theorem Mirrors.fetch_eq (h : Mirrors dir s) (hadmitted : Admitted id) :
    fetch .none id dir = (.ok (s.fetch id), dir.note (.read (fileName id))) :=
  h.fetch_named hadmitted.1 (admits_fileName hadmitted.2)

/-- Under an id that cannot name a file there is no record, and none is read. -/
theorem Mirrors.fetch_not_admitted (h : Mirrors dir s) (hadmitted : ¬ Admitted id) :
    s.fetch id = none ∧ ∃ dir', dir'.files = dir.files ∧
      (fetch .none id dir = (.ok none, dir') ∨ ∃ e, fetch .none id dir = (.error e, dir')) := by
  have hnone : s.fetch id = none := by
    cases hs : s.fetch id with
    | none => rfl
    | some d => exact absurd (h.admitted hs) hadmitted
  refine ⟨hnone, (fetch .none id dir).2, files_fetch .none id dir, ?_⟩
  rcases hfetch : fetch .none id dir with ⟨e | _ | d, dir'⟩
  · exact .inr ⟨e, rfl⟩
  · exact .inl rfl
  · obtain ⟨text, hfile, -⟩ := text_of_fetch (congrArg Prod.fst hfetch)
    rw [h.absent hnone] at hfile
    cases hfile

/-- **A draft that is written is mirrored** by a record that is put in memory. -/
theorem Mirrors.save (h : Mirrors dir s) (hadmitted : Admitted r.id) (hfits : r.FitsWord)
    (hputs : s.Puts r s') :
    (save .none r dir).1 = .ok () ∧ Mirrors (save .none r dir).2 s' := by
  have hok : (FileDrafts.save .none r dir).1 = .ok () := save_admitted dir hadmitted
  obtain ⟨-, hwritten⟩ := written_of_save hok
  refine ⟨hok, ?_, ?_⟩
  · intro id d hd
    rw [hputs id] at hd
    by_cases hid : id = r.id
    · rw [if_pos hid] at hd
      cases hd
      exact keeps_save hok hfits
    · rw [if_neg hid] at hd
      have hkeeps := h.kept hd
      refine ⟨hkeeps.admitted, ?_, hkeeps.fits⟩
      rw [hwritten.file?_fileName, if_neg (by rw [MemoryDrafts.id_of_fetch hd]; exact hid)]
      exact hkeeps.file
  · intro id hnone
    rw [hputs id] at hnone
    by_cases hid : id = r.id
    · rw [if_pos hid] at hnone
      cases hnone
    · rw [if_neg hid] at hnone
      rw [hwritten.file?_fileName, if_neg hid]
      exact h.absent hnone

/-! ## Operations on both -/

/-- An operation on a directory follows one on records in memory: it is refused for the same
cause, or both are made, and the directory mirrors the records again. -/
def Follows (s : MemoryDrafts) (outcome : Except Error MemoryDrafts)
    (result : Except Error Unit × Directory) : Prop :=
  match outcome with
  | .error e => result.1 = .error e ∧ Mirrors result.2 s
  | .ok s' => result.1 = .ok () ∧ Mirrors result.2 s'

/-- Beginning a record follows. -/
theorem Mirrors.persist (h : Mirrors dir s) (hadmitted : Admitted r.id) (hfits : r.FitsWord) :
    Follows s (s.persist r) (persist .none r dir) := by
  have hnoted : Mirrors (dir.note (.read (fileName r.id))) s := h.of_files rfl
  unfold FileDrafts.persist
  rw [h.fetch_eq hadmitted]
  cases hs : s.fetch r.id with
  | some old =>
    have hmemory : s.persist r = .error (.store (.alreadyExists r.id)) := by
      rw [MemoryDrafts.persist, hs]
      rfl
    rw [hmemory]
    exact ⟨rfl, hnoted⟩
  | none =>
    have hmemory : s.persist r = .ok ⟨s.drafts ++ [r]⟩ := by
      rw [MemoryDrafts.persist, hs]
      rfl
    rw [hmemory]
    exact hnoted.save hadmitted hfits (MemoryDrafts.puts_persist hmemory).2

/-- Changing a record follows. -/
theorem Mirrors.modify {change : Change} {now : Timestamp} (h : Mirrors dir s)
    (hadmitted : Admitted id) (hfaithful : change.Faithful) (hnow : now ≤ Json.maxWord) :
    Follows s (s.modify id change now) (modify .none id change now dir) := by
  have hnoted : Mirrors (dir.note (.read (fileName id))) s := h.of_files rfl
  unfold FileDrafts.modify
  rw [h.fetch_eq hadmitted]
  cases hs : s.fetch id with
  | none =>
    have hmemory : s.modify id change now = .error (.store (.notFound id)) := by
      rw [MemoryDrafts.modify, hs]
    rw [hmemory]
    exact ⟨rfl, hnoted⟩
  | some old =>
    obtain rfl := MemoryDrafts.id_of_fetch hs
    cases hchange : change old now with
    | error e =>
      rw [MemoryDrafts.modify_error hs hchange]
      simp only [hchange]
      exact ⟨rfl, hnoted⟩
    | ok new =>
      have hthread := hfaithful.sameThread hchange
      obtain ⟨s', hmemory, -⟩ := MemoryDrafts.modify_ok hs hchange hthread.id
      obtain ⟨old', new', hold, hnew, hputs⟩ := MemoryDrafts.puts_modify hfaithful hmemory
      obtain rfl : old = old' := Option.some.inj (hs.symm.trans hold)
      obtain rfl : new = new' := Except.ok.inj (hchange.symm.trans hnew)
      have hid : Admitted new.id := by
        rw [hthread.id]
        exact hadmitted
      have hfits : new.FitsWord := by
        refine hthread.fitsWord (h.kept hs).fits ?_
        rw [hfaithful.stamped hchange]
        exact hnow
      rw [hmemory]
      -- what is written has been stamped once more, with the time that it carries already
      simp only [hchange, hfaithful.restamp hchange]
      exact hnoted.save hid hfits hputs

/-- A record is not begun under an id that cannot name a file. -/
theorem Mirrors.persist_not_admitted (h : Mirrors dir s) (hadmitted : ¬ Admitted r.id) :
    ∃ e dir', FileDrafts.persist .none r dir = (.error e, dir') ∧ dir'.files = dir.files := by
  obtain ⟨-, dir', hfiles, hfetch | ⟨e, hfetch⟩⟩ := h.fetch_not_admitted hadmitted
  · obtain ⟨e, dir'', hsave, hfiles'⟩ := save_not_admitted .none dir' hadmitted
    refine ⟨e, dir'', ?_, hfiles'.trans hfiles⟩
    rw [FileDrafts.persist, hfetch]
    exact hsave
  · refine ⟨e, dir', ?_, hfiles⟩
    rw [FileDrafts.persist, hfetch]

/-- No record is changed under an id that cannot name a file. -/
theorem Mirrors.modify_not_admitted {change : Change} {now : Timestamp} (h : Mirrors dir s)
    (hadmitted : ¬ Admitted id) :
    ∃ e dir', FileDrafts.modify .none id change now dir = (.error e, dir') ∧ dir'.files = dir.files := by
  obtain ⟨-, dir', hfiles, hfetch | ⟨e, hfetch⟩⟩ := h.fetch_not_admitted hadmitted
  · refine ⟨.store (.notFound id), dir', ?_, hfiles⟩
    rw [FileDrafts.modify, hfetch]
  · refine ⟨e, dir', ?_, hfiles⟩
    rw [FileDrafts.modify, hfetch]

end FileDrafts

/-! ## Requests to both -/

/-- The times that a request brings can be written: those of a draft, and that of the clock. -/
def Event.Fits : Event → Prop
  | .request r now => (∀ d, r.draft? = some d → d.FitsWord) ∧ now ≤ Json.maxWord
  | .reopen => True

namespace Drafts

variable {dir : Directory} {s : MemoryDrafts} {now : Timestamp} {r : Request}

/-- The outcomes of a request are in step: a directory and the memory give the same reply, and
the directory mirrors the records again. -/
def InStep (files memory : Reply × Drafts) : Prop :=
  files.1 = memory.1 ∧
    ∃ dir s, files.2 = .files dir ∧ memory.2 = .memory s ∧ FileDrafts.Mirrors dir s

/-- An operation on a directory that follows one in memory is in step with it. -/
theorem inStep_of_follows {step : Step Unit} {outcome : Except Error MemoryDrafts}
    {result : Except Error Unit × Directory} (hmemory : step (.memory s) = ofMemory s outcome)
    (hfiles : step (.files dir) = (result.1, .files result.2))
    (h : FileDrafts.Follows s outcome result) :
    InStep ((Drafts.files dir).write step) ((Drafts.memory s).write step) := by
  rw [write, write, hmemory, hfiles]
  cases outcome with
  | error e => exact ⟨congrArg Reply.ofWrite h.1, result.2, s, rfl, rfl, h.2⟩
  | ok s' => exact ⟨congrArg Reply.ofWrite h.1, result.2, s', rfl, rfl, h.2⟩

/-- A request for a change is in step. -/
theorem inStep_of_change {change : Change} (h : FileDrafts.Mirrors dir s)
    (hadmitted : Admitted r.target) (hnow : now ≤ Json.maxWord)
    (hasks : r.change? = some change) :
    InStep ((Drafts.files dir).answer now r) ((Drafts.memory s).answer now r) := by
  rw [answer_of_change? hasks, answer_of_change? hasks]
  exact inStep_of_follows (modify_memory s r.target change now) rfl
    (h.modify hadmitted (Request.faithful_of_change? hasks) hnow)

/-- **A request about an id that can name a file** is in step. -/
theorem answer_admitted (h : FileDrafts.Mirrors dir s) (hadmitted : Admitted r.target)
    (hfits : (Event.request r now).Fits) :
    InStep ((Drafts.files dir).answer now r) ((Drafts.memory s).answer now r) := by
  cases r with
  | persist d =>
    exact inStep_of_follows (persist_memory s d) rfl (h.persist hadmitted (hfits.1 d rfl))
  | update id status => exact inStep_of_change h hadmitted hfits.2 rfl
  | record id message => exact inStep_of_change h hadmitted hfits.2 rfl
  | finalize d => exact inStep_of_change h hadmitted hfits.2 rfl
  | fetch id =>
    have hfetch : fetch id (.files dir)
        = (.ok (s.fetch id), .files (dir.note (.read (fileName id)))) := by
      have hread : FileDrafts.fetch .none id dir = _ := h.fetch_eq hadmitted
      rw [Drafts.fetch, hread]
    rw [answer, answer, read, hfetch]
    exact ⟨rfl, _, s, rfl, rfl, h.of_files rfl⟩

/-- A request for a change of a record under any other id is refused. -/
theorem refused_of_change {change : Change} (h : FileDrafts.Mirrors dir s)
    (hadmitted : ¬ Admitted r.target) (hasks : r.change? = some change) :
    ∃ reply dir', (Drafts.files dir).answer now r = (reply, .files dir') ∧
      FileDrafts.Mirrors dir' s ∧ Effect now s r reply s := by
  have hrefused : ∃ e dir', FileDrafts.modify .none r.target change now dir = (.error e, dir') ∧
      dir'.files = dir.files := h.modify_not_admitted hadmitted
  obtain ⟨e, dir', hmodify, hfiles⟩ := hrefused
  rw [answer_of_change? hasks, write, modify, hmodify]
  exact ⟨_, dir', rfl, h.of_files hfiles, .refused r e⟩

/-- **A request about any other id** finds nothing or is refused, and changes no file. -/
theorem answer_not_admitted (h : FileDrafts.Mirrors dir s) (hadmitted : ¬ Admitted r.target) :
    ∃ reply dir', (Drafts.files dir).answer now r = (reply, .files dir') ∧
      FileDrafts.Mirrors dir' s ∧ Effect now s r reply s := by
  cases r with
  | persist d =>
    obtain ⟨e, dir', hpersist, hfiles⟩ := h.persist_not_admitted hadmitted
    rw [answer, write, persist, hpersist]
    exact ⟨_, dir', rfl, h.of_files hfiles, .refused _ e⟩
  | update id status => exact refused_of_change h hadmitted rfl
  | record id message => exact refused_of_change h hadmitted rfl
  | finalize d => exact refused_of_change h hadmitted rfl
  | fetch id =>
    have hread : s.fetch id = none ∧ ∃ dir', dir'.files = dir.files ∧
        (FileDrafts.fetch .none id dir = (.ok none, dir') ∨
          ∃ e, FileDrafts.fetch .none id dir = (.error e, dir')) := h.fetch_not_admitted hadmitted
    obtain ⟨hnone, dir', hfiles, hfetch | ⟨e, hfetch⟩⟩ := hread
    · have heffect : Effect now s (.fetch id) (.found (s.fetch id)) s := .read id
      rw [hnone] at heffect
      rw [answer, read, fetch, hfetch]
      exact ⟨_, dir', rfl, h.of_files hfiles, heffect⟩
    · rw [answer, read, fetch, hfetch]
      exact ⟨_, dir', rfl, h.of_files hfiles, .refused _ e⟩

end Drafts

/-! ## Either store -/

namespace Drafts

variable {store : Drafts} {s : MemoryDrafts} {now : Timestamp} {r : Request}

/-- A store holds the records in memory: it is these records, or its files are. -/
def Mirrors : Drafts → MemoryDrafts → Prop
  | .memory records, s => records = s
  | .files dir, s => FileDrafts.Mirrors dir s

/-- **A request to either store** has one of the effects that it can have in memory. -/
theorem Mirrors.effect (h : store.Mirrors s) (hfits : (Event.request r now).Fits) :
    ∃ reply s', (store.answer now r).1 = reply ∧ (store.answer now r).2.Mirrors s' ∧
      Effect now s r reply s' := by
  cases store with
  | memory records =>
    obtain rfl : records = s := h
    obtain ⟨reply, s', hanswer, heffect⟩ := effect_memory records now r
    rw [hanswer]
    exact ⟨reply, s', rfl, rfl, heffect⟩
  | files dir =>
    by_cases hadmitted : Admitted r.target
    · -- the reply is that of the memory, which has one of the effects
      obtain ⟨hreply, dir', s', hdir, hs, hmirrors⟩ := answer_admitted h hadmitted hfits
      obtain ⟨reply, s'', hanswer, heffect⟩ := effect_memory s now r
      rw [hanswer] at hreply hs
      cases hs
      rw [hreply, hdir]
      exact ⟨reply, s', rfl, hmirrors, heffect⟩
    · -- the memory might grant the request; the files refuse it or find nothing
      obtain ⟨reply, dir', hanswer, hmirrors, heffect⟩ :=
        answer_not_admitted h hadmitted
      rw [hanswer]
      exact ⟨reply, s, rfl, hmirrors, heffect⟩

/-- Opening a store again changes no record. -/
theorem Mirrors.reopen (h : store.Mirrors s) : store.reopen.Mirrors s := by
  cases store with
  | memory records => exact h
  | files dir => exact FileDrafts.Mirrors.of_files h rfl

/-- What a store gives back is the record in memory. -/
theorem Mirrors.fetch_eq_some_iff (h : store.Mirrors s) {id : DraftId} {d : Draft} :
    (fetch id store).1 = .ok (some d) ↔ s.fetch id = some d := by
  cases store with
  | memory records =>
    obtain rfl : records = s := h
    show Except.ok (records.fetch id) = .ok (some d) ↔ _
    rw [Except.ok.injEq]
  | files dir =>
    have hmirrors : FileDrafts.Mirrors dir s := h
    by_cases hadmitted : Admitted id
    · rw [fetch, hmirrors.fetch_eq hadmitted, Except.ok.injEq]
    · obtain ⟨hnone, dir', -, hfetch | ⟨e, hfetch⟩⟩ := hmirrors.fetch_not_admitted hadmitted
      · rw [fetch, hfetch, hnone, Except.ok.injEq]
      · rw [fetch, hfetch, hnone]
        exact ⟨fun hd => (by cases hd), fun hd => (by cases hd)⟩

end Drafts

/-! ## The two stores give the same answers -/

/-- An id as drafts are given: it is spelled with letters, digits, `_` and `-`, and short enough
for the name of a temporary file. -/
structure PlainId (id : DraftId) : Prop where
  nonempty : id.text ≠ ""
  spelling : ∀ c ∈ id.text.toList, c.isAlphanum = true ∨ c = '_' ∨ c = '-'
  short : id.text.utf8ByteSize ≤ 246

/-- A plain id can name a file. -/
theorem PlainId.admitted {id : DraftId} (h : PlainId id) : Admitted id := by
  constructor
  · rw [isFileId, Bool.and_eq_true]
    refine ⟨by simpa using h.nonempty, List.all_eq_true.2 fun c hc => ?_⟩
    rcases h.spelling c hc with halphanum | rfl | rfl
    · simp [isNameChar, halphanum]
    · rfl
    · rfl
  · have hsize : (temporaryName id).utf8ByteSize = id.text.utf8ByteSize + 9 := by
      rw [temporaryName, String.utf8ByteSize_append]
      rfl
    have hshort := h.short
    rw [Directory.admits, hsize, decide_eq_true_eq]
    omega

namespace Drafts

/-- A directory that mirrors records in memory answers as they do, also if it is opened again
between requests. -/
theorem replies_of_mirrors {dir : Directory} {s : MemoryDrafts} (h : FileDrafts.Mirrors dir s)
    (events : List Event)
    (hplain : ∀ r now, .request r now ∈ events → PlainId r.target)
    (hfits : ∀ e ∈ events, e.Fits) :
    (Drafts.files dir).replies events
      = (Drafts.memory s).replies (events.filter Event.isRequest) := by
  induction events generalizing dir s with
  | nil => rfl
  | cons e events ih =>
    have hplain' (r : Request) (now : Timestamp) (hmem : .request r now ∈ events) :
        PlainId r.target := hplain r now (List.mem_cons_of_mem e hmem)
    have hfits' (e' : Event) (hmem : e' ∈ events) : e'.Fits :=
      hfits e' (List.mem_cons_of_mem e hmem)
    cases e with
    | reopen => exact ih (h.of_files rfl) hplain' hfits'
    | request r now =>
      obtain ⟨hreply, dir', s', hdir, hs, hmirrors⟩ := answer_admitted h
        (hplain r now List.mem_cons_self).admitted (hfits _ List.mem_cons_self)
      rw [List.filter_cons_of_pos rfl, replies, replies, hreply, hdir, hs,
        ih hmirrors hplain' hfits']

end Drafts

/-- **A store of files answers as one in memory.**  Both begin without records and have the same
requests at the same times, about ids that are plain and with times that can be written.  Then
every reply is the same, with its record or its error, and opening the files again between two
requests changes none. -/
theorem replies_files_eq_memory (events : List Event)
    (hplain : ∀ r now, .request r now ∈ events → PlainId r.target)
    (hfits : ∀ e ∈ events, e.Fits) :
    (Drafts.files .empty).replies events
      = (Drafts.memory .empty).replies (events.filter Event.isRequest) :=
  Drafts.replies_of_mirrors FileDrafts.mirrors_empty events hplain hfits

/-- A draft whose text has to be escaped. -/
def quotedDraft : Draft := .new ⟨"draft_1"⟩ [.ofText "say \"é\"\n"] (some "\\") 5

/-- It is given back by files that have been opened again, as it has been marked since. -/
theorem replies_files_eq_memory_reopened :
    (Drafts.files .empty).replies [.request (.persist quotedDraft) 5,
        .request (.update ⟨"draft_1"⟩ .publishing) 6, .reopen,
        .request (.persist quotedDraft) 7, .request (.fetch ⟨"draft_1"⟩) 7]
      = [.done, .done, .refused (.store (.alreadyExists ⟨"draft_1"⟩)),
        .found (some { quotedDraft with status := .publishing, updatedAt := 6 })] := by
  have hplain : PlainId ⟨"draft_1"⟩ := ⟨by decide, by simp, by decide⟩
  have hfits (now : Timestamp) (hnow : now ≤ Json.maxWord) :
      (Event.request (.persist quotedDraft) now).Fits :=
    ⟨fun d hd => (by cases hd; exact ⟨by decide, by decide⟩), hnow⟩
  refine (replies_files_eq_memory _ ?_ ?_).trans rfl
  · intro r now hr
    simp only [List.mem_cons, List.not_mem_nil, or_false, Event.request.injEq, reduceCtorEq,
      false_or] at hr
    rcases hr with ⟨rfl, -⟩ | ⟨rfl, -⟩ | ⟨rfl, -⟩ | ⟨rfl, -⟩ <;> exact hplain
  · intro e he
    simp only [List.mem_cons, List.not_mem_nil, or_false] at he
    rcases he with rfl | rfl | rfl | rfl | rfl
    · exact hfits 5 (by decide)
    · exact ⟨fun d hd => (by cases hd), by decide⟩
    · trivial
    · exact hfits 7 (by decide)
    · exact ⟨fun d hd => (by cases hd), by decide⟩

end PostingTerminal.Store
