import PostingTerminal.Proofs.Store.InPlace

/-!
# What a request does to either store

A request to a store is granted and puts one draft, or it leaves what the store holds.  The
statements are the same for records in memory and records in files, since both are seen through
the places of a store.

* `Place`, `Drafts.holding` — the places of a store and what it holds there; each id has places
  of its own (`Place.BelongsTo.eq`).
* `Drafts.Grants` — a request is granted, and the draft that it makes.
* `Drafts.Puts` — a draft has been put, and every place of another id is as it was.
* `answer_cases` — **all that a request does to either store.**
-/

namespace PostingTerminal.Store

/-! ## Places -/

/-- A place in a store: the record under an id, or the file with a name. -/
inductive Place where
  | record (id : DraftId)
  | file (name : String)
  deriving DecidableEq

/-- A place belongs to an id: it is the record under it, or one of its two files. -/
def Place.BelongsTo (p : Place) (id : DraftId) : Prop :=
  p = .record id ∨ p = .file (fileName id) ∨ p = .file (temporaryName id)

instance (p : Place) (id : DraftId) : Decidable (p.BelongsTo id) :=
  inferInstanceAs (Decidable (_ ∨ _ ∨ _))

/-- **A place belongs to one id at most.** -/
theorem Place.BelongsTo.eq {p : Place} {id id' : DraftId} (h : p.BelongsTo id)
    (h' : p.BelongsTo id') : id = id' := by
  unfold BelongsTo at h h'
  cases p with
  | record other =>
    simp only [record.injEq, reduceCtorEq, or_false] at h h'
    exact h.symm.trans h'
  | file name =>
    simp only [file.injEq, reduceCtorEq, false_or] at h h'
    obtain rfl | rfl := h
    · obtain hfile | htemporary := h'
      · exact fileName_injective hfile
      · exact absurd htemporary (fileName_ne_temporaryName id id')
    · obtain hfile | htemporary := h'
      · exact absurd hfile.symm (fileName_ne_temporaryName id' id)
      · exact temporaryName_injective htemporary

/-- What a store holds at a place. -/
inductive Holding where
  | record (d : Option Draft)
  | file (f : Option File)
  /-- The store has no such places. -/
  | nothing

namespace Drafts

/-- What a store holds at a place. -/
def holding : Drafts → Place → Holding
  | .memory s, .record id => .record (s.fetch id)
  | .files dir, .file name => .file (dir.file? name)
  | .memory _, .file _ => .nothing
  | .files _, .record _ => .nothing

/-- What a store holds at a place of a draft that has been put.  The temporary file is gone. -/
def written (d : Draft) : Drafts → Place → Holding
  | .memory _, .record _ => .record (some d)
  | .files _, .file name =>
    .file (if name = fileName d.id then some (.text d.toJson.prettyText) else none)
  | .memory _, .file _ => .nothing
  | .files _, .record _ => .nothing

/-- **A draft has been put** under the id that it carries, and all else is as it was. -/
def Puts (store : Drafts) (d : Draft) (store' : Drafts) : Prop :=
  ∀ p : Place, store'.holding p = if p.BelongsTo d.id then store.written d p else store.holding p

/-- A draft can be put: in memory always, as a file if its id can name one. -/
def Accepts : Drafts → DraftId → Prop
  | .memory _, _ => True
  | .files _, id => Admitted id

/-- **A request is granted**: it makes a draft of the one that is read under its id, and that draft
can be put. -/
structure Grants (store : Drafts) (now : Timestamp) (r : Request) (new : Draft) : Prop where
  makes : ∃ previous, (fetch r.target store).1 = .ok previous ∧ r.Makes now previous new
  accepted : store.Accepts new.id

variable {store store' : Drafts} {now : Timestamp} {r : Request} {d new : Draft}

/-- Stores with the same contents hold the same at every place. -/
theorem holding_of_contents (h : store'.contents = store.contents) (p : Place) :
    store'.holding p = store.holding p := by
  have hcontents (store : Drafts) : store.contents.holding p = store.holding p := by
    cases store <;> cases p <;> rfl
  rw [← hcontents, h, hcontents]

/-! ## In memory -/

section memory

variable {s s' : MemoryDrafts}

/-- A record that is put in memory has been put. -/
theorem puts_memory (h : s.Puts d s') : (Drafts.memory s).Puts d (.memory s') := by
  rintro (id | name)
  · have howner : (Place.record id).BelongsTo d.id ↔ id = d.id := by simp [Place.BelongsTo]
    by_cases hid : id = d.id
    · rw [if_pos (howner.2 hid), holding, written, h id, if_pos hid]
    · rw [if_neg (mt howner.1 hid), holding, holding, h id, if_neg hid]
  · simp only [holding, written, ite_self]

/-- In memory a request that makes a draft is granted. -/
theorem answer_memory_of_makes (h : r.Makes now (s.fetch r.target) new) :
    ((Drafts.memory s).answer now r).1 = .done := by
  generalize hfound : s.fetch r.target = found at h
  cases h with
  | begun =>
    have hnone : s.fetch new.id = none := hfound
    rw [answer, write, persist_memory, MemoryDrafts.persist, hnone]
    rfl
  | changed asks allowed =>
    rw [answer_of_change? asks, write, modify_memory, MemoryDrafts.modify, hfound]
    simp only [allowed]
    rfl

/-- **All that a request does to records in memory.** -/
theorem answer_memory (s : MemoryDrafts) (now : Timestamp) (r : Request) :
    (∃ new, (Drafts.memory s).Grants now r new ∧ ((Drafts.memory s).answer now r).1 = .done ∧
        (Drafts.memory s).Puts new ((Drafts.memory s).answer now r).2) ∨
      (∀ new, ¬ (Drafts.memory s).Grants now r new) ∧
        ((Drafts.memory s).answer now r).1 ≠ .done ∧
        ((Drafts.memory s).answer now r).2.contents = (Drafts.memory s).contents := by
  have hmakes (new : Draft) (h : (Drafts.memory s).Grants now r new) :
      ((Drafts.memory s).answer now r).1 = .done := by
    obtain ⟨previous, hfound, hmakes⟩ := h.makes
    rw [← Except.ok.inj hfound] at hmakes
    exact answer_memory_of_makes hmakes
  obtain ⟨reply, s', hanswer, heffect⟩ := effect_memory s now r
  rw [hanswer] at hmakes ⊢
  cases heffect with
  | read id => exact .inr ⟨fun new h => (by cases hmakes new h), by rintro ⟨⟩, rfl⟩
  | refused r cause => exact .inr ⟨fun new h => (by cases hmakes new h), by rintro ⟨⟩, rfl⟩
  | begun fresh puts =>
    refine .inl ⟨_, ⟨⟨none, congrArg Except.ok fresh, .begun _⟩, trivial⟩, rfl, puts_memory puts⟩
  | changed asks found allowed puts =>
    exact .inl ⟨_, ⟨⟨_, congrArg Except.ok found, .changed asks allowed⟩, trivial⟩, rfl,
      puts_memory puts⟩

end memory

/-! ## As files -/

section files

variable {dir dir' : Directory}

/-- A draft that is written has been put. -/
theorem puts_save (hadmitted : Admitted d.id) (hfiles : dir'.files = dir.files) :
    (Drafts.files dir).Puts d (.files (FileDrafts.save .none d dir').2) := by
  obtain ⟨-, hwritten⟩ := FileDrafts.written_of_save (FileDrafts.save_admitted dir' hadmitted)
  rintro (id | name)
  · simp only [holding, written, ite_self]
  · have howner : (Place.file name).BelongsTo d.id ↔
        name = fileName d.id ∨ name = temporaryName d.id := by simp [Place.BelongsTo]
    simp only [holding, written, howner]
    rw [hwritten name]
    by_cases hfile : name = fileName d.id
    · rw [if_pos hfile, if_pos (.inl hfile), if_pos hfile]
    by_cases htemporary : name = temporaryName d.id
    · rw [if_neg hfile, if_pos htemporary, if_pos (.inr htemporary), if_neg hfile]
    · rw [if_neg hfile, if_neg htemporary, if_neg (not_or.2 ⟨hfile, htemporary⟩),
        Directory.file?_congr hfiles]

/-- **All that a request does to files.** -/
theorem answer_files (dir : Directory) (now : Timestamp) (r : Request) :
    (∃ new, (Drafts.files dir).Grants now r new ∧ ((Drafts.files dir).answer now r).1 = .done ∧
        (Drafts.files dir).Puts new ((Drafts.files dir).answer now r).2) ∨
      (∀ new, ¬ (Drafts.files dir).Grants now r new) ∧
        ((Drafts.files dir).answer now r).1 ≠ .done ∧
        ((Drafts.files dir).answer now r).2.contents = (Drafts.files dir).contents := by
  have hcontents {dir' : Directory} (hfiles : dir'.files = dir.files) :
      (Drafts.files dir').contents = (Drafts.files dir).contents := by
    rw [contents, contents, hfiles]
  obtain ⟨reply, dir', hanswer, hreply, hfiles, hno⟩ |
    ⟨previous, new, dir', hturns, hfiles, hanswer⟩ := FileDrafts.rewrites_answer .none dir now r
  · rw [answer_files_eq, hanswer]
    refine .inr ⟨fun new h => ?_, hreply, hcontents hfiles⟩
    obtain ⟨previous, hfound, hmakes⟩ := h.makes
    exact hno previous new ⟨hfound, hmakes⟩
  · rw [answer_files_eq, hanswer, Prod.map_fst, Prod.map_snd]
    by_cases hadmitted : Admitted new.id
    · refine .inl ⟨new, ⟨⟨previous, hturns.found, hturns.makes⟩, hadmitted⟩, ?_,
        puts_save hadmitted hfiles⟩
      rw [FileDrafts.save_admitted dir' hadmitted]
      rfl
    · obtain ⟨e, dir'', hsave, hfiles'⟩ := FileDrafts.save_not_admitted .none dir' hadmitted
      rw [hsave]
      refine .inr ⟨fun new' h => ?_, by rintro ⟨⟩, hcontents (hfiles'.trans hfiles)⟩
      obtain ⟨previous', hfound, hmakes⟩ := h.makes
      obtain ⟨-, rfl⟩ := hturns.deterministic ⟨hfound, hmakes⟩
      exact hadmitted h.accepted

end files

/-! ## Either -/

/-- **All that a request does to either store**: it is granted and puts the draft that it makes,
or it is not granted and leaves what the store holds. -/
theorem answer_cases (store : Drafts) (now : Timestamp) (r : Request) :
    (∃ new, store.Grants now r new ∧ (store.answer now r).1 = .done ∧
        store.Puts new (store.answer now r).2) ∨
      (∀ new, ¬ store.Grants now r new) ∧ (store.answer now r).1 ≠ .done ∧
        (store.answer now r).2.contents = store.contents := by
  cases store with
  | memory s => exact answer_memory s now r
  | files dir => exact answer_files dir now r

end Drafts

end PostingTerminal.Store
