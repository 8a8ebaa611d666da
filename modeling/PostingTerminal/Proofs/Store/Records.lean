import PostingTerminal.Proofs.Store.Files

/-!
# The record that a store keeps

`Drafts.Keeps store d` says that a store keeps the draft `d` as the record under its id.  In
memory the record is the draft itself; as a file it is the text of the draft, under a name
that can be written again.

* `Drafts.Keeps.fetch` — a record that is kept is what the store gives back.
* `Drafts.keeps_persist` — a record that has been begun is kept.
* `Drafts.Keeps.modify` — a change that the record allows is made, and the changed record is
  kept.
* `Drafts.Keeps.refuse` — a change that the record refuses gives the error of the record, and
  the record is kept as it was.
* `Drafts.contents` — what a store holds.  Reading leaves it, and so does a record that cannot be
  begun.

The statements are the same for records in memory and records in files.
-/

namespace PostingTerminal.Store

/-! ## In memory -/

namespace MemoryDrafts

variable {s : MemoryDrafts} {r r' : Draft}

/-- A record that takes the place of another one under the same id is found there. -/
theorem find?_replace (records : List Draft) {id : DraftId}
    (hfound : records.find? (·.id == id) = some r) (hid : r'.id = id) :
    (records.map fun old => if old.id == id then r' else old).find? (·.id == id) = some r' := by
  induction records with
  | nil => simp at hfound
  | cons old rest ih =>
    cases hold : old.id == id with
    | true => rw [List.map_cons, hold, if_pos rfl, List.find?_cons_of_pos (by simp [hid])]
    | false =>
      rw [List.find?_cons_of_neg (by simp [hold])] at hfound
      rw [List.map_cons, hold, if_neg (by simp), List.find?_cons_of_neg (by simp [hold])]
      exact ih hfound

/-- A record that has been begun is found. -/
theorem fetch_persist {s' : MemoryDrafts} (h : s.persist r = .ok s') : s'.fetch r.id = some r := by
  unfold persist at h
  split at h
  · simp at h
  · rename_i hfresh
    have hnone : s.drafts.find? (·.id == r.id) = none := by simpa [fetch] using hfresh
    cases h
    rw [fetch, List.find?_append, hnone]
    simp

/-- A change that a record allows is made. -/
theorem modify_ok {change : Change} {now : Timestamp} (h : s.fetch r.id = some r)
    (hchange : change r now = .ok r') (hid : r'.id = r.id) :
    ∃ s', s.modify r.id change now = .ok s' ∧ s'.fetch r'.id = some r' := by
  refine ⟨⟨s.drafts.map fun old => if old.id == r.id then r' else old⟩, ?_, ?_⟩
  · rw [modify, h]
    simp only [hchange]
  · rw [fetch, hid]
    exact find?_replace s.drafts h hid

/-- A change that a record refuses is not made. -/
theorem modify_error {change : Change} {now : Timestamp} {e : Error} (h : s.fetch r.id = some r)
    (hchange : change r now = .error e) : s.modify r.id change now = .error e := by
  rw [modify, h]
  simp only [hchange]

end MemoryDrafts

/-! ## As files -/

namespace FileDrafts

variable {dir : Directory} {r r' : Draft}

/-- A directory keeps the text of a draft in a file that can be written again. -/
structure Keeps (dir : Directory) (d : Draft) : Prop where
  admitted : Admitted d.id
  file : dir.file? (fileName d.id) = some (.text d.toJson.prettyText)
  fits : d.FitsWord

/-- Noting an access changes no file. -/
theorem Keeps.note (h : Keeps dir r) (access : Access) : Keeps (dir.note access) r :=
  ⟨h.admitted, h.file, h.fits⟩

/-- A record that is kept is read. -/
theorem Keeps.fetch_eq (h : Keeps dir r) :
    fetch .none r.id dir = (.ok (some r), dir.note (.read (fileName r.id))) := by
  apply Prod.ext
  · rw [fetch_of_text h.admitted.1 (admits_fileName h.admitted.2) h.file, ofText_prettyText h.fits]
    rfl
  · rw [fetch_directory, if_pos h.admitted.1]

/-- A draft that has been written is kept. -/
theorem keeps_save {failures : Failures} (h : (save failures r dir).1 = .ok ())
    (hfits : r.FitsWord) : Keeps (save failures r dir).2 r := by
  obtain ⟨hadmitted, hwritten⟩ := written_of_save h
  exact ⟨hadmitted, hwritten.file, hfits⟩

/-- A record that has been begun is kept. -/
theorem keeps_persist {failures : Failures} (h : (persist failures r dir).1 = .ok ())
    (hfits : r.FitsWord) : Keeps (persist failures r dir).2 r := by
  unfold persist at h ⊢
  rcases hfetch : fetch failures r.id dir with ⟨_ | _ | _, dir'⟩
  · simp [hfetch] at h
  · simp only [hfetch] at h ⊢
    exact keeps_save h hfits
  · simp [hfetch] at h

/-- A change that a record allows is made, and stamped with the time. -/
theorem Keeps.modify (h : Keeps dir r) {change : Change} {now : Timestamp}
    (hchange : change r now = .ok r') (hid : r'.id = r.id) (hnow : r'.updatedAt = now)
    (hfits : r'.FitsWord) :
    (modify .none r.id change now dir).1 = .ok () ∧
      Keeps (modify .none r.id change now dir).2 r' := by
  have hstamped : { r' with updatedAt := now } = r' := by rw [← hnow]
  have hmodify : FileDrafts.modify .none r.id change now dir
      = save .none r' (dir.note (.read (fileName r.id))) := by
    rw [FileDrafts.modify, h.fetch_eq]
    simp only [hchange, hstamped]
  have hsaved : (save .none r' (dir.note (.read (fileName r.id)))).1 = .ok () := by
    rw [save_ok_iff, hid]
    exact h.admitted
  rw [hmodify]
  exact ⟨hsaved, keeps_save hsaved hfits⟩

/-- A change that a record refuses is not made. -/
theorem Keeps.refuse (h : Keeps dir r) {change : Change} {now : Timestamp} {e : Error}
    (hchange : change r now = .error e) :
    FileDrafts.modify .none r.id change now dir
      = (.error e, dir.note (.read (fileName r.id))) := by
  rw [FileDrafts.modify, h.fetch_eq]
  simp only [hchange]

end FileDrafts

/-! ## Either -/

namespace Drafts

variable {store : Drafts} {r r' : Draft}

/-- A store keeps a draft as the record under its id. -/
def Keeps : Drafts → Draft → Prop
  | .memory s, d => s.fetch d.id = some d
  | .files dir, d => FileDrafts.Keeps dir d

/-- **A record that is kept is what the store gives back.** -/
theorem Keeps.fetch (h : store.Keeps r) : (Drafts.fetch r.id store).1 = .ok (some r) := by
  cases store with
  | memory s => exact congrArg Except.ok h
  | files dir => simp only [Drafts.fetch, FileDrafts.Keeps.fetch_eq h]

/-- **A record that has been begun is kept**, if its times can be written. -/
theorem keeps_persist (h : (persist r store).1 = .ok ()) (hfits : r.FitsWord) :
    (persist r store).2.Keeps r := by
  cases store with
  | memory s =>
    cases hs : s.persist r with
    | error e => simp [persist, hs] at h
    | ok s' =>
      simp only [persist, hs]
      exact MemoryDrafts.fetch_persist hs
  | files dir => exact FileDrafts.keeps_persist h hfits

/-- **A change that a record allows is made**, and the changed record is kept. -/
theorem Keeps.modify (h : store.Keeps r) {change : Change} {now : Timestamp}
    (hchange : change r now = .ok r') (hid : r'.id = r.id) (hnow : r'.updatedAt = now)
    (hfits : r'.FitsWord) :
    (Drafts.modify r.id change now store).1 = .ok () ∧
      (Drafts.modify r.id change now store).2.Keeps r' := by
  cases store with
  | memory s =>
    obtain ⟨s', hs', hkept⟩ := MemoryDrafts.modify_ok h hchange hid
    simp only [Drafts.modify, hs']
    exact ⟨trivial, hkept⟩
  | files dir => exact FileDrafts.Keeps.modify h hchange hid hnow hfits

/-- **A change that a record refuses is not made**, and the record is kept as it was. -/
theorem Keeps.refuse (h : store.Keeps r) {change : Change} {now : Timestamp} {e : Error}
    (hchange : change r now = .error e) :
    (Drafts.modify r.id change now store).1 = .error e ∧
      (Drafts.modify r.id change now store).2.Keeps r := by
  cases store with
  | memory s =>
    simp only [Drafts.modify, MemoryDrafts.modify_error h hchange]
    exact ⟨trivial, h⟩
  | files dir =>
    simp only [Drafts.modify, FileDrafts.Keeps.refuse h hchange]
    exact ⟨trivial, FileDrafts.Keeps.note h _⟩

end Drafts

/-! ## What a store holds -/

/-- What a store of drafts holds: the store as if no access had been noted. -/
def Drafts.contents : Drafts → Drafts
  | .memory records => .memory records
  | .files dir => .files { dir with accesses := [] }

section contents

variable {dir : Directory} {d : Draft} {e : Error}

/-- A draft that cannot be written changes no file, while no access fails. -/
theorem FileDrafts.files_save (h : (save .none d dir).1 = .error e) :
    (save .none d dir).2.files = dir.files := by
  have hadmitted : ¬ Admitted d.id := by
    intro hadmitted
    rw [save_admitted dir hadmitted] at h
    cases h
  obtain ⟨e', dir', hsave, hfiles⟩ := save_not_admitted .none dir hadmitted
  rw [hsave]
  exact hfiles

/-- A record that cannot be begun changes no file, while no access fails. -/
theorem FileDrafts.files_persist (h : (persist .none d dir).1 = .error e) :
    (persist .none d dir).2.files = dir.files := by
  have hfetch := files_fetch .none d.id dir
  unfold persist at h ⊢
  rcases hrun : fetch .none d.id dir with ⟨_ | _ | _, dir'⟩
  all_goals
    rw [hrun] at hfetch
    simp only [hrun] at h ⊢
  · exact hfetch
  · exact (files_save h).trans hfetch
  · exact hfetch

namespace Drafts

/-- Reading a record leaves what a store holds. -/
theorem contents_fetch (id : DraftId) (store : Drafts) :
    (fetch id store).2.contents = store.contents := by
  cases store with
  | memory records => rfl
  | files dir => simp only [fetch, contents, FileDrafts.files_fetch]

/-- A record that cannot be begun leaves what a store holds. -/
theorem contents_persist {store : Drafts} (h : (persist d store).1 = .error e) :
    (persist d store).2.contents = store.contents := by
  cases store with
  | memory records =>
    cases hpersist : records.persist d with
    | error e => simp only [persist, hpersist]
    | ok records' =>
      simp only [persist, hpersist] at h
      cases h
  | files dir => simp only [persist, contents, FileDrafts.files_persist h]

end Drafts

end contents

end PostingTerminal.Store
