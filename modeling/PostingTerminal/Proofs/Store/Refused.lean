import Mathlib.Data.List.Induction
import Mathlib.Data.List.Nodup
import PostingTerminal.Proofs.Store.Granted

/-!
# A request that is refused changes nothing

In memory a draft is changed where it lies, one field after the other, and what has been written
when an error comes up stays written.  So that the store is left as it was, each cause of a
refusal has to be found before the first field is written.

* `Edit` — changes of a draft in its place, which may fail on the way; `Edit.Performs` says that
  an edit is all or nothing.  The three edits of a draft are (`performs_moveTo`,
  `performs_appendId`, `performs_finishAs`).
* `MemoryDrafts.answerInPlace` — records in memory that answer by editing drafts in their place.
  No two records that can be reached are under one id (`distinct_afterInPlace`), so they answer as
  records that are replaced as a whole (`Distinct.answer_eq`).
* `refused_changes_nothing` — **a request that is refused changes nothing**, in memory and as
  files, whatever the files hold.
-/

namespace PostingTerminal.Store

/-! ## Edits -/

/-- Changes of a draft in its place.  They may fail on the way; the draft stays as far as it has
been changed by then. -/
abbrev Edit := ExceptT Error (StateM Draft) Unit

namespace Edit

/-- Goes on only if a condition holds. -/
def require (condition : Bool) (cause : StoreError) : Edit :=
  if condition then pure () else throw (.store cause)

/-- Moves a draft to another status, if it may move there. -/
def moveTo (next : DraftStatus) (now : Timestamp) : Edit := do
  let d ← get
  require (d.status.canMoveTo next) (.badTransition d.id d.status next)
  modify ({ · with status := next })
  modify ({ · with updatedAt := now })

/-- Appends a message id to a draft that is being published and has a segment left. -/
def appendId (message : MessageId) (now : Timestamp) : Edit := do
  let d ← get
  require (d.status = .publishing) (.notPublishing d.id d.status)
  require (d.messageIds.length < d.segments.length) (.everySegmentPosted d.id)
  modify fun d => { d with messageIds := d.messageIds ++ [message] }
  modify ({ · with updatedAt := now })

/-- Takes status and ids from a draft that is finished. -/
def finishAs (finished : Draft) (now : Timestamp) : Edit := do
  require finished.status.isTerminal (.notFinished finished.id finished.status)
  moveTo finished.status now
  modify ({ · with messageIds := finished.messageIds })

/-- **An edit performs a change**: it leaves what the change leaves, or fails where the change is
refused, with the same error and the draft as it was. -/
def Performs (edit : Timestamp → Edit) (change : Change) : Prop :=
  ∀ d now, (edit now).run.run d =
    match change d now with
    | .ok d' => (.ok (), d')
    | .error e => (.error e, d)

/-- An edit that looks at the draft goes on with it. -/
theorem run_get_bind (rest : Draft → Edit) (d : Draft) :
    (get >>= rest : Edit).run.run d = (rest d).run.run d := rfl

/-- What is required is looked at before anything is changed. -/
theorem run_require_bind (condition : Bool) (cause : StoreError) (rest : Unit → Edit) (d : Draft) :
    (require condition cause >>= rest : Edit).run.run d
      = if condition then (rest ()).run.run d else (.error (.store cause), d) := by
  cases condition <;> rfl

/-- An edit that goes on after another one. -/
theorem run_bind (edit : Edit) (rest : Unit → Edit) (d : Draft) :
    (edit >>= rest : Edit).run.run d = match edit.run.run d with
      | (.ok (), d') => (rest ()).run.run d'
      | (.error e, d') => (.error e, d') := by
  rw [ExceptT.run_bind, StateT.run_bind]
  rcases edit.run.run d with ⟨_ | _, d'⟩ <;> rfl

/-- Moving to another status is all or nothing. -/
theorem performs_moveTo (next : DraftStatus) : Performs (moveTo next) (.moveTo next) := by
  intro d now
  rw [moveTo, run_get_bind, run_require_bind, Change.moveTo, Draft.moveTo]
  split <;> rfl

/-- Appending an id is all or nothing. -/
theorem performs_appendId (message : MessageId) :
    Performs (appendId message) (.appendId message) := by
  intro d now
  rw [appendId, run_get_bind, run_require_bind, run_require_bind, Change.appendId, Draft.appendId]
  by_cases hstatus : d.status = .publishing
  · by_cases hroom : d.messageIds.length < d.segments.length
    · rw [if_pos (by simpa using hstatus), if_pos (by simpa using hroom),
        if_neg (not_not_intro hstatus), if_neg (Nat.not_le.2 hroom)]
      rfl
    · rw [if_pos (by simpa using hstatus), if_neg (by simpa using hroom),
        if_neg (not_not_intro hstatus), if_pos (Nat.not_lt.1 hroom)]
  · rw [if_neg (by simpa using hstatus), if_pos hstatus]

/-- Finishing is all or nothing. -/
theorem performs_finishAs (finished : Draft) :
    Performs (finishAs finished) (.finishAs finished) := by
  intro d now
  have hmove := performs_moveTo finished.status d now
  rw [finishAs, run_require_bind, run_bind, hmove, Change.finishAs, Draft.finishAs, Change.moveTo]
  cases finished.status.isTerminal <;> cases d.moveTo finished.status now <;> rfl

end Edit

/-! ## Records that are edited in their place -/

namespace MemoryDrafts

/-- Edits the record with an id in its place.  What the edit leaves is kept, whether it has failed
or not. -/
def edit (s : MemoryDrafts) (id : DraftId) (e : Edit) : Except Error Unit × MemoryDrafts :=
  match s.fetch id with
  | none => (.error (.store (.notFound id)), s)
  | some d =>
    ((e.run.run d).1, ⟨s.drafts.map fun old => if old.id == id then (e.run.run d).2 else old⟩)

/-- What records in memory answer to a request at a time, and what they are afterwards, if drafts
are edited in their place. -/
def answerInPlace (s : MemoryDrafts) (now : Timestamp) : Request → Reply × MemoryDrafts
  | .persist d =>
    if (s.fetch d.id).isSome then (.refused (.store (.alreadyExists d.id)), s)
    else (.done, ⟨s.drafts ++ [d]⟩)
  | .update id status =>
    (.ofWrite (s.edit id (.moveTo status now)).1, (s.edit id (.moveTo status now)).2)
  | .record id message =>
    (.ofWrite (s.edit id (.appendId message now)).1, (s.edit id (.appendId message now)).2)
  | .finalize d =>
    (.ofWrite (s.edit d.id (.finishAs d now)).1, (s.edit d.id (.finishAs d now)).2)
  | .fetch id => (.found (s.fetch id), s)

/-- Records after requests that edit drafts in their place. -/
def afterInPlace (s : MemoryDrafts) (calls : List (Request × Timestamp)) : MemoryDrafts :=
  calls.foldl (fun s call => (s.answerInPlace call.2 call.1).2) s

/-- No two records are under one id. -/
def Distinct (s : MemoryDrafts) : Prop := (s.drafts.map (·.id)).Nodup

variable {s s' : MemoryDrafts} {id : DraftId} {d : Draft} {now : Timestamp} {r : Request}

/-- A record that is put back as it was changes nothing. -/
theorem Distinct.replace_self (h : s.Distinct) (hfound : s.fetch id = some d) :
    (s.drafts.map fun old => if old.id == id then d else old) = s.drafts := by
  have hsame (old : Draft) (hold : old ∈ s.drafts) :
      (if old.id == id then d else old) = old := by
    split
    · rename_i hid
      have hold' : old.id = d.id :=
        (by simpa using hid : old.id = id).trans (id_of_fetch hfound).symm
      exact (List.inj_on_of_nodup_map h hold (List.mem_of_find?_eq_some hfound) hold').symm
    · rfl
  rw [List.map_congr_left hsame, List.map_id']

/-- **An edit in its place is the change that it performs**, made as a whole or not at all. -/
theorem Distinct.edit_eq (h : s.Distinct) {e : Timestamp → Edit} {change : Change}
    (hperforms : Edit.Performs e change) :
    s.edit id (e now) = match s.modify id change now with
      | .ok s' => (.ok (), s')
      | .error cause => (.error cause, s) := by
  unfold edit modify
  cases hfound : s.fetch id with
  | none => rfl
  | some d =>
    have hrun := hperforms d now
    cases hchange : change d now with
    | ok new =>
      rw [hchange] at hrun
      simp only [hrun, hchange]
    | error cause =>
      rw [hchange] at hrun
      simp only [hrun, hchange, h.replace_self hfound]

/-- A record is begun under an id of its own. -/
theorem Distinct.persist (h : s.Distinct) (hpersist : s.persist d = .ok s') : s'.Distinct := by
  obtain ⟨hfresh, -⟩ := puts_persist hpersist
  unfold MemoryDrafts.persist at hpersist
  split at hpersist
  · cases hpersist
  · cases hpersist
    have hother : ∀ old ∈ s.drafts, old.id ≠ d.id := by simpa [fetch] using hfresh
    have hdisjoint : ∀ id ∈ s.drafts.map (·.id), ∀ id' ∈ [d.id], id ≠ id' := by
      simpa using hother
    rw [Distinct, List.map_append]
    exact List.nodup_append.2 ⟨h, List.nodup_singleton _, hdisjoint⟩

/-- A record that is changed keeps its id. -/
theorem Distinct.modify (h : s.Distinct) {change : Change} (hfaithful : change.Faithful)
    (hmodify : s.modify id change now = .ok s') : s'.Distinct := by
  unfold MemoryDrafts.modify at hmodify
  split at hmodify
  · cases hmodify
  · rename_i old hold
    split at hmodify
    · cases hmodify
    · rename_i new hnew
      cases hmodify
      have hid : new.id = id := (hfaithful.sameThread hnew).id.trans (id_of_fetch hold)
      have hids : (s.drafts.map fun old => if old.id == id then new else old).map (·.id)
          = s.drafts.map (·.id) := by
        rw [List.map_map]
        refine List.map_congr_left fun other _ => ?_
        show (if other.id == id then new else other).id = other.id
        split
        · rename_i hother
          exact hid.trans (by simpa using hother : other.id = id).symm
        · rfl
      rw [Distinct, hids]
      exact h

/-- **Records that are edited in their place answer as records that are replaced.** -/
theorem Distinct.answer_eq (h : s.Distinct) (now : Timestamp) (r : Request) :
    (Drafts.memory s).answer now r
        = ((s.answerInPlace now r).1, .memory (s.answerInPlace now r).2) ∧
      (s.answerInPlace now r).2.Distinct := by
  have hedit {id : DraftId} {e : Timestamp → Edit} {change : Change}
      (hperforms : Edit.Performs e change) (hfaithful : change.Faithful) :
      (Drafts.memory s).write (Drafts.modify id change now)
          = (.ofWrite (s.edit id (e now)).1, .memory (s.edit id (e now)).2) ∧
        (s.edit id (e now)).2.Distinct := by
    rw [Drafts.write, Drafts.modify_memory, h.edit_eq hperforms]
    cases hmodify : s.modify id change now with
    | error cause => exact ⟨rfl, h⟩
    | ok s' => exact ⟨rfl, h.modify hfaithful hmodify⟩
  cases r with
  | persist d =>
    rw [Drafts.answer, Drafts.write, Drafts.persist_memory, answerInPlace]
    by_cases hthere : (s.fetch d.id).isSome
    · have hpersist : s.persist d = .error (.store (.alreadyExists d.id)) := if_pos hthere
      rw [hpersist, if_pos hthere]
      exact ⟨rfl, h⟩
    · have hpersist : s.persist d = .ok ⟨s.drafts ++ [d]⟩ := if_neg hthere
      rw [hpersist, if_neg hthere]
      exact ⟨rfl, h.persist hpersist⟩
  | update id status =>
    exact hedit (Edit.performs_moveTo status) (Change.faithful_moveTo status)
  | record id message =>
    exact hedit (Edit.performs_appendId message) (Change.faithful_appendId message)
  | finalize d => exact hedit (Edit.performs_finishAs d) (Change.faithful_finishAs d)
  | fetch id => exact ⟨rfl, h⟩

/-- No two records that can be reached are under one id. -/
theorem distinct_afterInPlace (calls : List (Request × Timestamp)) :
    (empty.afterInPlace calls).Distinct := by
  induction calls using List.reverseRecOn with
  | nil => exact List.nodup_nil
  | append_singleton calls call ih =>
    rw [afterInPlace, List.foldl_append]
    exact (ih.answer_eq call.2 call.1).2

end MemoryDrafts

/-! ## Requests that are refused -/

namespace Drafts

/-- **A request that is refused leaves what a store holds.** -/
theorem contents_of_refused {store : Drafts} {now : Timestamp} {r : Request} {cause : Error}
    (h : (store.answer now r).1 = .refused cause) :
    (store.answer now r).2.contents = store.contents := by
  obtain ⟨new, -, hdone, -⟩ | ⟨-, -, hcontents⟩ := answer_cases store now r
  · rw [hdone] at h
    cases h
  · exact hcontents

end Drafts

/-- **A request that is refused changes nothing.**  In memory, after any requests, drafts are edited
where they lie, field by field: a refused request leaves every record as it was, so the records
answer as if they were replaced as a whole.  As files, whatever the files of the directory hold,
a refused request leaves each file with what it holds.  This is so while no access to the files
fails; whichever of them fail, a refused request changes no file but a temporary one. -/
theorem refused_changes_nothing :
    (∀ (calls : List (Request × Timestamp)) (now : Timestamp) (r : Request),
      let s := MemoryDrafts.empty.afterInPlace calls
      (∀ cause, (s.answerInPlace now r).1 = .refused cause → (s.answerInPlace now r).2 = s) ∧
        (Drafts.memory s).answer now r
          = ((s.answerInPlace now r).1, .memory (s.answerInPlace now r).2)) ∧
      (∀ (dir : Directory) (now : Timestamp) (r : Request) (cause : Error),
        ((Drafts.files dir).answer now r).1 = .refused cause →
          ∃ dir', ((Drafts.files dir).answer now r).2 = .files dir' ∧ dir'.files = dir.files) ∧
      ∀ (failures : Failures) (dir : Directory) (now : Timestamp) (r : Request) (cause : Error),
        (FileDrafts.answer failures dir now r).1 = .refused cause →
          ∀ name, (∀ id, name ≠ temporaryName id) →
            (FileDrafts.answer failures dir now r).2.file? name = dir.file? name := by
  refine ⟨?_, ?_, fun _ _ _ _ _ hrefused _ hname => FileDrafts.refused_frame hrefused hname⟩
  · intro calls now r s
    have hanswer := ((MemoryDrafts.distinct_afterInPlace calls).answer_eq now r).1
    refine ⟨fun cause hrefused => ?_, hanswer⟩
    have hcontents := Drafts.contents_of_refused ((congrArg Prod.fst hanswer).trans hrefused)
    rw [hanswer] at hcontents
    exact Drafts.memory.inj hcontents
  · intro dir now r cause hrefused
    have hcontents := Drafts.contents_of_refused hrefused
    cases hstore : ((Drafts.files dir).answer now r).2 with
    | memory s =>
      rw [hstore] at hcontents
      cases hcontents
    | files dir' =>
      rw [hstore] at hcontents
      exact ⟨dir', rfl, (Directory.mk.inj (Drafts.files.inj hcontents)).1⟩

/-- A draft that has only been begun is not published, and stays as it was.  Nor is one begun whose
file holds something else, or whose temporary file cannot be given its name. -/
theorem refused_changes_nothing_malformed :
    ((MemoryDrafts.empty.afterInPlace [(.persist quotedDraft, 5)]).answerInPlace 6
        (.update ⟨"draft_1"⟩ .published)).2 = ⟨[quotedDraft]⟩ ∧
      (∃ dir', ((Drafts.files ⟨[("draft_1.json", .text "\x7b")], []⟩).answer 5
            (.persist quotedDraft)).2 = .files dir' ∧
        dir'.files = [("draft_1.json", .text "\x7b")]) ∧
      (FileDrafts.answer ⟨none, none, some (.other "full")⟩ .empty 5 (.persist quotedDraft)).2.file?
        "draft_1.json" = none :=
  ⟨(refused_changes_nothing.1 [(.persist quotedDraft, 5)] 6 (.update ⟨"draft_1"⟩ .published)).1
      (.store (.badTransition ⟨"draft_1"⟩ .draft .published)) rfl,
    refused_changes_nothing.2.1 ⟨[("draft_1.json", .text "\x7b")], []⟩ 5 (.persist quotedDraft) _
      rfl,
    refused_changes_nothing.2.2 ⟨none, none, some (.other "full")⟩ .empty 5 (.persist quotedDraft) _
      rfl "draft_1.json" (fileName_ne_temporaryName ⟨"draft_1"⟩)⟩

end PostingTerminal.Store
