import PostingTerminal.Proofs.Attempt.Course
import PostingTerminal.Proofs.Store.Records

/-!
# The record of an attempt

An attempt has its draft twice: in hand, and as the record that the store keeps.  The two go
through their stations one by one, and any of the writes may fail, so they need not agree.

* `Stage.Admits` — the statuses that the record can have while the attempt is about to do
  something.  They always allow the next write.
* `storedOf` — the ids that the writes of events leave in the record.
* `kept_of_reaches` — **the store keeps a record of the draft at every moment** since it has
  been begun: in a status that the stage admits, and with the ids of the writes that landed
  if a write that fails leaves the store as it was.

The statements hold for records in memory and in files alike.
-/

namespace PostingTerminal

open Store (Drafts Change)

/-! ## A change of a record by a call -/

namespace Session

/-- What a call of a method has made of a record that allows the change. -/
inductive Changes (m : Method) (s : Session) (r r' : Draft) : Except Error Unit → Drafts → Prop
  /-- The record has been changed. -/
  | made {drafts : Drafts} (h : s.faults m (s.callCount m) = none) (keeps : drafts.Keeps r') :
      Changes m s r r' (.ok ()) drafts
  /-- The call has failed, and the record is as it was. -/
  | failed {fault : Fault} {drafts : Drafts} (h : s.faults m (s.callCount m) = some fault)
      (keeps : drafts.Keeps r) : Changes m s r r' (.error fault.error) drafts
  /-- The call has failed, but the record has been changed. -/
  | lost {fault : Fault} {drafts : Drafts} (h : s.faults m (s.callCount m) = some fault)
      (hafter : fault.afterCall = true) (keeps : drafts.Keeps r') :
      Changes m s r r' (.error fault.error) drafts

section standing

variable {d : Draft} {status status' : DraftStatus} {ids ids' : List MessageId}
  {time now : Timestamp} {m : Method} {change : Change} {s : Session} {answer : Except Error Unit}
  {drafts : Drafts}

/-- A call makes the change that a record allows, at its time, unless it is to fail. -/
theorem Stores.changes (h : s.Stores m (Drafts.modify d.id change now) answer drafts)
    (hkeeps : s.drafts.Keeps (d.standing status ids time)) (hfits : d.FitsWord)
    (hnow : now ≤ Json.maxWord)
    (hchange : change (d.standing status ids time) now = .ok (d.standing status' ids' now)) :
    s.Changes m (d.standing status ids time) (d.standing status' ids' now) answer drafts := by
  obtain ⟨hanswer, hkept⟩ := hkeeps.modify hchange rfl rfl ⟨hfits.createdAt, hnow⟩
  cases h with
  | made hnone =>
    show s.Changes m _ _ (Drafts.modify (d.standing status ids time).id _ _ _).1 _
    rw [hanswer]
    exact .made hnone hkept
  | failed hfault _ => exact .failed hfault hkeeps
  | lost hfault hafter => exact .lost hfault hafter hkept

/-- A call that asks for a change which the record refuses changes nothing. -/
theorem Stores.refused {e : Error} (h : s.Stores m (Drafts.modify d.id change now) answer drafts)
    (hkeeps : s.drafts.Keeps (d.standing status ids time))
    (hchange : change (d.standing status ids time) now = .error e) :
    (∃ e', answer = .error e') ∧ drafts.Keeps (d.standing status ids time) := by
  obtain ⟨hanswer, hkept⟩ := hkeeps.refuse hchange
  cases h with
  | made _ => exact ⟨⟨e, hanswer⟩, hkept⟩
  | failed _ _ => exact ⟨⟨_, rfl⟩, hkeeps⟩
  | lost _ _ => exact ⟨⟨_, rfl⟩, hkept⟩

end standing

end Session

namespace Attempt

/-! ## The record at a moment -/

/-- The ids in the record after an event, if a call that has failed has written nothing. -/
def Event.stored (ids : List MessageId) : Event → List MessageId
  | .recorded _ message (.ok _) => ids ++ [message]
  | .finalized d (.ok _) => d.messageIds
  | _ => ids

/-- The ids that the writes of events leave in the record. -/
def storedOf (events : List Event) : List MessageId := events.foldl Event.stored []

/-- One more event. -/
theorem storedOf_concat (events : List Event) (e : Event) :
    storedOf (events ++ [e]) = e.stored (storedOf events) := by
  rw [storedOf, List.foldl_append]
  rfl

/-- The statuses that the record can have when an attempt is about to do something. -/
def Stage.Admits : Stage → DraftStatus → Prop
  | .opening _, _ => False
  | .starting _, status => status = .draft
  | .posting _ _ _ _, status => status = .publishing
  | .recording _ _ _ _ _, status => status = .publishing
  | .remembering _ _ _ _, status => status = .publishing
  | .finishing d _, status => status.canMoveTo d.status = true
  | .ended _, _ => True

/-- A write of a draft that fails leaves the store as it was. -/
def CleanFaults (faults : Faults) : Prop :=
  ∀ m ∈ [Method.update, .record, .finalize], ∀ n fault, faults m n = some fault →
    fault.afterCall = false

/-- Such a write does not land where it fails. -/
theorem CleanFaults.not_after {faults : Faults} (h : CleanFaults faults) {m : Method} {n : Nat}
    {fault : Fault} (hm : m ∈ [Method.update, .record, .finalize])
    (hfault : faults m n = some fault) (hafter : fault.afterCall = true) : False := by
  rw [h m hm n fault hfault] at hafter
  cases hafter

/-- The store keeps a record of a draft at a moment. -/
structure Kept (d : Draft) (m : Moment) (events : List Event) (status : DraftStatus)
    (ids : List MessageId) : Prop where
  keeps : ∃ time, m.session.drafts.Keeps (d.standing status ids time)
  admits : m.stage.Admits status
  stored : CleanFaults m.session.faults → ids = storedOf events

section kept

variable {d : Draft} {events : List Event} {status : DraftStatus} {ids : List MessageId}
  {changed now : Timestamp}

/-- A record that is being published is admitted when segments are left and when none are. -/
theorem Stage.admits_next (index : Nat) (left : List Segment) :
    (Stage.next (d.standing .publishing ids changed) index left now).Admits .publishing := by
  cases left with
  | nil =>
    rw [Stage.next, Stage.close_standing _ rfl]
    rfl
  | cons x rest => rfl

/-- A record that is being published is admitted after every post. -/
theorem Stage.admits_afterPost (index : Nat) (x : Segment) (rest : List Segment)
    (hroom : ids.length < d.segments.length)
    (result : Except Halt (Except Error MessageId)) :
    (Stage.afterPost (d.standing .publishing ids changed) index x rest now result).Admits
      .publishing := by
  rcases result with halt | e | message
  · trivial
  · rw [Stage.afterPost, Stage.close_standing _ rfl]
    rfl
  · rw [Stage.afterPost, d.appendId_standing message hroom]
    rfl

/-- A record that has just been begun is kept. -/
theorem kept_of_persist {s s' : Session} (hcall : Run.persist d s = (.ok (.ok ()), s'))
    (hfresh : d.standing .draft [] d.updatedAt = d) (hfits : d.FitsWord) :
    Kept d ⟨.starting d, s'⟩ [.persisted d (.ok ())] .draft [] := by
  obtain ⟨-, hanswer, hdrafts⟩ := (Run.stores_of_persist hcall).2.of_ok
  refine ⟨⟨d.updatedAt, ?_⟩, rfl, fun _ => rfl⟩
  show s'.drafts.Keeps _
  rw [hdrafts, hfresh]
  exact Drafts.keeps_persist hanswer hfits

/-- Marking a record that has just been begun is never refused. -/
theorem Kept.update_changes {s s' : Session} {answer : Except Error Unit}
    (h : Kept d ⟨.starting d, s⟩ events status ids)
    (hcall : Run.updateStatus d.id .publishing s = (.ok answer, s')) (hfits : d.FitsWord)
    (hnow : s'.now ≤ Json.maxWord) :
    ∃ time, s.Changes .update (d.standing .draft ids time) (d.standing .publishing ids s'.now)
      answer s'.drafts := by
  obtain ⟨⟨time, hkeeps⟩, hadmits, -⟩ := h
  cases hadmits
  have hmove : Change.moveTo .publishing (d.standing .draft ids time) s'.now
      = .ok (d.standing .publishing ids s'.now) := d.moveTo_standing rfl
  exact ⟨time, (Run.stores_of_updateStatus hcall).2.changes hkeeps hfits hnow hmove⟩

/-- An id is appended to a record, or the record has an id for every segment and refuses it. -/
theorem Kept.record_changes {d' : Draft} {index : Nat} {message : MessageId} {x : Segment}
    {rest : List Segment} {s s' : Session} {answer : Except Error Unit}
    (h : Kept d ⟨.recording d' index message x rest, s⟩ events status ids)
    (hcall : Run.recordId d.id message s = (.ok answer, s')) (hfits : d.FitsWord)
    (hnow : s'.now ≤ Json.maxWord) :
    ∃ time, s.Changes .record (d.standing .publishing ids time)
        (d.standing .publishing (ids ++ [message]) s'.now) answer s'.drafts ∨
      (∃ e, answer = .error e) ∧ s'.drafts.Keeps (d.standing .publishing ids time) := by
  obtain ⟨⟨time, hkeeps⟩, hadmits, -⟩ := h
  cases hadmits
  have hstores := (Run.stores_of_recordId hcall).2
  refine ⟨time, ?_⟩
  by_cases hroom : ids.length < d.segments.length
  · have happend : Change.appendId message (d.standing .publishing ids time) s'.now
        = .ok (d.standing .publishing (ids ++ [message]) s'.now) :=
      d.appendId_standing message hroom
    exact .inl (hstores.changes hkeeps hfits hnow happend)
  · have hrefuse : Change.appendId message (d.standing .publishing ids time) s'.now
        = .error (.store (.everySegmentPosted d.id)) :=
      d.appendId_full message (Nat.not_lt.1 hroom)
    exact .inr (hstores.refused hkeeps hrefuse)

/-- **The terminal write is never refused**: the record can always be finished as the draft is. -/
theorem Kept.finalize_changes {d' : Draft} {message : String} {s s' : Session}
    {answer : Except Error Unit} (h : Kept d ⟨.finishing d' message, s⟩ events status ids)
    (hprogress : Progress d (.finishing d' message) events)
    (hcall : Run.finalize d' s = (.ok answer, s')) (hfits : d.FitsWord)
    (hnow : s'.now ≤ Json.maxWord) :
    ∃ time next ids' changed, d' = d.standing next ids' changed ∧
      s.Changes .finalize (d.standing status ids time) (d.standing next ids' s'.now) answer
        s'.drafts := by
  cases hprogress with
  | @finishing next ids' _ _ changed hconcluded =>
    obtain ⟨time, hkeeps⟩ := h.keeps
    have hstores := (Run.stores_of_finalize hcall).2
    change s.Stores .finalize (Drafts.modify d.id (.finishAs _) s'.now) _ _ at hstores
    have hfinish : Change.finishAs (d.standing next ids' changed) (d.standing status ids time) s'.now
        = .ok (d.standing next ids' s'.now) := d.finishAs_standing h.admits hconcluded.isTerminal
    exact ⟨time, next, ids', changed, rfl, hstores.changes hkeeps hfits hnow hfinish⟩

/-- **A step keeps a record**: the one there was, or what its write has made of it. -/
theorem Kept.step {m m' : Moment} {e : Event} (h : Kept d m events status ids)
    (hprogress : Progress d m.stage events) (hstep : Step m e m')
    (hfresh : d.standing .draft [] d.updatedAt = d) (hfits : d.FitsWord)
    (hnow : m'.session.now ≤ Json.maxWord) :
    ∃ status' ids', Kept d m' (events ++ [e]) status' ids' := by
  have hfaults : m'.session.faults = m.session.faults := hstep.notes.faults
  have hstored : CleanFaults m'.session.faults → e.stored ids = storedOf (events ++ [e]) := by
    intro hclean
    rw [storedOf_concat, ← h.stored (hfaults ▸ hclean)]
  cases hstep with
  | persist => exact h.admits.elim
  | @update d' s answer s' hcall =>
    cases hprogress
    have herror (e : Error) : (Stage.afterUpdate d s'.now (.error e)).Admits .draft ∧
        (Stage.afterUpdate d s'.now (.error e)).Admits .publishing := by
      rw [Stage.afterUpdate_error hfresh]
      exact ⟨rfl, rfl⟩
    obtain ⟨time, hchanges⟩ := h.update_changes hcall hfits hnow
    cases hchanges with
    | made _ hkeeps =>
      refine ⟨.publishing, ids, ⟨_, hkeeps⟩, ?_, hstored⟩
      show (Stage.afterUpdate d s'.now (.ok ())).Admits .publishing
      rw [Stage.afterUpdate_ok hfresh]
      exact Stage.admits_next 0 d.segments
    | failed _ hkeeps => exact ⟨.draft, ids, ⟨time, hkeeps⟩, (herror _).1, hstored⟩
    | lost _ _ hkeeps => exact ⟨.publishing, ids, ⟨_, hkeeps⟩, (herror _).2, hstored⟩
  | @post d' index x rest s s₁ answer s' hpause hcall =>
    cases hprogress with
    | posting hrounds hleft =>
      obtain ⟨hkeeps, hadmits, -⟩ := h
      cases hadmits
      refine ⟨.publishing, ids, ?_, ?_, hstored⟩
      · show ∃ time, s'.drafts.Keeps _
        rw [(post_session hpause hcall).2]
        exact hkeeps
      · exact Stage.admits_afterPost _ x rest (hrounds.length_lt hleft) _
  | @record d' index message x rest s answer s' hcall =>
    cases hprogress with
    | recording hrounds hleft hyields =>
      obtain ⟨time, hchanges | ⟨⟨e, rfl⟩, hkeeps⟩⟩ := h.record_changes hcall hfits hnow
      · cases hchanges with
        | made _ hkeeps => exact ⟨.publishing, ids ++ [message], ⟨_, hkeeps⟩, rfl, hstored⟩
        | failed _ hkeeps => exact ⟨.publishing, ids, ⟨time, hkeeps⟩, rfl, hstored⟩
        | lost hfault hafter hkeeps =>
          refine ⟨.publishing, ids ++ [message], ⟨_, hkeeps⟩, rfl, fun hclean => ?_⟩
          exact ((hfaults ▸ hclean).not_after (by simp) hfault hafter).elim
      · exact ⟨.publishing, ids, ⟨time, hkeeps⟩, rfl, hstored⟩
  | @remember d' index x rest s answer s' hcall =>
    cases hprogress with
    | remembering hrounds hleft =>
      obtain ⟨hkeeps, hadmits, -⟩ := h
      cases hadmits
      refine ⟨.publishing, ids, ?_, ?_, hstored⟩
      · show ∃ time, s'.drafts.Keeps _
        rw [(Run.session_of_remember hcall).2]
        exact hkeeps
      · exact Stage.admits_next _ rest
  | @finalize d' message s answer s' hcall =>
    obtain ⟨time, next, ids', changed, rfl, hchanges⟩ :=
      h.finalize_changes hprogress hcall hfits hnow
    cases hchanges with
    | made _ hkeeps => exact ⟨next, ids', ⟨_, hkeeps⟩, trivial, hstored⟩
    | failed _ hkeeps => exact ⟨status, ids, ⟨time, hkeeps⟩, trivial, hstored⟩
    | lost hfault hafter hkeeps =>
      refine ⟨next, ids', ⟨_, hkeeps⟩, trivial, fun hclean => ?_⟩
      exact ((hfaults ▸ hclean).not_after (by simp) hfault hafter).elim

/-- The times of a new draft can be written if those of the clock can. -/
theorem fitsWord_draftOf {topic : Option String} {segments : List Segment} {s : Session}
    (hclock : ∀ n, s.clock n ≤ Json.maxWord) : (draftOf topic segments s).FitsWord :=
  ⟨hclock _, hclock _⟩

/-- **The store keeps a record at every moment** of an attempt since it has been begun. -/
theorem kept_of_reaches {topic : Option String} {segments : List Segment} {s : Session}
    {m : Moment} (h : Reaches (first topic segments s) events m)
    (hclock : ∀ n, s.clock n ≤ Json.maxWord)
    (hpersisted : .persisted (draftOf topic segments s) (.ok ()) ∈ events) :
    ∃ status ids, Kept (draftOf topic segments s) m events status ids := by
  have hfits : (draftOf topic segments s).FitsWord := fitsWord_draftOf hclock
  induction h with
  | here => cases hpersisted
  | @step events m e m' before hstep ih =>
    have hprogress := progress_of_reaches before
    rcases List.mem_append.1 hpersisted with hmem | hmem
    · obtain ⟨status, ids, hkept⟩ := ih hmem
      have hnow : m'.session.now ≤ Json.maxWord := by
        rw [(before.step hstep).notes_first.now]
        exact hclock _
      exact hkept.step hprogress hstep rfl hfits hnow
    · rw [List.mem_singleton] at hmem
      subst hmem
      cases hstep with
      | persist hcall =>
        cases hprogress
        exact ⟨.draft, [], kept_of_persist hcall rfl hfits⟩

end kept

end Attempt

end PostingTerminal
