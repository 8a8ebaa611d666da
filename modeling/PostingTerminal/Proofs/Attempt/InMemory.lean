import PostingTerminal.Proofs.Attempt.Answered
import PostingTerminal.Proofs.Attempt.TerminalWrite
import PostingTerminal.Proofs.Store.Requests

/-!
# An attempt over records in memory

Where no call of a store fails, an attempt over records in memory begins one record, under an id
that had none, and touches no other.

* `Begins` — of the records before and after, one has been begun and the others are the same.
* `Holds` — the record at each stage of an attempt.  It is the draft in hand, but for the time of
  the last change and for a write that is yet to be made (`holds_of_reaches`).
* `Draft.Settled` — a record is final, and its status is decided by how many of its segments have
  an id.
* `publishAbout_inMemory` — **an attempt that comes to its end leaves a settled record** that
  agrees with its result, or no record at all.  One that is cut short leaves a record that is
  being published.
-/

namespace PostingTerminal

open Store (Drafts MemoryDrafts Change)

/-- A draft is settled: it has segments and a final status, which says whether every segment has
become a message. -/
structure Draft.Settled (r : Draft) : Prop where
  segments : r.segments ≠ []
  isTerminal : r.status.isTerminal = true
  published : r.status = .published ↔ r.messageIds.length = r.segments.length
  failed : r.status = .failed ↔ r.messageIds.length < r.segments.length

namespace Attempt

/-- A draft is finished as settled. -/
theorem Concluded.settled {d : Draft} {status : DraftStatus} {ids : List MessageId}
    {message : String} {events : List Event} (h : Concluded d status ids message events)
    (hsegments : d.segments ≠ []) (time : Timestamp) : (d.standing status ids time).Settled := by
  have hfailed (hroom : ids.length < d.segments.length) :
      (d.standing .failed ids time).Settled :=
    ⟨hsegments, rfl, ⟨nofun, fun hfull => absurd hfull (Nat.ne_of_lt hroom)⟩,
      fun _ => hroom, fun _ => rfl⟩
  cases h with
  | unstarted e => exact hfailed (List.length_pos_iff.2 hsegments)
  | stopped h left answered => exact hfailed (h.length_lt left)
  | published h =>
    exact ⟨hsegments, rfl, ⟨fun _ => h.length_eq, fun _ => rfl⟩,
      nofun, fun hroom => absurd h.length_eq (Nat.ne_of_lt hroom)⟩

/-! ## One record -/

/-- A record has been begun under an id that had none, and the other records are the same. -/
structure Begins (before : MemoryDrafts) (r : Draft) (after : MemoryDrafts) : Prop where
  fresh : before.fetch r.id = none
  puts : before.Puts r after

section begins

variable {before store after : MemoryDrafts} {r r' : Draft}

/-- A record that has been begun is there. -/
theorem Begins.fetch (h : Begins before r after) : after.fetch r.id = some r := by
  rw [h.puts, if_pos rfl]

/-- Records that were there before are still there. -/
theorem Begins.keeps (h : Begins before r after) {id : DraftId} {old : Draft}
    (hold : before.fetch id = some old) : after.fetch id = some old := by
  have hid : id ≠ r.id := by
    rintro rfl
    rw [h.fresh] at hold
    cases hold
  rw [h.puts, if_neg hid, hold]

/-- A record that is there afterwards has been begun or was there before. -/
theorem Begins.fetch_cases (h : Begins before r after) {id : DraftId} {found : Draft}
    (hfound : after.fetch id = some found) :
    (id = r.id ∧ found = r) ∨ before.fetch id = some found := by
  rw [h.puts] at hfound
  split at hfound
  · rename_i hid
    cases hfound
    exact .inl ⟨hid, rfl⟩
  · exact .inr hfound

/-- The record that has been begun is changed where it stands. -/
theorem Begins.modify (h : Begins before r store) {change : Change} {now : Timestamp}
    (hfaithful : change.Faithful) (hchange : change r now = .ok r') :
    ∃ after, Drafts.modify r.id change now (.memory store) = (.ok (), .memory after) ∧
      Begins before r' after := by
  have hid : r'.id = r.id := (hfaithful.sameThread hchange).id
  obtain ⟨after, hmodify, -⟩ := MemoryDrafts.modify_ok h.fetch hchange hid
  obtain ⟨old, new, hold, hnew, hputs⟩ := MemoryDrafts.puts_modify hfaithful hmodify
  cases h.fetch.symm.trans hold
  cases hchange.symm.trans hnew
  refine ⟨after, ?_, ?_, ?_⟩
  · rw [Store.Drafts.modify_memory, hmodify]
    rfl
  · rw [hid]
    exact h.fresh
  · intro id
    rw [hputs, h.puts, hid]
    split <;> rfl

end begins

/-! ## The record at each stage -/

/-- The records when an attempt with a draft is about to do something.  The draft in hand and the
record have been changed at times of their own. -/
inductive Holds (before : MemoryDrafts) (d : Draft) : Stage → MemoryDrafts → Prop
  | opening : Holds before d (.opening d) before
  | starting {store} (begins : Begins before d store) : Holds before d (.starting d) store
  | posting {ids index x rest store changed written}
      (begins : Begins before (d.standing .publishing ids written) store) :
      Holds before d (.posting (d.standing .publishing ids changed) index x rest) store
  /-- The last id of the draft is not in the record yet. -/
  | recording {ids index message x rest store changed written}
      (room : ids.length < d.segments.length)
      (begins : Begins before (d.standing .publishing ids written) store) :
      Holds before d
        (.recording (d.standing .publishing (ids ++ [message]) changed) index message x rest) store
  | remembering {ids index x rest store changed written}
      (begins : Begins before (d.standing .publishing ids written) store) :
      Holds before d (.remembering (d.standing .publishing ids changed) index x rest) store
  /-- The status of the draft is not in the record yet. -/
  | finishing {status ids message store changed written}
      (move : DraftStatus.publishing.canMoveTo status = true)
      (begins : Begins before (d.standing .publishing ids written) store) :
      Holds before d (.finishing (d.standing status ids changed) message) store
  | unsaved {message segments} :
      Holds before d (.ended (.ok (.rejected message segments))) before
  | finished {status ids message store changed written}
      (settled : (d.standing status ids written).Settled)
      (begins : Begins before (d.standing status ids written) store) :
      Holds before d (.ended (.ok (.ofDraft (d.standing status ids changed) message))) store
  | cut {halt ids store written} (room : ids.length < d.segments.length)
      (begins : Begins before (d.standing .publishing ids written) store) :
      Holds before d (.ended (.error halt)) store

section holds

variable {before store : MemoryDrafts} {d : Draft} {ids : List MessageId}
  {changed written now : Timestamp}

/-- A draft that is about to be finished is still being published in its record. -/
theorem holds_close (begins : Begins before (d.standing .publishing ids written) store)
    (status : DraftStatus) (message : String)
    (hmove : DraftStatus.publishing.canMoveTo status = true) :
    Holds before d (.close (d.standing .publishing ids changed) status message now) store := by
  rw [Stage.close_standing message hmove]
  exact .finishing hmove begins

/-- Segments are left to be posted, or the draft is about to be finished. -/
theorem holds_next (begins : Begins before (d.standing .publishing ids written) store)
    (index : Nat) (left : List Segment) :
    Holds before d (.next (d.standing .publishing ids changed) index left now) store := by
  cases left with
  | nil => exact holds_close begins .published _ rfl
  | cons x rest => exact .posting begins

/-- A post leaves the record as it was, whatever comes of it. -/
theorem holds_afterPost (begins : Begins before (d.standing .publishing ids written) store)
    (room : ids.length < d.segments.length) (index : Nat) (x : Segment) (rest : List Segment)
    (result : Except Halt (Except Error MessageId)) :
    Holds before d (.afterPost (d.standing .publishing ids changed) index x rest now result)
      store := by
  obtain halt | e | message := result
  · exact .cut room begins
  · exact holds_close begins .failed _ rfl
  · rw [Stage.afterPost, d.appendId_standing message room]
    exact .recording room begins

/-- Where no call fails, a call of the drafts is made. -/
theorem made_of_faultless {m : Method} {step : Store.Step Unit} {s : Session}
    {answer : Except Error Unit} {drafts : Drafts} (h : s.Stores m step answer drafts)
    (hfaults : s.faults = .none) : answer = (step s.drafts).1 ∧ drafts = (step s.drafts).2 := by
  cases h with
  | made hnone => exact ⟨rfl, rfl⟩
  | failed hfault => rw [hfaults] at hfault; cases hfault
  | lost hfault => rw [hfaults] at hfault; cases hfault

/-- Where no call fails, a call makes the change that the record allows. -/
theorem Begins.made {r r' : Draft} (h : Begins before r store) {m : Method} {change : Change}
    {s s' : Session} {answer : Except Error Unit}
    (hstores : s.Stores m (Drafts.modify r.id change now) answer s'.drafts)
    (hfaults : s.faults = .none) (hstore : s.drafts = .memory store)
    (hfaithful : change.Faithful) (hchange : change r now = .ok r') :
    answer = .ok () ∧ ∃ after, s'.drafts = .memory after ∧ Begins before r' after := by
  obtain ⟨hanswer, hdrafts⟩ := made_of_faultless hstores hfaults
  obtain ⟨after, hmodify, hbegins⟩ := h.modify hfaithful hchange
  rw [hstore, hmodify] at hanswer hdrafts
  exact ⟨hanswer, after, hdrafts, hbegins⟩

/-- **A step changes the record as the stage after it says.** -/
theorem Holds.step {m m' : Moment} {e : Event} {events : List Event}
    (h : Holds before d m.stage store) (hstore : m.session.drafts = .memory store)
    (hprogress : Progress d m.stage events) (hstep : Step m e m')
    (hfresh : d.standing .draft [] d.updatedAt = d) (hsegments : d.segments ≠ [])
    (hfaults : m.session.faults = .none) :
    ∃ store', m'.session.drafts = .memory store' ∧ Holds before d m'.stage store' := by
  cases hstep with
  | @persist d' s answer s' hcall =>
    cases h
    obtain ⟨hanswer, hdrafts⟩ := made_of_faultless (Run.stores_of_persist hcall).2 hfaults
    have hstore : s.drafts = .memory before := hstore
    rw [hstore, Drafts.persist_memory] at hanswer hdrafts
    cases hpersist : before.persist d with
    | error e =>
      rw [hpersist] at hanswer hdrafts
      subst hanswer
      exact ⟨before, hdrafts, .unsaved⟩
    | ok after =>
      rw [hpersist] at hanswer hdrafts
      subst hanswer
      obtain ⟨hnone, hputs⟩ := MemoryDrafts.puts_persist hpersist
      exact ⟨after, hdrafts, .starting ⟨hnone, hputs⟩⟩
  | @update d' s answer s' hcall =>
    cases h with
    | starting begins =>
      have hmove : Change.moveTo .publishing d s'.now = .ok (d.standing .publishing [] s'.now) := by
        have hmove : (d.standing .draft [] d.updatedAt).moveTo .publishing s'.now
            = .ok (d.standing .publishing [] s'.now) := d.moveTo_standing rfl
        rw [hfresh] at hmove
        exact hmove
      obtain ⟨rfl, after, hafter, hbegins⟩ := begins.made (Run.stores_of_updateStatus hcall).2
        hfaults hstore (Change.faithful_moveTo _) hmove
      refine ⟨after, hafter, ?_⟩
      show Holds before d (.afterUpdate d s'.now (.ok ())) after
      rw [Stage.afterUpdate_ok hfresh]
      exact holds_next hbegins 0 d.segments
  | @post d' index x rest s s₁ answer s' hpause hcall =>
    cases h with
    | posting begins =>
      cases hprogress with
      | posting hrounds hleft =>
        exact ⟨store, (post_session hpause hcall).2.trans hstore,
          holds_afterPost begins (hrounds.length_lt hleft) _ x rest _⟩
  | @record d' index message x rest s answer s' hcall =>
    cases h with
    | @recording ids _ _ _ _ _ _ written room begins =>
      have happend : Change.appendId message (d.standing .publishing ids written) s'.now
          = .ok (d.standing .publishing (ids ++ [message]) s'.now) :=
        d.appendId_standing message room
      obtain ⟨-, after, hafter, hbegins⟩ := begins.made (Run.stores_of_recordId hcall).2
        hfaults hstore (Change.faithful_appendId _) happend
      exact ⟨after, hafter, .remembering hbegins⟩
  | @remember d' index x rest s answer s' hcall =>
    cases h with
    | remembering begins =>
      exact ⟨store, (Run.session_of_remember hcall).2.trans hstore, holds_next begins _ rest⟩
  | @finalize d' message s answer s' hcall =>
    cases h with
    | @finishing status ids _ _ changed written move begins =>
      cases hprogress with
      | finishing hconcluded =>
        have hfinish : Change.finishAs (d.standing status ids changed)
            (d.standing .publishing ids written) s'.now = .ok (d.standing status ids s'.now) :=
          d.finishAs_standing move hconcluded.isTerminal
        obtain ⟨-, after, hafter, hbegins⟩ := begins.made (Run.stores_of_finalize hcall).2
          hfaults hstore (Change.faithful_finishAs _) hfinish
        exact ⟨after, hafter, .finished (hconcluded.settled hsegments _) hbegins⟩

/-- **The records at every moment of an attempt** are those of its stage. -/
theorem holds_of_reaches {topic : Option String} {segments : List Segment} {s : Session}
    {m : Moment} {events : List Event} (h : Reaches (first topic segments s) events m)
    (hstore : s.drafts = .memory before) (hsegments : segments ≠ []) (hfaults : s.faults = .none) :
    ∃ store, m.session.drafts = .memory store ∧
      Holds before (draftOf topic segments s) m.stage store := by
  induction h with
  | here => exact ⟨before, hstore, .opening⟩
  | @step events m e m' reaches hstep ih =>
    obtain ⟨store, hmemory, hholds⟩ := ih
    have hnotes := reaches.notes_first
    exact hholds.step hmemory (progress_of_reaches reaches) hstep rfl hsegments
      (hnotes.faults.trans hfaults)

end holds

/-! ## The record of a whole attempt -/

/-- What an attempt in a session says of the record that it leaves: it is settled, and in agreement
with the result.  It is still being published where the attempt has been cut short, by a post
that was not answered. -/
def Leaves (s : Session) : Except Halt Publication → Draft → Prop
  | .ok p, r => r.Settled ∧ Agrees p r
  | .error _, r =>
    ¬ s.Answered ∧ r.status = .publishing ∧ r.messageIds.length < r.segments.length

/-- What becomes of the records by an attempt about a topic in a session: nothing, or one is begun
under an id of the supply. -/
inductive Becomes (s : Session) (topic : Option String) (outcome : Except Halt Publication)
    (before : MemoryDrafts) : MemoryDrafts → Prop
  | same : Becomes s topic outcome before before
  | one {r after} (begins : Begins before r after) (named : ∃ n, r.id = s.ids n)
      (about : r.topic = topic) (leaves : Leaves s outcome r) :
      Becomes s topic outcome before after

section becomes

variable {before after : MemoryDrafts} {s s' : Session} {topic : Option String}
  {outcome : Except Halt Publication}

/-- What is said of a session holds of an earlier one. -/
theorem Leaves.earlier {r : Draft} (h : Leaves s' outcome r)
    (hanswered : s.Answered → s'.Answered) : Leaves s outcome r := by
  cases outcome with
  | ok p => exact h
  | error halt => exact ⟨fun hs => h.1 (hanswered hs), h.2⟩

/-- What is said of a session holds of an earlier one with the same supply of ids. -/
theorem Becomes.earlier (h : Becomes s' topic outcome before after) (hids : s'.ids = s.ids)
    (hanswered : s.Answered → s'.Answered) : Becomes s topic outcome before after := by
  cases h with
  | same => exact .same
  | one begins named about leaves =>
    rw [hids] at named
    exact .one begins named about (leaves.earlier hanswered)

/-- What the records are at the end of an attempt. -/
theorem Holds.becomes {d : Draft} (h : Holds before d (.ended outcome) after)
    (hid : ∃ n, d.id = s.ids n) (hcut : ∀ halt, outcome = .error halt → ¬ s.Answered) :
    Becomes s d.topic outcome before after := by
  cases h with
  | unsaved => exact .same
  | @finished status ids message _ _ written settled begins =>
    exact .one begins hid rfl ⟨settled, agrees_ofDraft (d.standing status ids written) message⟩
  | @cut halt _ _ _ room begins => exact .one begins hid rfl ⟨hcut halt rfl, rfl, room⟩

/-- **What an attempt makes of records in memory** where no call fails: none of those that were
there is changed, and the one that it begins is settled unless it has been cut short. -/
theorem publishAbout_inMemory (hstore : s.drafts = .memory before) (hfaults : s.faults = .none)
    (topic : Option String) (segments : List Segment) :
    ∃ after, (publishAbout topic segments s).2.drafts = .memory after ∧
      Becomes s topic (publishAbout topic segments s).1 before after := by
  cases hrejection : rejection? s.settings.thread.maxSegmentChars segments with
  | some reason =>
    rw [publishAbout_rejected hrejection]
    exact ⟨before, hstore, .same⟩
  | none =>
    have hsegments := (rejection?_eq_none_iff.1 hrejection).1
    obtain ⟨events, hpath⟩ := publishAbout_reaches topic hrejection
    obtain ⟨after, hafter, hholds⟩ := holds_of_reaches hpath hstore hsegments hfaults
    refine ⟨after, hafter, hholds.becomes ⟨s.idsTaken, rfl⟩ ?_⟩
    intro halt hhalted hanswered
    exact (publishAbout_answered hanswered topic segments).1 halt hhalted

end becomes

end Attempt

end PostingTerminal
