import PostingTerminal.Proofs.Attempt.Record

/-!
# The terminal write

An attempt whose record has been begun and that comes to its end finishes the record, once.
Unless the call that does so is made to fail, it is not refused, and the record then says
what the result of the attempt says: also where the record could not be marked as being
published, and where ids could not be recorded on the way.

* `Agrees` — a result says of a draft what the draft says of itself.
* `terminal_write` — **the terminal write of every attempt lands and agrees with its result**,
  for records in memory and in files.
-/

namespace PostingTerminal.Attempt

open Store (Drafts)

/-- The result of an attempt agrees with a draft. -/
structure Agrees (p : Publication) (d : Draft) : Prop where
  draftId : p.draftId = some d.id
  status : p.status = some d.status
  messageIds : p.messageIds = d.messageIds
  segments : p.segments = d.segments
  threadId : p.threadId = d.threadId

/-- A result agrees with the draft that it is made from. -/
theorem agrees_ofDraft (d : Draft) (message : String) : Agrees (.ofDraft d message) d :=
  ⟨rfl, rfl, rfl, rfl, rfl⟩

/-- The calls that finish a record among the calls of events. -/
theorem finalizes_eq_countP (events : List Event) :
    ((events.map Event.call).filter fun c => c.method? == some .finalize).length
      = events.countP Event.finishes := by
  induction events with
  | nil => rfl
  | cons e rest ih =>
    rw [List.map_cons]
    cases e with
    | finalized d answer =>
      rw [List.countP_cons_of_pos rfl, ← ih]
      rfl
    | _ => exact ih

/-- An attempt that is about to finish its draft has not finished any record yet. -/
theorem callCount_finishing {topic : Option String} {segments : List Segment} {s s' : Session}
    {events : List Event} {d : Draft} {message : String}
    (h : Reaches (first topic segments s) events ⟨.finishing d message, s'⟩) :
    s'.callCount .finalize = s.callCount .finalize := by
  have hcount := h.notes_first.callCount .finalize
  rw [finalizes_eq_countP] at hcount
  cases progress_of_reaches h with
  | finishing hconcluded =>
    rw [hconcluded.counts.2] at hcount
    exact hcount

/-- What has become of the record when an attempt that leaves a session comes to its end. -/
def Recorded (topic : Option String) (events : List Event) :
    Except Halt Publication × Session → Prop
  -- it has been finished once, without a refusal, and is what the result says; the time in it is
  -- that of this last call
  | (.ok p, s') => ∃ d, .finalized d (.ok ()) ∈ events ∧
      (∀ d' answer, .finalized d' answer ∈ events → d' = d ∧ answer = .ok ()) ∧
      let r := { d with updatedAt := s'.now }
      (∃ id, p.draftId = some id ∧ (Drafts.fetch id s'.drafts).1 = .ok (some r)) ∧
        Agrees p r ∧ r.topic = topic ∧ p.messageIds = yieldedOf events
  -- it is not finished only if the last post has never been answered
  | (.error halt, _) => ∃ p, (postsOf events).getLast? = some p ∧ p.answer = .lost halt

section run

variable {topic : Option String} {segments : List Segment} {s s₁ : Session}

/-- A write that finishes a record where none has been finished before is the only one. -/
theorem finalized_once {events : List Event} {d d' : Draft} {answer answer' : Except Error Unit}
    (hbefore : events.countP Event.finishes = 0)
    (hmem : .finalized d answer ∈ events ++ [.finalized d' answer']) :
    d = d' ∧ answer = answer' := by
  rcases List.mem_append.1 hmem with hmem | hmem
  · exact absurd rfl (List.countP_eq_zero.1 hbefore _ hmem)
  · rw [List.mem_singleton] at hmem
    cases hmem
    exact ⟨rfl, rfl⟩

/-- The last call of an attempt that has finished its draft lands if it is not made to fail, and
stamps the record with its time. -/
theorem finalized_lands {events : List Event} {d : Draft} {answer : Except Error Unit}
    {result : Except Halt Publication} {s' : Session} (hclock : ∀ n, s.clock n ≤ Json.maxWord)
    (hfault : s.faults .finalize (s.callCount .finalize) = none)
    (hpath : Reaches (first topic segments s) (events ++ [.finalized d answer])
      ⟨.ended result, s'⟩)
    (hpersisted : .persisted (draftOf topic segments s) (.ok ()) ∈ events) :
    answer = .ok () ∧ s'.drafts.Keeps { d with updatedAt := s'.now } := by
  have hnow : s'.now ≤ Json.maxWord := by
    rw [show s'.now = _ from hpath.notes_first.now]
    exact hclock _
  obtain ⟨⟨stage, s₂⟩, hbefore, hlast⟩ := hpath.last
  have hnotes := hbefore.notes_first
  obtain ⟨status, ids, hkept⟩ := kept_of_reaches hbefore hclock hpersisted
  cases hlast with
  | @finalize _ message _ _ _ hcall =>
    obtain ⟨time, next, ids', changed, rfl, hchanges⟩ := hkept.finalize_changes
      (progress_of_reaches hbefore) hcall (fitsWord_draftOf hclock) hnow
    have hnone : s₂.faults .finalize (s₂.callCount .finalize) = none := by
      rw [hnotes.faults, callCount_finishing hbefore]
      exact hfault
    cases hchanges with
    | made _ hkeeps => exact ⟨rfl, hkeeps⟩
    | failed h => rw [hnone] at h; cases h
    | lost h => rw [hnone] at h; cases h

/-- **The terminal write lands and agrees with the result.**  If segments are attempted and
the record of the draft has been begun, by a clock that shows times that can be written, and the
call that finishes a record is not made to fail, then the attempt comes to its end with the record
finished, in agreement with its result and with every id that was yielded. -/
theorem terminal_write (hclock : ∀ n, s.clock n ≤ Json.maxWord) (hsegments : segments ≠ [])
    (hlimit : ∀ x ∈ segments, x.charCount ≤ s.settings.thread.maxSegmentChars)
    (hpersist : Run.persist (draftOf topic segments s) (first topic segments s).session
      = (.ok (.ok ()), s₁))
    (hfault : s.faults .finalize (s.callCount .finalize) = none) :
    ∃ events, Reaches (first topic segments s) events (.ofResult (publishAbout topic segments s)) ∧
      Recorded topic events (publishAbout topic segments s) := by
  have haccepted := rejection?_eq_none_iff.2 ⟨hsegments, hlimit⟩
  obtain ⟨events, hpath⟩ := publishAbout_reaches topic haccepted
  refine ⟨events, hpath, ?_⟩
  rcases hrun : publishAbout topic segments s with ⟨result, s'⟩
  rw [hrun] at hpath
  have hcourse : Course (draftOf topic segments s) result events := course_of_reaches hpath
  cases hcourse with
  | unsaved e =>
    obtain ⟨rest, -, hbegun⟩ := hpath.of_step (.persist hpersist) (by simp)
    cases hbegun
  | lost h left halt => exact (Course.lost h left halt).lost_post
  | @finished status ids message events hconcluded time answer =>
    obtain ⟨rfl, hkeeps⟩ := finalized_lands hclock hfault hpath hconcluded.persisted
    refine ⟨(draftOf topic segments s).standing status ids time, by simp,
      fun _ _ => finalized_once hconcluded.counts.2, ⟨_, rfl, hkeeps.fetch⟩,
      agrees_ofDraft ((draftOf topic segments s).standing status ids s'.now) message, rfl,
      (Course.finished hconcluded time (.ok ())).yielded⟩

/-- A session in which no record can be marked as being published and no id can be written. -/
def unmarkedSession : Session :=
  emptySession (.scripted .posting) fun m _ =>
    if m = .update ∨ m = .record then some ⟨false, .handler "full"⟩ else none

/-- The record of an attempt with one segment is finished there. -/
theorem terminal_write_unmarked :
    ∃ events, Reaches (first none [.ofText "a"] unmarkedSession) events
        (.ofResult (publishAbout none [.ofText "a"] unmarkedSession)) ∧
      Recorded none events (publishAbout none [.ofText "a"] unmarkedSession) :=
  terminal_write (fun _ => Nat.zero_le _) (by simp) (by decide) rfl rfl

end run

end PostingTerminal.Attempt
