import Mathlib.Data.List.Induction
import PostingTerminal.Proofs.Store.Refused

/-!
# The life of a draft

A draft that has just been written is called upon to move to another status and to take the ids of
messages, in any order and however often.  It is changed in its place, one field after the other,
and may refuse each call.  What it has become follows from the calls that it has accepted.

* `Draft.after`, `Draft.accepted` — the draft after calls, and those that it has accepted.
* `Draft.accepted_induction` — what holds of a draft and of the calls it has accepted, if accepting
  one more call keeps it.
* `Draft.Course` — the calls that a new draft can have accepted, by the status they have led to:
  the ids stand between the move to `publishing` and the move to a final status (`course_after`).
* `Draft.Life` — what a draft has become after calls: its ids, its segments without ids, its times,
  and what it will accept.
* `Draft.life_of_new` — **the life of a new draft**, whatever it is called upon to do.
-/

namespace PostingTerminal.Draft

/-! ## Calls -/

/-- A call on a draft, with the time that the clock shows. -/
inductive Call where
  | moveTo (next : DraftStatus) (now : Timestamp)
  | appendId (message : MessageId) (now : Timestamp)
  deriving DecidableEq, Repr

namespace Call

/-- What a call does to the draft in its place. -/
def edit : Call → Store.Edit
  | moveTo next now => .moveTo next now
  | appendId message now => .appendId message now

/-- The change that a call asks for. -/
def change : Call → Store.Change
  | moveTo next _ => .moveTo next
  | appendId message _ => .appendId message

/-- The time of a call. -/
def now : Call → Timestamp
  | moveTo _ now => now
  | appendId _ now => now

/-- The id that a call brings. -/
def message? : Call → Option MessageId
  | moveTo _ _ => none
  | appendId message _ => some message

end Call

/-- What a draft answers to a call. -/
def answer (d : Draft) (c : Call) : Except Error Unit := (c.edit.run.run d).1

/-- A draft after a call, whether it has accepted it or not. -/
def step (d : Draft) (c : Call) : Draft := (c.edit.run.run d).2

/-- A draft after calls. -/
def after (d : Draft) (calls : List Call) : Draft := calls.foldl step d

/-- The calls that a draft accepts when they are made one after the other. -/
def accepted (d : Draft) : List Call → List Call
  | [] => []
  | c :: calls =>
    match d.answer c with
    | .ok () => c :: (d.step c).accepted calls
    | .error _ => (d.step c).accepted calls

variable {d d' start : Draft} {c : Call} {calls : List Call} {e : Error} {status : DraftStatus}

/-- A call performs the change that it asks for, or leaves the draft as it was. -/
theorem run_edit (c : Call) (d : Draft) : c.edit.run.run d =
    match c.change d c.now with
    | .ok d' => (.ok (), d')
    | .error e => (.error e, d) := by
  cases c with
  | moveTo next now => exact Store.Edit.performs_moveTo next d now
  | appendId message now => exact Store.Edit.performs_appendId message d now

/-- A call is accepted where its change is allowed. -/
theorem of_change_ok (h : c.change d c.now = .ok d') : d.answer c = .ok () ∧ d.step c = d' := by
  rw [answer, step, run_edit, h]
  exact ⟨rfl, rfl⟩

/-- A call is refused where its change is, and nothing has been written by then. -/
theorem of_change_error (h : c.change d c.now = .error e) :
    d.answer c = .error e ∧ d.step c = d := by
  rw [answer, step, run_edit, h]
  exact ⟨rfl, rfl⟩

/-- A call that is refused leaves the draft as it was. -/
theorem step_of_refused (h : d.answer c = .error e) : d.step c = d := by
  cases hc : c.change d c.now with
  | ok d' => cases h.symm.trans (of_change_ok hc).1
  | error e' => exact (of_change_error hc).2

/-- The last call is made at what the calls before it have left. -/
theorem after_concat (d : Draft) (calls : List Call) (c : Call) :
    d.after (calls ++ [c]) = (d.after calls).step c :=
  List.foldl_concat step d c calls

/-- The last call is accepted or not by what the calls before it have left. -/
theorem accepted_concat (d : Draft) (calls : List Call) (c : Call) :
    d.accepted (calls ++ [c]) = d.accepted calls ++ (d.after calls).accepted [c] := by
  induction calls generalizing d with
  | nil => rfl
  | cons first calls ih =>
    rw [List.cons_append, after, List.foldl_cons, ← after, accepted, accepted, ih]
    cases d.answer first <;> rfl

/-- What holds of a draft and of the calls it has accepted, if it holds at first and accepting one
more call keeps it. -/
theorem accepted_induction {P : List Call → Draft → Prop} (hstart : P [] start)
    (haccept : ∀ {calls d c d'}, P calls d → c.change d c.now = .ok d' → P (calls ++ [c]) d')
    (calls : List Call) : P (start.accepted calls) (start.after calls) := by
  induction calls using List.reverseRecOn with
  | nil => exact hstart
  | append_singleton calls c ih =>
    rw [accepted_concat, after_concat]
    cases hc : c.change (start.after calls) c.now with
    | ok d' =>
      obtain ⟨hanswer, hstep⟩ := of_change_ok hc
      rw [accepted, hanswer, hstep]
      exact haccept ih hc
    | error e =>
      obtain ⟨hanswer, hstep⟩ := of_change_error hc
      rw [accepted, hanswer, hstep, accepted, List.append_nil]
      exact ih

/-! ## One draft, one call -/

/-- What a call asks for is a faithful change. -/
theorem Call.faithful (c : Call) : c.change.Faithful := by
  cases c with
  | moveTo next now => exact Store.Change.faithful_moveTo next
  | appendId message now => exact Store.Change.faithful_appendId message

/-- A call that is accepted adds the id it brings. -/
theorem messageIds_of_ok (h : c.change d c.now = .ok d') :
    d'.messageIds = d.messageIds ++ c.message?.toList := by
  cases c with
  | moveTo next now =>
    obtain ⟨-, rfl⟩ := moveTo_eq_ok_iff.1 h
    exact (List.append_nil _).symm
  | appendId message now =>
    obtain ⟨-, -, rfl⟩ := appendId_eq_ok_iff.1 h
    rfl

/-- A call is accepted only where a segment is left for the id it brings. -/
theorem idsFit_of_ok (hfit : d.messageIds.length ≤ d.segments.length)
    (h : c.change d c.now = .ok d') : d'.messageIds.length ≤ d'.segments.length := by
  cases c with
  | moveTo next now =>
    obtain ⟨-, rfl⟩ := moveTo_eq_ok_iff.1 h
    exact hfit
  | appendId message now =>
    obtain ⟨-, hroom, rfl⟩ := appendId_eq_ok_iff.1 h
    show (d.messageIds ++ [message]).length ≤ d.segments.length
    rw [List.length_append]
    exact hroom

/-- An id is accepted by a draft that is being published and has a segment left. -/
theorem answer_appendId_iff {message : MessageId} {now : Timestamp} :
    d.answer (.appendId message now) = .ok () ↔
      d.status = .publishing ∧ d.messageIds.length < d.segments.length := by
  constructor
  · intro h
    cases hc : d.appendId message now with
    | ok d' =>
      obtain ⟨hstatus, hroom, -⟩ := appendId_eq_ok_iff.1 hc
      exact ⟨hstatus, hroom⟩
    | error e =>
      have hrefused := (of_change_error (c := .appendId message now) hc).1
      cases hrefused.symm.trans h
  · rintro ⟨hstatus, hroom⟩
    have hc : d.appendId message now = .ok _ := appendId_eq_ok_iff.2 ⟨hstatus, hroom, rfl⟩
    exact (of_change_ok (c := .appendId message now) hc).1

/-- A draft with a final status refuses every call. -/
theorem answer_of_isTerminal (h : d.status.isTerminal = true) (c : Call) :
    ∃ e, d.answer c = .error e := by
  cases hc : c.change d c.now with
  | error e => exact ⟨e, (of_change_error hc).1⟩
  | ok d' =>
    rw [c.faithful.refused hc] at h
    cases h

/-- The segments are those that have an id, followed by those that have none. -/
theorem unposted_of_idsFit (hfit : d.messageIds.length ≤ d.segments.length) :
    ∃ rest, d.unposted? = some rest ∧ d.segments = d.segments.take d.messageIds.length ++ rest ∧
      d.segments.length = d.messageIds.length + rest.length := by
  refine ⟨_, if_pos hfit, (List.take_append_drop ..).symm, ?_⟩
  rw [List.length_drop]
  omega

/-! ## The calls that are accepted -/

/-- The calls that a new draft has accepted, and its status: none; one that has given it up; one
that has begun its publication, and ids; or these and one that has ended it. -/
inductive Course : List Call → DraftStatus → Prop
  | written : Course [] .draft
  | givenUp (now : Timestamp) : Course [.moveTo .failed now] .failed
  | begun (now : Timestamp) {ids : List Call} (hids : ∀ c ∈ ids, c.message?.isSome) :
      Course (.moveTo .publishing now :: ids) .publishing
  | ended (now : Timestamp) {ids : List Call} (hids : ∀ c ∈ ids, c.message?.isSome)
      {final : DraftStatus} (hfinal : final.isTerminal = true) (now' : Timestamp) :
      Course (.moveTo .publishing now :: (ids ++ [.moveTo final now'])) final

/-- One of the calls has begun the publication. -/
def Begun (calls : List Call) : Prop := ∃ now, Call.moveTo .publishing now ∈ calls

/-- One of the calls has led to a final status. -/
def Ended (calls : List Call) : Prop :=
  ∃ final now, Call.moveTo final now ∈ calls ∧ final.isTerminal = true

/-- Accepting one more call goes on with the course. -/
theorem Course.accept (h : Course calls d.status) (hc : c.change d c.now = .ok d') :
    Course (calls ++ [c]) d'.status := by
  cases c with
  | moveTo next now =>
    obtain ⟨hcan, rfl⟩ := moveTo_eq_ok_iff.1 hc
    have hleads := DraftStatus.canMoveTo_iff_leads.1 hcan
    show Course _ next
    generalize d.status = status at h hleads
    cases hleads with
    | start =>
      cases h with
      | written => exact .begun now (by simp)
      | ended _ _ hfinal => cases hfinal
    | giveUp =>
      cases h with
      | written => exact .givenUp now
      | ended _ _ hfinal => cases hfinal
    | succeed =>
      cases h with
      | begun started hids => exact .ended started hids rfl now
      | ended _ _ hfinal => cases hfinal
    | breakOff =>
      cases h with
      | begun started hids => exact .ended started hids rfl now
      | ended _ _ hfinal => cases hfinal
  | appendId message now =>
    obtain ⟨hstatus, -, rfl⟩ := appendId_eq_ok_iff.1 hc
    show Course _ d.status
    rw [hstatus] at h ⊢
    cases h with
    | begun started hids =>
      refine .begun started ?_
      intro c hmem
      rcases List.mem_append.1 hmem with hmem | hmem
      · exact hids c hmem
      · rw [List.mem_singleton.1 hmem]
        rfl
    | ended _ _ hfinal => cases hfinal

/-- A new draft keeps to the course. -/
theorem course_after (hstart : start.status = .draft) (calls : List Call) :
    Course (start.accepted calls) (start.after calls).status :=
  accepted_induction (P := fun calls d => Course calls d.status) (hstart ▸ .written)
    Course.accept calls

/-- A call that brings an id is not a move. -/
theorem moveTo_notMem {ids : List Call} (hids : ∀ c ∈ ids, c.message?.isSome)
    (next : DraftStatus) (now : Timestamp) : Call.moveTo next now ∉ ids :=
  fun hmem => by cases hids _ hmem

/-- The status is final exactly if the publication has ended. -/
theorem Course.isTerminal_iff (h : Course calls status) :
    status.isTerminal = true ↔ Ended calls := by
  cases h with
  | written => simp [Ended, DraftStatus.isTerminal]
  | givenUp now => simp [Ended, DraftStatus.isTerminal]
  | begun now hids => simp [Ended, moveTo_notMem hids, DraftStatus.isTerminal]
  | ended now hids hfinal now' =>
    exact ⟨fun _ => ⟨_, now', by simp, hfinal⟩, fun _ => hfinal⟩

/-- A draft is being published exactly if its publication has begun and not ended. -/
theorem Course.eq_publishing_iff (h : Course calls status) :
    status = .publishing ↔ Begun calls ∧ ¬ Ended calls := by
  rw [← h.isTerminal_iff]
  cases h with
  | written => simp [Begun]
  | givenUp now => simp [DraftStatus.isTerminal]
  | begun now hids => simp [Begun, DraftStatus.isTerminal]
  | ended now hids hfinal now' =>
    simp only [hfinal, not_true_eq_false, and_false, iff_false]
    rintro rfl
    cases hfinal

/-! ## The life of a new draft -/

/-- What a draft has become after calls. -/
structure Life (start : Draft) (calls : List Call) : Prop where
  /-- Its ids are those it has accepted, in their order. -/
  ids : (start.after calls).messageIds = (start.accepted calls).filterMap Call.message?
  /-- There are no more of them than segments. -/
  idsFit : (start.after calls).messageIds.length ≤ start.segments.length
  /-- The segments are those that have an id, followed by those that have none. -/
  unposted : ∃ rest, (start.after calls).unposted? = some rest ∧
    start.segments = start.segments.take (start.after calls).messageIds.length ++ rest ∧
      start.segments.length = (start.after calls).messageIds.length + rest.length
  /-- It has accepted ids between the move that begins its publication and the one that ends it. -/
  course : Course (start.accepted calls) (start.after calls).status
  /-- It accepts an id where its publication has begun and not ended, and a segment is left. -/
  takes (message : MessageId) (now : Timestamp) :
    (start.after calls).answer (.appendId message now) = .ok () ↔
      Begun (start.accepted calls) ∧ ¬ Ended (start.accepted calls) ∧
        (start.after calls).messageIds.length < start.segments.length
  /-- A call that it refuses leaves it as it is. -/
  refused {c : Call} {e : Error} (h : (start.after calls).answer c = .error e) :
    start.after (calls ++ [c]) = start.after calls
  /-- The time of its last change is that of the last call it has accepted. -/
  stamped : (start.after calls).updatedAt =
    ((start.accepted calls).getLast?.map Call.now).getD start.updatedAt
  /-- Its status is final exactly if it has accepted a move to a final one. -/
  ended : (start.after calls).status.isTerminal = true ↔ Ended (start.accepted calls)
  /-- Where its status is final, it refuses every call. -/
  closed (h : (start.after calls).status.isTerminal = true) (c : Call) :
    ∃ e, (start.after calls).answer c = .error e
  /-- It is of the same thread. -/
  sameThread : start.SameThread (start.after calls)

/-- Calls leave the thread of a draft. -/
theorem sameThread_after (start : Draft) (calls : List Call) :
    start.SameThread (start.after calls) := by
  refine accepted_induction (P := fun _ d => start.SameThread d) (.refl start) ?_ calls
  intro _ d c d' ih hc
  exact ih.trans (c.faithful.sameThread hc)

/-- The ids of a draft are those of the calls that it has accepted, in order. -/
theorem messageIds_after (hstart : start.messageIds = []) (calls : List Call) :
    (start.after calls).messageIds = (start.accepted calls).filterMap Call.message? := by
  refine accepted_induction (P := fun calls d => d.messageIds = calls.filterMap Call.message?)
    hstart ?_ calls
  intro calls d c d' ih hc
  rw [messageIds_of_ok hc, ih, List.filterMap_append]
  cases c <;> rfl

/-- Calls give a draft no more ids than it has segments. -/
theorem idsFit_after (hstart : start.messageIds.length ≤ start.segments.length)
    (calls : List Call) :
    (start.after calls).messageIds.length ≤ (start.after calls).segments.length :=
  accepted_induction (P := fun _ d => d.messageIds.length ≤ d.segments.length) hstart
    idsFit_of_ok calls

/-- The time of a draft is that of the last call that it has accepted. -/
theorem updatedAt_after (start : Draft) (calls : List Call) : (start.after calls).updatedAt =
    ((start.accepted calls).getLast?.map Call.now).getD start.updatedAt := by
  refine accepted_induction (P := fun calls d =>
    d.updatedAt = (calls.getLast?.map Call.now).getD start.updatedAt) rfl ?_ calls
  intro calls d c d' _ hc
  rw [List.getLast?_concat]
  exact c.faithful.stamped hc

/-- **The life of a new draft**, whatever it is called upon to do and whatever the clock shows. -/
theorem life_of_new (id : DraftId) (segments : List Segment) (topic : Option String)
    (now : Timestamp) (calls : List Call) : Life (.new id segments topic now) calls := by
  let start : Draft := .new id segments topic now
  have hthread := sameThread_after start calls
  have hcourse : Course (start.accepted calls) (start.after calls).status := course_after rfl calls
  have hfit : (start.after calls).messageIds.length ≤ (start.after calls).segments.length :=
    idsFit_after (Nat.zero_le _) calls
  exact
    { ids := messageIds_after rfl calls
      idsFit := hthread.segments ▸ hfit
      unposted := hthread.segments ▸ unposted_of_idsFit hfit
      course := hcourse
      takes := fun message now => by
        rw [answer_appendId_iff, hcourse.eq_publishing_iff, hthread.segments, and_assoc]
      refused := fun h => by rw [after_concat, step_of_refused h]
      stamped := updatedAt_after start calls
      ended := hcourse.isTerminal_iff
      closed := answer_of_isTerminal
      sameThread := hthread }

example :
    let start : Draft := .new ⟨"d"⟩ [.ofText "one", .ofText "two"] none 1
    let calls : List Call := [.appendId ⟨"a"⟩ 2, .moveTo .publishing 3, .appendId ⟨"b"⟩ 4,
      .moveTo .publishing 5, .appendId ⟨"c"⟩ 6, .appendId ⟨"d"⟩ 7, .moveTo .failed 8,
      .moveTo .published 9]
    start.after calls = { start with
      status := .failed, messageIds := [⟨"b"⟩, ⟨"c"⟩], updatedAt := 8 } := by
  decide

end PostingTerminal.Draft
