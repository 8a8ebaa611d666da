import PostingTerminal.Proofs.Draft.Codec
import PostingTerminal.Store.Drafts

/-!
# What a change does to a draft

A draft is changed in three ways: it moves to another status, it takes the id of a message,
and, as the record of a store, it takes status and ids from a draft that is finished.

* `moveTo_eq_ok_iff`, `appendId_eq_ok_iff`, `finishAs_eq_ok_iff` — when such a change is
  allowed, and what it leaves.
* `SameThread` — two drafts are of one thread: they differ in status, ids and the time of
  the last change at most.  Every change leaves a draft of the same thread.
* `DraftStatus.Leads` — the four ways from one status to another.
-/

namespace PostingTerminal

/-- One status leads to another. -/
inductive DraftStatus.Leads : DraftStatus → DraftStatus → Prop
  | start : Leads .draft .publishing
  | giveUp : Leads .draft .failed
  | succeed : Leads .publishing .published
  | breakOff : Leads .publishing .failed

/-- A draft may move from one status to another exactly if the one leads to the other. -/
theorem DraftStatus.canMoveTo_iff_leads {status next : DraftStatus} :
    status.canMoveTo next = true ↔ status.Leads next := by
  constructor
  · intro h
    cases status <;> cases next <;> first | constructor | cases h
  · intro h
    cases h <;> rfl

namespace Draft

variable {d d' finished : Draft} {now : Timestamp}

/-- A draft moves where its status may move, and takes status and time. -/
theorem moveTo_eq_ok_iff {next : DraftStatus} :
    d.moveTo next now = .ok d' ↔
      d.status.canMoveTo next = true ∧ d' = { d with status := next, updatedAt := now } := by
  unfold moveTo
  by_cases hmove : d.status.canMoveTo next = true
  · rw [if_pos hmove, Except.ok.injEq]
    exact ⟨fun h => ⟨hmove, h.symm⟩, fun h => h.2.symm⟩
  · rw [if_neg hmove]
    exact ⟨fun h => (by cases h), fun h => absurd h.1 hmove⟩

/-- A draft that is being published and has a segment left takes the id and the time. -/
theorem appendId_eq_ok_iff {message : MessageId} :
    d.appendId message now = .ok d' ↔
      d.status = .publishing ∧ d.messageIds.length < d.segments.length ∧
        d' = { d with messageIds := d.messageIds ++ [message], updatedAt := now } := by
  unfold appendId
  by_cases hstatus : d.status = .publishing
  · by_cases hroom : d.messageIds.length < d.segments.length
    · rw [if_neg (not_not_intro hstatus), if_neg (Nat.not_le.2 hroom), Except.ok.injEq]
      exact ⟨fun h => ⟨hstatus, hroom, h.symm⟩, fun h => h.2.2.symm⟩
    · rw [if_neg (not_not_intro hstatus), if_pos (Nat.not_lt.1 hroom)]
      exact ⟨fun h => (by cases h), fun h => absurd h.2.1 hroom⟩
  · rw [if_pos hstatus]
    exact ⟨fun h => (by cases h), fun h => absurd h.1 hstatus⟩

/-- A record takes status and ids from a draft whose status is final and can be reached. -/
theorem finishAs_eq_ok_iff :
    d.finishAs finished now = .ok d' ↔
      finished.status.isTerminal = true ∧ d.status.canMoveTo finished.status = true ∧
        d' = { d with
          status := finished.status, messageIds := finished.messageIds, updatedAt := now } := by
  unfold finishAs
  by_cases hfinal : finished.status.isTerminal = true
  · rw [if_pos hfinal]
    rcases hmove : d.moveTo finished.status now with e | moved
    · have hrefused : ¬ d.status.canMoveTo finished.status = true := by
        intro hcan
        rw [moveTo_eq_ok_iff.2 ⟨hcan, rfl⟩] at hmove
        cases hmove
      exact ⟨fun h => (by cases h), fun h => absurd h.2.1 hrefused⟩
    · obtain ⟨hcan, rfl⟩ := moveTo_eq_ok_iff.1 hmove
      constructor
      · intro h
        exact ⟨hfinal, hcan, (Except.ok.inj h).symm⟩
      · rintro ⟨-, -, rfl⟩
        rfl
  · rw [if_neg hfinal]
    exact ⟨fun h => (by cases h), fun h => absurd h.1 hfinal⟩

/-- Two drafts are of one thread. -/
structure SameThread (d d' : Draft) : Prop where
  id : d'.id = d.id
  topic : d'.topic = d.topic
  segments : d'.segments = d.segments
  createdAt : d'.createdAt = d.createdAt

/-- A draft is of its own thread. -/
theorem SameThread.refl (d : Draft) : SameThread d d := ⟨rfl, rfl, rfl, rfl⟩

/-- Two changes within a thread are one. -/
theorem SameThread.trans {d'' : Draft} (h : SameThread d d') (h' : SameThread d' d'') :
    SameThread d d'' :=
  ⟨h'.id.trans h.id, h'.topic.trans h.topic, h'.segments.trans h.segments,
    h'.createdAt.trans h.createdAt⟩

/-- Of the times of a draft only the last one has to be looked at again. -/
theorem SameThread.fitsWord (h : SameThread d d') (hfits : d.FitsWord)
    (hnow : d'.updatedAt ≤ Json.maxWord) : d'.FitsWord :=
  ⟨by rw [h.createdAt]; exact hfits.createdAt, hnow⟩

end Draft

namespace Store

/-- A change is faithful: it leaves a draft of the same thread, stamped with the time, whose
status is the same or one that the status before leads to. -/
structure Change.Faithful (change : Change) : Prop where
  sameThread {d d' : Draft} {now : Timestamp} (h : change d now = .ok d') : d.SameThread d'
  stamped {d d' : Draft} {now : Timestamp} (h : change d now = .ok d') : d'.updatedAt = now
  leads {d d' : Draft} {now : Timestamp} (h : change d now = .ok d') :
    d'.status = d.status ∨ d.status.Leads d'.status
  /-- It is refused where the status is final. -/
  refused {d d' : Draft} {now : Timestamp} (h : change d now = .ok d') :
    d.status.isTerminal = false

/-- The stamp that a record gets when it is written is the one that the change has given it. -/
theorem Change.Faithful.restamp {change : Change} {d d' : Draft} {now : Timestamp}
    (h : change.Faithful) (hchange : change d now = .ok d') :
    { d' with updatedAt := now } = d' := by
  rw [← h.stamped hchange]

/-- A status that may be left is not final. -/
theorem not_isTerminal_of_canMoveTo {status next : DraftStatus}
    (h : status.canMoveTo next = true) : status.isTerminal = false := by
  cases hfinal : status.isTerminal with
  | false => rfl
  | true => rw [DraftStatus.canMoveTo_of_isTerminal hfinal next] at h; cases h

/-- Moving to another status is faithful. -/
theorem Change.faithful_moveTo (next : DraftStatus) : (Change.moveTo next).Faithful where
  sameThread h := by obtain ⟨-, rfl⟩ := Draft.moveTo_eq_ok_iff.1 h; exact ⟨rfl, rfl, rfl, rfl⟩
  stamped h := by obtain ⟨-, rfl⟩ := Draft.moveTo_eq_ok_iff.1 h; rfl
  leads h := by
    obtain ⟨hcan, rfl⟩ := Draft.moveTo_eq_ok_iff.1 h
    exact .inr (DraftStatus.canMoveTo_iff_leads.1 hcan)
  refused h := not_isTerminal_of_canMoveTo (Draft.moveTo_eq_ok_iff.1 h).1

/-- Appending an id is faithful. -/
theorem Change.faithful_appendId (message : MessageId) : (Change.appendId message).Faithful where
  sameThread h := by obtain ⟨-, -, rfl⟩ := Draft.appendId_eq_ok_iff.1 h; exact ⟨rfl, rfl, rfl, rfl⟩
  stamped h := by obtain ⟨-, -, rfl⟩ := Draft.appendId_eq_ok_iff.1 h; rfl
  leads h := by obtain ⟨-, -, rfl⟩ := Draft.appendId_eq_ok_iff.1 h; exact .inl rfl
  refused h := by rw [(Draft.appendId_eq_ok_iff.1 h).1]; rfl

/-- Finishing is faithful. -/
theorem Change.faithful_finishAs (finished : Draft) : (Change.finishAs finished).Faithful where
  sameThread h := by obtain ⟨-, -, rfl⟩ := Draft.finishAs_eq_ok_iff.1 h; exact ⟨rfl, rfl, rfl, rfl⟩
  stamped h := by obtain ⟨-, -, rfl⟩ := Draft.finishAs_eq_ok_iff.1 h; rfl
  leads h := by
    obtain ⟨-, hcan, rfl⟩ := Draft.finishAs_eq_ok_iff.1 h
    exact .inr (DraftStatus.canMoveTo_iff_leads.1 hcan)
  refused h := not_isTerminal_of_canMoveTo (Draft.finishAs_eq_ok_iff.1 h).2.1

end Store

end PostingTerminal
