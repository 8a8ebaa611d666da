import Mathlib.Data.List.Induction
import PostingTerminal.Proofs.Store.Mirror

/-!
# The life of a stored record

A program begins drafts, each under an id of its own, moves them on and gives them ids of
messages, and hands them to a store in any of their states.  Whatever it asks the store to do,
and in whatever order, a record is of the thread that was begun under its id, has no more ids
than segments, goes through the statuses in one direction, and is final once its status is.

* `Draft.Built` — the drafts of a program, by what is begun under each id.
* `Draft.Sound` — what holds of each of them, and of every record (`records_sound`).
* `Effect.fetch_cases`, `Effect.kept` — where a record comes from that a request leaves, and
  what the request does to a record that is there.
* `stored_lifecycle` — **the life of every record**, in memory and in files.

That a record has no more ids than segments does not follow from the store alone: the request
that finishes a record puts the ids of the draft it is given in place of those that are there,
and looks at neither number.  It follows because both drafts are of the thread of one id.
-/

namespace PostingTerminal

/-! ## The drafts of a program -/

/-- What a draft is begun with. -/
structure Beginning where
  segments : List Segment
  topic : Option String
  now : Timestamp

/-- The draft that is begun under an id. -/
def Beginning.draft (b : Beginning) (id : DraftId) : Draft := .new id b.segments b.topic b.now

/-- The drafts that a program has where under each id one draft is begun, at times that can be
written. -/
inductive Draft.Built (begun : DraftId → Beginning) : Draft → Prop
  | new (id : DraftId) (hnow : (begun id).now ≤ Json.maxWord) : Built begun ((begun id).draft id)
  | moved {d d' : Draft} {next : DraftStatus} {now : Timestamp} (h : Built begun d)
      (hnow : now ≤ Json.maxWord) (hmove : d.moveTo next now = .ok d') : Built begun d'
  | appended {d d' : Draft} {message : MessageId} {now : Timestamp} (h : Built begun d)
      (hnow : now ≤ Json.maxWord) (happend : d.appendId message now = .ok d') : Built begun d'

/-- A draft is of the thread that was begun under its id, has no more ids than segments, and its
times can be written. -/
structure Draft.Sound (begun : DraftId → Beginning) (d : Draft) : Prop where
  thread : ((begun d.id).draft d.id).SameThread d
  idsFit : d.messageIds.length ≤ d.segments.length
  fits : d.FitsWord

section sound

variable {begun : DraftId → Beginning} {d d' : Draft} {now : Timestamp}

/-- Drafts of one id that are of its thread have the same segments. -/
theorem Draft.Sound.segments_eq (h : d.Sound begun) (h' : d'.Sound begun) (hid : d'.id = d.id) :
    d'.segments = d.segments := by
  rw [h'.thread.segments, h.thread.segments, hid]

/-- A draft stays sound if it stays of its thread and its ids and times do. -/
theorem Draft.Sound.of_sameThread (h : d.Sound begun) (hthread : d.SameThread d')
    (hids : d'.messageIds.length ≤ d'.segments.length) (hnow : d'.updatedAt ≤ Json.maxWord) :
    d'.Sound begun := by
  refine ⟨?_, hids, hthread.fitsWord h.fits hnow⟩
  rw [hthread.id]
  exact h.thread.trans hthread

/-- A move leaves a sound draft. -/
theorem Draft.Sound.moveTo {next : DraftStatus} (h : d.Sound begun) (hnow : now ≤ Json.maxWord)
    (hmove : d.moveTo next now = .ok d') : d'.Sound begun := by
  obtain ⟨-, rfl⟩ := Draft.moveTo_eq_ok_iff.1 hmove
  exact h.of_sameThread ⟨rfl, rfl, rfl, rfl⟩ h.idsFit hnow

/-- An id that is taken leaves a sound draft: there was a segment for it. -/
theorem Draft.Sound.appendId {message : MessageId} (h : d.Sound begun)
    (hnow : now ≤ Json.maxWord) (happend : d.appendId message now = .ok d') : d'.Sound begun := by
  obtain ⟨-, hroom, rfl⟩ := Draft.appendId_eq_ok_iff.1 happend
  refine h.of_sameThread ⟨rfl, rfl, rfl, rfl⟩ ?_ hnow
  show (d.messageIds ++ [message]).length ≤ d.segments.length
  rw [List.length_append]
  exact hroom

/-- A record that is finished with the ids of a sound draft of its id is sound. -/
theorem Draft.Sound.finishAs {finished : Draft} (h : d.Sound begun)
    (hfinished : finished.Sound begun) (hid : finished.id = d.id) (hnow : now ≤ Json.maxWord)
    (hfinish : d.finishAs finished now = .ok d') : d'.Sound begun := by
  obtain ⟨-, -, rfl⟩ := Draft.finishAs_eq_ok_iff.1 hfinish
  refine h.of_sameThread ⟨rfl, rfl, rfl, rfl⟩ ?_ hnow
  show finished.messageIds.length ≤ d.segments.length
  rw [← h.segments_eq hfinished hid]
  exact hfinished.idsFit

/-- **Every draft of a program is sound.** -/
theorem Draft.Built.sound (h : d.Built begun) : d.Sound begun := by
  induction h with
  | new id hnow => exact ⟨⟨rfl, rfl, rfl, rfl⟩, Nat.zero_le _, hnow, hnow⟩
  | moved _ hnow hmove ih => exact ih.moveTo hnow hmove
  | appended _ hnow happend ih => exact ih.appendId hnow happend

end sound

namespace Store

variable {begun : DraftId → Beginning} {s s' : MemoryDrafts} {r : Request} {reply : Reply}
  {now : Timestamp} {id : DraftId}

/-- An event of a program: what it hands to the store it has built. -/
def Event.IsOf (begun : DraftId → Beginning) : Event → Prop
  | .request r now => (∀ d, r.draft? = some d → d.Built begun) ∧ now ≤ Json.maxWord
  | .reopen => True

/-- The times that a program brings can be written. -/
theorem Event.IsOf.fits {e : Event} (h : e.IsOf begun) : e.Fits := by
  cases e with
  | request r now => exact ⟨fun d hd => (h.1 d hd).sound.fits, h.2⟩
  | reopen => trivial

/-! ## One request -/

/-- A change that a program asks for leaves a sound record. -/
theorem sound_of_change {change : Change} {old new : Draft}
    (hof : (Event.request r now).IsOf begun) (hasks : r.change? = some change)
    (hold : old.Sound begun) (hid : old.id = r.target) (hallowed : change old now = .ok new) :
    new.Sound begun := by
  cases r with
  | persist d => cases hasks
  | update id status => cases hasks; exact hold.moveTo hof.2 hallowed
  | record id message => cases hasks; exact hold.appendId hof.2 hallowed
  | finalize d => cases hasks; exact hold.finishAs (hof.1 d rfl).sound hid.symm hof.2 hallowed
  | fetch id => cases hasks

/-- **A record that a request leaves** is the one that was there, a draft that was begun, or, of
the same thread, one that was changed. -/
theorem Effect.fetch_cases (h : Effect now s r reply s') {d : Draft} (hd : s'.fetch id = some d) :
    s.fetch id = some d ∨ (r = .persist d ∧ reply = .done) ∨
      ∃ change old, r.change? = some change ∧ s.fetch id = some old ∧ id = r.target ∧
        change old now = .ok d := by
  cases h with
  | read _ => exact .inl hd
  | refused _ cause => exact .inl hd
  | @begun begun _ fresh puts =>
    rw [puts id] at hd
    by_cases hid : id = begun.id
    · rw [if_pos hid] at hd
      cases hd
      exact .inr (.inl ⟨rfl, rfl⟩)
    · rw [if_neg hid] at hd
      exact .inl hd
  | @changed _ change old new _ asks found allowed puts =>
    have htarget := Request.id_of_change asks found allowed
    rw [puts id, htarget] at hd
    by_cases hid : id = r.target
    · rw [if_pos hid] at hd
      cases hd
      exact .inr (.inr ⟨change, old, asks, hid ▸ found, hid, allowed⟩)
    · rw [if_neg hid] at hd
      exact .inl hd

/-- **A record that is there** is there after a request: unchanged, or of the same thread and
with a status that its own, which is not final, leads to. -/
theorem Effect.kept (h : Effect now s r reply s') {old : Draft} (hold : s.fetch id = some old) :
    ∃ new, s'.fetch id = some new ∧ (new = old ∨ old.SameThread new ∧
      (new.status = old.status ∨ old.status.Leads new.status) ∧
        old.status.isTerminal = false) := by
  cases h with
  | read _ => exact ⟨old, hold, .inl rfl⟩
  | refused _ cause => exact ⟨old, hold, .inl rfl⟩
  | @begun begun _ fresh puts =>
    refine ⟨old, ?_, .inl rfl⟩
    have hne : id ≠ begun.id := by
      rintro rfl
      rw [fresh] at hold
      cases hold
    rw [puts id, if_neg hne]
    exact hold
  | @changed _ change old' new _ asks found allowed puts =>
    have hfaithful := Request.faithful_of_change? asks
    have htarget := Request.id_of_change asks found allowed
    by_cases hid : id = r.target
    · obtain rfl : old' = old := Option.some.inj (found.symm.trans (hid ▸ hold))
      refine ⟨new, ?_, .inr ⟨hfaithful.sameThread allowed, hfaithful.leads allowed,
        hfaithful.refused allowed⟩⟩
      rw [puts id, htarget, if_pos hid]
    · refine ⟨old, ?_, .inl rfl⟩
      rw [puts id, htarget, if_neg hid]
      exact hold

/-- **A record that is final** lets no request change it: each is refused. -/
theorem Effect.refused_of_final (h : Effect now s r reply s') {old : Draft}
    (hold : s.fetch r.target = some old) (hfinal : old.status.isTerminal = true)
    (hwrite : r.isWrite = true) : ∃ cause, reply = .refused cause := by
  cases h with
  | read _ => cases hwrite
  | refused _ cause => exact ⟨cause, rfl⟩
  | @begun begun _ fresh puts =>
    have hfound : s.fetch begun.id = some old := hold
    rw [fresh] at hfound
    cases hfound
  | @changed _ change old' new _ asks found allowed puts =>
    obtain rfl : old' = old := Option.some.inj (found.symm.trans hold)
    rw [(Request.faithful_of_change? asks).refused allowed] at hfinal
    cases hfinal

/-! ## Every run -/

/-- A store without records. -/
inductive Drafts.Fresh : Drafts → Prop
  | memory : Fresh (.memory .empty)
  | files : Fresh (.files .empty)

/-- A store gives a draft back as the record under an id. -/
def Drafts.Holds (store : Drafts) (id : DraftId) (r : Draft) : Prop :=
  (Drafts.fetch id store).1 = .ok (some r)

/-- A record has been begun with a draft among the events since a store was new. -/
def BegunWith (start : Drafts) (history : List Event) (d : Draft) : Prop :=
  ∃ earlier now later, history = earlier ++ .request (.persist d) now :: later ∧
    ((start.after earlier).answer now (.persist d)).1 = .done

/-- What has been begun stays begun. -/
theorem BegunWith.concat {start : Drafts} {history : List Event} {d : Draft}
    (h : BegunWith start history d) (e : Event) : BegunWith start (history ++ [e]) d := by
  obtain ⟨earlier, now, later, rfl, hdone⟩ := h
  exact ⟨earlier, now, later ++ [e], by simp, hdone⟩

/-- An event leaves the records as they were, or is a request with one of its effects. -/
theorem Drafts.Mirrors.next {store : Drafts} {e : Event} (h : store.Mirrors s) (he : e.Fits) :
    ∃ s', (store.next e).Mirrors s' ∧ (s' = s ∨
      ∃ r now, e = .request r now ∧ Effect now s r (store.answer now r).1 s') := by
  cases e with
  | reopen => exact ⟨s, h.reopen, .inl rfl⟩
  | request r now =>
    obtain ⟨reply, s', rfl, hmirrors, heffect⟩ := h.effect he
    exact ⟨s', hmirrors, .inr ⟨r, now, rfl, heffect⟩⟩

/-- **The records of a run** are sound, and each is of the thread it was begun with.  The
induction is on the events from the last one back: what a record was begun with lies before. -/
theorem records_sound {start : Drafts} (hstart : start.Fresh) (history : List Event)
    (hof : ∀ e ∈ history, e.IsOf begun) :
    ∃ s, (start.after history).Mirrors s ∧ ∀ id r, s.fetch id = some r →
      r.Sound begun ∧ ∃ d, BegunWith start history d ∧ d.SameThread r := by
  induction history using List.reverseRecOn with
  | nil =>
    refine ⟨.empty, ?_, fun id r hr => by cases hr⟩
    cases hstart with
    | memory => rfl
    | files => exact FileDrafts.mirrors_empty
  | append_singleton history e ih =>
    obtain ⟨s, hmirrors, hrecords⟩ := ih fun e' he' => hof e' (List.mem_append_left [e] he')
    have hlast : e.IsOf begun := hof e (by simp)
    obtain ⟨s', hmirrors', heffect⟩ := hmirrors.next hlast.fits
    rw [Drafts.after_concat]
    refine ⟨s', hmirrors', fun id r hr => ?_⟩
    have hbefore {old : Draft} (hold : s.fetch id = some old) : old.Sound begun ∧
        ∃ d, BegunWith start (history ++ [e]) d ∧ d.SameThread old := by
      obtain ⟨hsound, d, hbegun, hthread⟩ := hrecords id old hold
      exact ⟨hsound, d, hbegun.concat e, hthread⟩
    rcases heffect with rfl | ⟨request, now, rfl, heffect⟩
    · exact hbefore hr
    · rcases heffect.fetch_cases hr with hold | ⟨rfl, hdone⟩ |
        ⟨change, old, hasks, hold, hid, hallowed⟩
      · exact hbefore hold
      · -- the last event has begun it
        exact ⟨(hlast.1 r rfl).sound, r, ⟨history, now, [], rfl, hdone⟩, .refl r⟩
      · -- the last event has changed it
        obtain ⟨hsound, d, hbegun, hthread⟩ := hbefore hold
        have htarget : old.id = request.target := (MemoryDrafts.id_of_fetch hold).trans hid
        exact ⟨sound_of_change hlast hasks hsound htarget hallowed, d, hbegun,
          hthread.trans ((Request.faithful_of_change? hasks).sameThread hallowed)⟩

/-- **A final record is never changed again**, whatever follows. -/
theorem final_kept {store : Drafts} (hmirrors : store.Mirrors s) {r : Draft}
    (hr : s.fetch id = some r) (hfinal : r.status.isTerminal = true) (later : List Event)
    (hfits : ∀ e ∈ later, e.Fits) :
    ∃ s', (store.after later).Mirrors s' ∧ s'.fetch id = some r := by
  induction later generalizing store s with
  | nil => exact ⟨s, hmirrors, hr⟩
  | cons e later ih =>
    obtain ⟨s', hmirrors', heffect⟩ := hmirrors.next (hfits e List.mem_cons_self)
    have hkept : s'.fetch id = some r := by
      rcases heffect with rfl | ⟨request, now, -, heffect⟩
      · exact hr
      · obtain ⟨new, hnew, rfl | ⟨-, -, hopen⟩⟩ := heffect.kept hr
        · exact hnew
        · rw [hfinal] at hopen
          cases hopen
    rw [Drafts.after_cons]
    exact ih hmirrors' hkept fun e' he' => hfits e' (List.mem_cons_of_mem e he')

/-- The life of a record that a store holds under an id after a history. -/
structure Life (begun : DraftId → Beginning) (start : Drafts) (history : List Event)
    (id : DraftId) (r : Draft) : Prop where
  /-- It has no more ids than segments. -/
  idsFit : r.messageIds.length ≤ r.segments.length
  /-- It is of the thread of the draft that it was begun with under its id. -/
  thread : ∃ d, BegunWith start history d ∧ d.id = id ∧ d.SameThread r
  /-- Whatever happens next, it stays of its thread, and its status is kept or led on. -/
  moves (e : Event) (he : e.IsOf begun) :
    ∃ r', (start.after (history ++ [e])).Holds id r' ∧ r.SameThread r' ∧
      (r'.status = r.status ∨ r.status.Leads r'.status)
  /-- If its status is final it is never changed again, and no request to do so is granted. -/
  final (h : r.status.isTerminal = true) (later : List Event)
    (hlater : ∀ e ∈ later, e.IsOf begun) :
    (start.after (history ++ later)).Holds id r ∧
      ∀ request now, (Event.request request now).IsOf begun → request.isWrite = true →
        request.target = id →
        ∃ cause, ((start.after (history ++ later)).answer now request).1 = .refused cause

/-- **The life of a stored record.**  Let a program begin one draft under each id and hand its
drafts, as they are or moved on, to a new store, in any order and with any other requests.  At
every moment every record in memory or in a file has the life of a record. -/
theorem stored_lifecycle {start : Drafts} (hstart : start.Fresh) {history : List Event}
    (hof : ∀ e ∈ history, e.IsOf begun) {r : Draft} (hr : (start.after history).Holds id r) :
    Life begun start history id r := by
  obtain ⟨s, hmirrors, hrecords⟩ := records_sound hstart history hof
  have hfetch : s.fetch id = some r := hmirrors.fetch_eq_some_iff.1 hr
  obtain ⟨hsound, d, hbegun, hthread⟩ := hrecords id r hfetch
  constructor
  case idsFit => exact hsound.idsFit
  case thread =>
    exact ⟨d, hbegun, hthread.id.symm.trans (MemoryDrafts.id_of_fetch hfetch), hthread⟩
  case moves =>
    intro e he
    obtain ⟨s', hmirrors', heffect⟩ := hmirrors.next he.fits
    rw [Drafts.after_concat]
    rcases heffect with rfl | ⟨request, now, -, heffect⟩
    · exact ⟨r, hmirrors'.fetch_eq_some_iff.2 hfetch, .refl r, .inl rfl⟩
    · obtain ⟨new, hnew, hkept⟩ := heffect.kept hfetch
      refine ⟨new, hmirrors'.fetch_eq_some_iff.2 hnew, ?_⟩
      rcases hkept with rfl | ⟨hsame, hleads, -⟩
      · exact ⟨.refl new, .inl rfl⟩
      · exact ⟨hsame, hleads⟩
  case final =>
    intro hfinal later hlater
    obtain ⟨s', hmirrors', hkept⟩ :=
      final_kept hmirrors hfetch hfinal later fun e he => (hlater e he).fits
    rw [Drafts.after_append]
    refine ⟨hmirrors'.fetch_eq_some_iff.2 hkept, fun request now hrequest hwrite htarget => ?_⟩
    obtain ⟨reply, s'', hreply, -, heffect⟩ := hmirrors'.effect hrequest.fits
    rw [hreply]
    exact heffect.refused_of_final (htarget ▸ hkept) hfinal hwrite

/-- A program that begins a thread of two segments under every id. -/
def twoSegments : DraftId → Beginning := fun _ => ⟨[.ofText "a", .ofText "b"], none, 5⟩

/-- A draft of it that has failed after its first segment was posted. -/
def brokenOff : Draft :=
  { (twoSegments ⟨"d"⟩).draft ⟨"d"⟩ with
    status := .failed, messageIds := [⟨"msg_0"⟩], updatedAt := 8 }

/-- It is built in three steps. -/
theorem built_brokenOff : brokenOff.Built twoSegments := by
  have hnew : ((twoSegments ⟨"d"⟩).draft ⟨"d"⟩).Built twoSegments := .new ⟨"d"⟩ (by decide)
  have hstarted := hnew.moved (show 6 ≤ Json.maxWord by decide)
    (show Draft.moveTo _ .publishing 6 = .ok _ from rfl)
  have hposted := hstarted.appended (show 7 ≤ Json.maxWord by decide)
    (show Draft.appendId _ ⟨"msg_0"⟩ 7 = .ok _ from rfl)
  exact hposted.moved (show 8 ≤ Json.maxWord by decide)
    (show Draft.moveTo _ .failed 8 = .ok brokenOff from rfl)

/-- Its record, which was begun and marked, and whose ids were not recorded on the way, has the
life of a record when it has been finished. -/
theorem stored_lifecycle_brokenOff :
    Life twoSegments (.memory .empty)
      [.request (.persist ((twoSegments ⟨"d"⟩).draft ⟨"d"⟩)) 5,
        .request (.update ⟨"d"⟩ .publishing) 6, .request (.finalize brokenOff) 9]
      ⟨"d"⟩ { brokenOff with updatedAt := 9 } := by
  apply stored_lifecycle .memory
  · intro e he
    simp only [List.mem_cons, List.not_mem_nil, or_false] at he
    rcases he with rfl | rfl | rfl
    · exact ⟨fun d hd => (by cases hd; exact .new ⟨"d"⟩ (by decide)), by decide⟩
    · exact ⟨fun d hd => (by cases hd), by decide⟩
    · exact ⟨fun d hd => (by cases hd; exact built_brokenOff), by decide⟩
  · rfl

end Store

end PostingTerminal
