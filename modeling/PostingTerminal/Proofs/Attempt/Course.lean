import PostingTerminal.Proofs.Attempt.Steps

/-!
# The course of an attempt

The calls of an attempt follow one another in one of few ways, whatever the collaborators
answer.

* `Rounds` — the rounds of an attempt: each posts the next segment, as a reply to the id that
  the round before it was given, then records the id that the post has yielded and then
  remembers the text.
* `Course` — **the ways an attempt can go**: its draft could not be saved; it was finished,
  once, as published or as failed; or the platform never answered its last post.
* `progress_of_reaches` — every moment of an attempt is on such a way (`Progress`).
* `calls_follow_course` — hence so are the calls of every run, whether it is given its
  segments or has them written.
* `Input.Comes` — what becomes of a run by its content: that never comes, is not there, is not
  accepted, or is published.

The draft of an attempt differs from the one that was begun in status and ids, and in the time
of its last change, which the clock may show to be anything (`Draft.standing`).
-/

namespace PostingTerminal

/-! ## A draft at its stations -/

/-- A draft with another status and other ids, and changed last at a time. -/
def Draft.standing (d : Draft) (status : DraftStatus) (ids : List MessageId) (time : Timestamp) :
    Draft :=
  { d with status := status, messageIds := ids, updatedAt := time }

section standing

variable (d : Draft) {status next : DraftStatus} {ids : List MessageId} {time now : Timestamp}

/-- A draft moves to a status that its own allows. -/
theorem Draft.moveTo_standing (h : status.canMoveTo next = true) :
    (d.standing status ids time).moveTo next now = .ok (d.standing next ids now) := by
  unfold Draft.moveTo
  rw [if_pos (show (d.standing status ids time).status.canMoveTo next = true from h)]
  rfl

/-- A draft that is being published and has a segment left takes an id. -/
theorem Draft.appendId_standing (message : MessageId) (h : ids.length < d.segments.length) :
    (d.standing .publishing ids time).appendId message now
      = .ok (d.standing .publishing (ids ++ [message]) now) := by
  have hroom : ¬ (d.standing .publishing ids time).messageIds.length
      ≥ (d.standing .publishing ids time).segments.length := Nat.not_le.2 h
  unfold Draft.appendId
  rw [if_neg (fun hstatus => hstatus rfl), if_neg hroom]
  rfl

/-- A draft that has an id for every segment takes none. -/
theorem Draft.appendId_full (message : MessageId) (h : d.segments.length ≤ ids.length) :
    (d.standing .publishing ids time).appendId message now
      = .error (.store (.everySegmentPosted d.id)) := by
  have hfull : (d.standing .publishing ids time).messageIds.length
      ≥ (d.standing .publishing ids time).segments.length := h
  unfold Draft.appendId
  rw [if_neg (fun hstatus => hstatus rfl), if_pos hfull]
  rfl

/-- A record takes status and ids from a draft that is finished, and the time from the clock. -/
theorem Draft.finishAs_standing {ids' : List MessageId} {time' : Timestamp}
    (h : status.canMoveTo next = true) (hfinal : next.isTerminal = true) :
    (d.standing status ids time).finishAs (d.standing next ids' time') now
      = .ok (d.standing next ids' now) := by
  have hmove : (d.standing status ids time).moveTo (d.standing next ids' time').status now
      = .ok (d.standing next ids now) := d.moveTo_standing h
  unfold Draft.finishAs
  rw [if_pos (show (d.standing next ids' time').status.isTerminal = true from hfinal), hmove]
  rfl

end standing

namespace Attempt

/-! ## Rounds and courses -/

/-- The rounds of an attempt that has posted segments and been given an id for each. -/
inductive Rounds (id : DraftId) : List Segment → List MessageId → List Event → Prop
  | start : Rounds id [] [] []
  | round {posted ids events x message time answer recorded remembered}
      (before : Rounds id posted ids events) (yields : answer.id? = some message) :
      Rounds id (posted ++ [x]) (ids ++ [message])
        (events ++ [
          .posted ⟨ids.getLast?, postRequest id posted.length x, time, answer⟩,
          .recorded id message recorded,
          .remembered .threadPost x.content remembered])

/-- Every segment that has been posted has an id. -/
theorem Rounds.length_eq {id : DraftId} {posted : List Segment} {ids : List MessageId}
    {events : List Event} (h : Rounds id posted ids events) : ids.length = posted.length := by
  induction h with
  | start => rfl
  | round _ _ ih => rw [List.length_append, List.length_append, ih]; rfl

/-- A segment that is left has no id yet. -/
theorem Rounds.length_lt {id : DraftId} {segments posted rest : List Segment} {x : Segment}
    {ids : List MessageId} {events : List Event} (h : Rounds id posted ids events)
    (left : segments = posted ++ x :: rest) : ids.length < segments.length := by
  rw [h.length_eq, left, List.length_append, List.length_cons]
  omega

/-- The calls that begin a record and mark it as being published. -/
def begun (d : Draft) : List Event := [.persisted d (.ok ()), .updated d.id .publishing (.ok ())]

/-- What an attempt has done before it finishes its draft: with which status and ids it does
so, and what it reports. -/
inductive Concluded (d : Draft) : DraftStatus → List MessageId → String → List Event → Prop
  /-- The record could not be marked as being published. -/
  | unstarted (e : Error) : Concluded d .failed [] ("Failed to start publishing: " ++ e.message)
      [.persisted d (.ok ()), .updated d.id .publishing (.error e)]
  /-- Every segment has been posted. -/
  | published {ids rounds} (h : Rounds d.id d.segments ids rounds) :
      Concluded d .published ids "Thread published successfully" (begun d ++ rounds)
  /-- The last post has not become a message, for a reason. -/
  | stopped {posted ids rounds x rest time answer e} (h : Rounds d.id posted ids rounds)
      (left : d.segments = posted ++ x :: rest)
      (answered : answer.result (posted.length + 1) = .ok (.error e)) :
      Concluded d .failed ids e.message (begun d ++ rounds
        ++ [.posted ⟨ids.getLast?, postRequest d.id posted.length x, time, answer⟩])

/-- A draft is finished with a final status. -/
theorem Concluded.isTerminal {d : Draft} {status : DraftStatus} {ids : List MessageId}
    {message : String} {events : List Event} (h : Concluded d status ids message events) :
    status.isTerminal = true := by
  cases h <;> rfl

/-- A draft is finished only after its record has been begun. -/
theorem Concluded.persisted {d : Draft} {status : DraftStatus} {ids : List MessageId}
    {message : String} {events : List Event} (h : Concluded d status ids message events) :
    .persisted d (.ok ()) ∈ events := by
  cases h <;> exact List.mem_cons_self

/-- The posts of a list of events come before those of the next. -/
theorem postsOf_append (events events' : List Event) :
    postsOf (events ++ events') = postsOf events ++ postsOf events' :=
  List.filterMap_append

/-- The post of the last event comes last. -/
theorem postsOf_concat (events : List Event) (e : Event) :
    postsOf (events ++ [e]) = postsOf events ++ e.post?.toList := by
  rw [postsOf_append]
  cases e <;> rfl

/-- The ids that were yielded first come before those that were yielded next. -/
theorem yieldedOf_append (events events' : List Event) :
    yieldedOf (events ++ events') = yieldedOf events ++ yieldedOf events' := by
  rw [yieldedOf, postsOf_append, List.filterMap_append]
  rfl

/-- A post yields the id of its answer, if there is one. -/
theorem yieldedOf_posted (p : Post) : yieldedOf [.posted p] = p.answer.id?.toList := by
  show List.filterMap (·.answer.id?) [p] = _
  cases h : p.answer.id? <;> simp [h]

/-- Rounds have been yielded their ids. -/
theorem Rounds.yielded {id : DraftId} {posted : List Segment} {ids : List MessageId}
    {events : List Event} (h : Rounds id posted ids events) : yieldedOf events = ids := by
  induction h with
  | start => rfl
  | @round posted ids events x message time answer recorded remembered before yields ih =>
    rw [yieldedOf_append, ih]
    show _ ++ yieldedOf [.posted ⟨_, _, time, answer⟩] = _
    rw [yieldedOf_posted, yields]
    rfl

/-- A draft is finished with the ids that were yielded. -/
theorem Concluded.yielded {d : Draft} {status : DraftStatus} {ids : List MessageId}
    {message : String} {events : List Event} (h : Concluded d status ids message events) :
    yieldedOf events = ids := by
  cases h with
  | unstarted e => rfl
  | published h =>
    rw [yieldedOf_append, h.yielded]
    rfl
  | stopped h left answered =>
    rw [yieldedOf_append, yieldedOf_append, h.yielded, yieldedOf_posted,
      Answer.id?_eq_none answered]
    exact List.append_nil _

/-- The ways an attempt with a draft can go, and what comes of it. -/
inductive Course (d : Draft) : Except Halt Publication → List Event → Prop
  /-- The draft could not be saved. -/
  | unsaved (e : Error) :
      Course d (.ok (.rejected ("Failed to save draft: " ++ e.message) d.segments))
        [.persisted d (.error e)]
  /-- The draft has been finished. -/
  | finished {status ids message events} (h : Concluded d status ids message events)
      (time : Timestamp) (answer : Except Error Unit) :
      Course d (.ok (.ofDraft (d.standing status ids time) message))
        (events ++ [.finalized (d.standing status ids time) answer])
  /-- The platform has never answered the last post. -/
  | lost {posted ids rounds x rest time} (h : Rounds d.id posted ids rounds)
      (left : d.segments = posted ++ x :: rest) (halt : Halt) :
      Course d (.error halt) (begun d ++ rounds
        ++ [.posted ⟨ids.getLast?, postRequest d.id posted.length x, time, .lost halt⟩])

/-- On every course something is called. -/
theorem Course.ne_nil {d : Draft} {result : Except Halt Publication} {events : List Event}
    (h : Course d result events) : events ≠ [] := by
  cases h <;> simp

/-- The result of an attempt has the ids that were yielded. -/
theorem Course.yielded {d : Draft} {p : Publication} {events : List Event}
    (h : Course d (.ok p) events) : p.messageIds = yieldedOf events := by
  cases h with
  | unsaved e => rfl
  | finished h time answer =>
    rw [yieldedOf_append, h.yielded]
    exact (List.append_nil _).symm

/-- An attempt comes to a halt only where its last post is never answered. -/
theorem Course.lost_post {d : Draft} {halt : Halt} {events : List Event}
    (h : Course d (.error halt) events) :
    ∃ p, (postsOf events).getLast? = some p ∧ p.answer = .lost halt := by
  cases h with
  | @lost posted ids rounds x rest time h left halt =>
    refine ⟨⟨ids.getLast?, postRequest d.id posted.length x, time, .lost halt⟩, ?_, rfl⟩
    rw [postsOf_append]
    exact List.getLast?_concat

/-! ## Every moment is on a course -/

/-- What an attempt with a draft has done when it is about to do something. -/
inductive Progress (d : Draft) : Stage → List Event → Prop
  | opening : Progress d (.opening d) []
  | starting : Progress d (.starting d) [.persisted d (.ok ())]
  | posting {posted ids rounds x rest changed} (h : Rounds d.id posted ids rounds)
      (left : d.segments = posted ++ x :: rest) :
      Progress d (.posting (d.standing .publishing ids changed) posted.length x rest)
        (begun d ++ rounds)
  | recording {posted ids rounds x rest time answer message changed}
      (h : Rounds d.id posted ids rounds) (left : d.segments = posted ++ x :: rest)
      (yields : answer.id? = some message) :
      Progress d
        (.recording (d.standing .publishing (ids ++ [message]) changed) posted.length message x
          rest)
        (begun d ++ rounds
          ++ [.posted ⟨ids.getLast?, postRequest d.id posted.length x, time, answer⟩])
  | remembering {posted ids rounds x rest time answer message recorded changed}
      (h : Rounds d.id posted ids rounds) (left : d.segments = posted ++ x :: rest)
      (yields : answer.id? = some message) :
      Progress d
        (.remembering (d.standing .publishing (ids ++ [message]) changed) posted.length x rest)
        (begun d ++ rounds
          ++ [.posted ⟨ids.getLast?, postRequest d.id posted.length x, time, answer⟩,
            .recorded d.id message recorded])
  | finishing {status ids message events changed} (h : Concluded d status ids message events) :
      Progress d (.finishing (d.standing status ids changed) message) events
  | ended {result events} (h : Course d result events) : Progress d (.ended result) events

section progress

variable {d : Draft} {events : List Event}

/-- A draft that can be finished is about to be finished. -/
theorem Stage.close_standing {status next : DraftStatus} {ids : List MessageId}
    {time now : Timestamp} (message : String) (h : status.canMoveTo next = true) :
    Stage.close (d.standing status ids time) next message now
      = .finishing (d.standing next ids now) message := by
  unfold Stage.close
  rw [d.moveTo_standing h]

/-- A new draft whose record could not be marked is about to be finished as failed. -/
theorem Stage.afterUpdate_error (hfresh : d.standing .draft [] d.updatedAt = d) (now : Timestamp)
    (e : Error) :
    Stage.afterUpdate d now (.error e)
      = .finishing (d.standing .failed [] now) ("Failed to start publishing: " ++ e.message) := by
  have hclose : Stage.close (d.standing .draft [] d.updatedAt) .failed
      ("Failed to start publishing: " ++ e.message) now
        = .finishing (d.standing .failed [] now) ("Failed to start publishing: " ++ e.message) :=
    Stage.close_standing _ rfl
  rw [hfresh] at hclose
  exact hclose

/-- A new draft whose record has been marked is marked, too. -/
theorem Stage.afterUpdate_ok (hfresh : d.standing .draft [] d.updatedAt = d) (now : Timestamp) :
    Stage.afterUpdate d now (.ok ())
      = .next (d.standing .publishing [] now) 0 d.segments now := by
  have hmove : (d.standing .draft [] d.updatedAt).moveTo .publishing now
      = .ok (d.standing .publishing [] now) := d.moveTo_standing rfl
  rw [hfresh] at hmove
  unfold Stage.afterUpdate
  rw [hmove]
  rfl

/-- After its rounds an attempt is about to post the next segment or to finish the draft. -/
theorem progress_next {posted left : List Segment} {ids : List MessageId} {rounds : List Event}
    (h : Rounds d.id posted ids rounds) (hleft : d.segments = posted ++ left)
    (changed now : Timestamp) :
    Progress d (.next (d.standing .publishing ids changed) posted.length left now)
      (begun d ++ rounds) := by
  cases left with
  | nil =>
    rw [List.append_nil] at hleft
    rw [Stage.next, Stage.close_standing _ rfl]
    rw [← hleft] at h
    exact .finishing (.published h)
  | cons x rest => exact .posting h hleft

/-- After a post an attempt is about to record the id that it has yielded or to finish the
draft, or it has come to a halt. -/
theorem progress_afterPost {posted rest : List Segment} {x : Segment} {ids : List MessageId}
    {rounds : List Event} (h : Rounds d.id posted ids rounds)
    (hleft : d.segments = posted ++ x :: rest) (time : Nat) (answer : Answer)
    (changed now : Timestamp) :
    Progress d (.afterPost (d.standing .publishing ids changed) posted.length x rest now
        (answer.result (posted.length + 1)))
      (begun d ++ rounds
        ++ [.posted ⟨ids.getLast?, postRequest d.id posted.length x, time, answer⟩]) := by
  rcases hresult : answer.result (posted.length + 1) with halt | e | message
  · have hlost := Answer.result_eq_error.1 hresult
    subst hlost
    exact .ended (.lost h hleft halt)
  · rw [Stage.afterPost, Stage.close_standing _ rfl]
    exact .finishing (.stopped h hleft hresult)
  · rw [Stage.afterPost, d.appendId_standing message (h.length_lt hleft)]
    exact .recording h hleft (Answer.result_eq_ok.1 hresult)

/-- **A step leads from one point of a course to another.** -/
theorem Progress.step {m m' : Moment} {e : Event} (h : Progress d m.stage events)
    (hstep : Step m e m') (hfresh : d.standing .draft [] d.updatedAt = d) :
    Progress d m'.stage (events ++ [e]) := by
  cases hstep with
  | @persist d' s answer s' hcall =>
    cases h
    cases answer with
    | error e => exact .ended (.unsaved e)
    | ok _ => exact .starting
  | @update d' s answer s' hcall =>
    cases h
    show Progress d (.afterUpdate d s'.now answer) _
    cases answer with
    | error e =>
      rw [Stage.afterUpdate_error hfresh]
      exact .finishing (.unstarted e)
    | ok _ =>
      rw [Stage.afterUpdate_ok hfresh]
      exact progress_next .start rfl s'.now s'.now
  | @post d' index x rest s s₁ answer s' hpause hcall =>
    cases h with
    | posting hrounds hleft =>
      exact progress_afterPost hrounds hleft s₁.elapsed answer _ s'.now
  | @record d' index message x rest s answer s' hcall =>
    cases h with
    | recording hrounds hleft hyields =>
      rw [List.append_assoc]
      exact .remembering hrounds hleft hyields
  | @remember d' index x rest s remembered s' hcall =>
    cases h with
    | @remembering posted ids rounds x rest time answer message recorded changed hrounds hleft
        hyields =>
      show Progress d (.next _ _ rest s'.now) _
      rw [List.append_assoc, List.append_assoc]
      have hround : Rounds d.id (posted ++ [x]) (ids ++ [message]) (rounds ++ [
          .posted ⟨ids.getLast?, postRequest d.id posted.length x, time, answer⟩,
          .recorded d.id message recorded, .remembered .threadPost x.content remembered]) :=
        .round hrounds hyields
      have hleft' : d.segments = (posted ++ [x]) ++ rest := by
        rw [hleft, List.append_assoc]
        rfl
      have hnext := progress_next hround hleft' changed s'.now
      rw [List.length_append] at hnext
      exact hnext
  | @finalize d' message s answer s' hcall =>
    cases h with
    | finishing hconcluded => exact .ended (.finished hconcluded _ answer)

/-- A change of status marks a record as being published and never does anything else. -/
theorem updates_publishing {start m : Moment} (h : Reaches start events m) {id : DraftId}
    {status : DraftStatus} {answer : Except Error Unit}
    (hmem : .updated id status answer ∈ events) : status = .publishing := by
  induction h with
  | here => cases hmem
  | step _ hstep ih =>
    rcases List.mem_append.1 hmem with hmem | hmem
    · exact ih hmem
    · rw [List.mem_singleton] at hmem
      subst hmem
      cases hstep
      rfl

/-- **Every moment of an attempt is on its course.** -/
theorem progress_of_reaches {topic : Option String} {segments : List Segment} {s : Session}
    {m : Moment} (h : Reaches (first topic segments s) events m) :
    Progress (draftOf topic segments s) m.stage events := by
  induction h with
  | here => exact .opening
  | step _ hstep ih => exact ih.step hstep rfl

end progress

/-- A run that has come to its end has gone one of the ways of its course. -/
theorem course_of_reaches {topic : Option String} {segments : List Segment} {s : Session}
    {events : List Event} {result : Except Halt Publication × Session}
    (h : Reaches (first topic segments s) events (.ofResult result)) :
    Course (draftOf topic segments s) result.1 events := by
  cases progress_of_reaches h with
  | ended h => exact h

/-! ## One terminal write -/

/-- Whether an event has begun a record. -/
def Event.begins : Event → Bool
  | .persisted _ (.ok _) => true
  | _ => false

/-- Whether an event is a terminal write. -/
def Event.finishes : Event → Bool
  | .finalized _ _ => true
  | _ => false

/-- The rounds of an attempt neither begin nor finish a record. -/
theorem Rounds.quiet {id : DraftId} {posted : List Segment} {ids : List MessageId}
    {events : List Event} (h : Rounds id posted ids events) :
    events.countP Event.begins = 0 ∧ events.countP Event.finishes = 0 := by
  induction h with
  | start => exact ⟨rfl, rfl⟩
  | round _ _ ih =>
    rw [List.countP_append, List.countP_append, ih.1, ih.2]
    exact ⟨rfl, rfl⟩

section course

variable {d : Draft} {result : Except Halt Publication} {events : List Event}

/-- Before a draft is finished its record has been begun once, and not finished. -/
theorem Concluded.counts {status : DraftStatus} {ids : List MessageId} {message : String}
    (h : Concluded d status ids message events) :
    events.countP Event.begins = 1 ∧ events.countP Event.finishes = 0 := by
  cases h with
  | unstarted e => exact ⟨rfl, rfl⟩
  | published h =>
    rw [List.countP_append, List.countP_append, h.quiet.1, h.quiet.2]
    exact ⟨rfl, rfl⟩
  | stopped h left answered =>
    rw [List.countP_append, List.countP_append, List.countP_append, List.countP_append,
      h.quiet.1, h.quiet.2]
    exact ⟨rfl, rfl⟩

/-- A record that has been begun is finished once, unless the platform never answers. -/
theorem Course.finishes_once (h : Course d result events) {p : Publication}
    (hended : result = .ok p) : events.countP Event.finishes = events.countP Event.begins := by
  cases h with
  | unsaved e => rfl
  | finished hconcluded time answer =>
    rw [List.countP_append, List.countP_append, hconcluded.counts.1, hconcluded.counts.2]
    rfl
  | lost h left halt => cases hended

end course

/-! ## The calls of a run -/

/-- Segments are attempted exactly if there are some and none is beyond the limit. -/
theorem rejection?_eq_none_iff {limit : Nat} {segments : List Segment} :
    rejection? limit segments = none ↔ segments ≠ [] ∧ ∀ x ∈ segments, x.charCount ≤ limit := by
  have hfirst (position : Nat) :
      firstTooLong limit position segments = none ↔ ∀ x ∈ segments, x.charCount ≤ limit := by
    induction segments generalizing position with
    | nil => simp [firstTooLong]
    | cons x rest ih =>
      by_cases hx : x.charCount > limit
      · rw [firstTooLong, if_pos hx]
        exact ⟨nofun, fun h => absurd (h x List.mem_cons_self) (Nat.not_le.2 hx)⟩
      · rw [firstTooLong, if_neg hx, ih, List.forall_mem_cons]
        exact ⟨fun h => ⟨Nat.not_lt.1 hx, h⟩, And.right⟩
  cases segments with
  | nil => simp [rejection?]
  | cons x rest =>
    rw [← hfirst 1]
    simp [rejection?]

/-- Segments are rejected exactly if there are none or one is beyond the limit. -/
theorem rejection?_ne_none_iff {limit : Nat} {segments : List Segment} :
    rejection? limit segments ≠ none ↔ segments = [] ∨ ∃ x ∈ segments, limit < x.charCount := by
  rw [ne_eq, rejection?_eq_none_iff]
  simpa using Classical.or_iff_not_imp_left.symm

/-- What an attempt is given: segments, or a topic to have them written about. -/
inductive Input where
  | given (segments : List Segment)
  | about (topic : String)

namespace Input

/-- The attempt with an input. -/
def publish : Input → Run Publication
  | .given segments => PostingTerminal.publish segments
  | .about topic => generateAndPublish topic

/-- The topic of an input. -/
def topic? : Input → Option String
  | .given _ => none
  | .about topic => some topic

/-- The content that an input gives or that is written for it. -/
def content : Input → Run (Except Error (List Segment))
  | .given segments => return .ok segments
  | .about topic => do
    let context ← generationContext
    let memories ← generationMemories topic
    Run.generate topic context memories

/-- What becomes of content once it is there, or is known not to come. -/
theorem publish_eq (input : Input) (s : Session) :
    match input.content s with
    | (.error halt, s₀) => input.publish s = (.error halt, s₀)
    | (.ok (.error _), s₀) => ∃ message, input.publish s = (.ok (.rejected message []), s₀)
    | (.ok (.ok segments), s₀) => input.publish s = publishAbout input.topic? segments s₀ ∨
        segments = [] ∧ ∃ message, input.publish s = (.ok (.rejected message []), s₀) := by
  cases input with
  | given segments => exact .inl rfl
  | about topic =>
    unfold publish content generateAndPublish
    rcases hcontext : generationContext s with ⟨halt | context, s₁⟩
    · simp only [Run.bind_error hcontext]
    · simp only [Run.bind_ok hcontext]
      rcases hmemories : generationMemories topic s₁ with ⟨halt | memories, s₂⟩
      · simp only [Run.bind_error hmemories]
      · simp only [Run.bind_ok hmemories]
        rcases hgenerate : Run.generate topic context memories s₂ with ⟨halt | e | segments, s₃⟩
        · simp only [Run.bind_error hgenerate]
        · exact ⟨_, Run.bind_ok hgenerate⟩
        · simp only [Run.bind_ok hgenerate]
          cases segments with
          | nil => exact .inr ⟨rfl, _, rfl⟩
          | cons x rest => exact .inl rfl

/-- The ways from content to the result of an attempt. -/
inductive Comes (input : Input) (s : Session) : Except Halt Publication × Session → Prop
  /-- The content never comes. -/
  | halted {halt s₀} (content : input.content s = (.error halt, s₀)) :
      Comes input s (.error halt, s₀)
  /-- There is no content. -/
  | unwritten {e s₀ message} (content : input.content s = (.ok (.error e), s₀)) :
      Comes input s (.ok (.rejected message []), s₀)
  /-- The content is not accepted. -/
  | refused {segments s₀ message shown} (content : input.content s = (.ok (.ok segments), s₀))
      (refused : rejection? s₀.settings.thread.maxSegmentChars segments ≠ none) :
      Comes input s (.ok (.rejected message shown), s₀)
  /-- The content is accepted, and published. -/
  | made {segments s₀} (content : input.content s = (.ok (.ok segments), s₀))
      (accepted : rejection? s₀.settings.thread.maxSegmentChars segments = none) :
      Comes input s (publishAbout input.topic? segments s₀)

/-- **Every attempt goes one of these ways.** -/
theorem publish_comes (input : Input) (s : Session) : Comes input s (input.publish s) := by
  have hpublish := input.publish_eq s
  rcases hcontent : input.content s with ⟨halt | e | segments, s₀⟩
  all_goals simp only [hcontent] at hpublish
  · rw [hpublish]
    exact .halted hcontent
  · obtain ⟨message, hpublish⟩ := hpublish
    rw [hpublish]
    exact .unwritten hcontent
  · cases haccepted : rejection? s₀.settings.thread.maxSegmentChars segments with
    | none =>
      have hsegments : segments ≠ [] := (rejection?_eq_none_iff.1 haccepted).1
      rw [hpublish.resolve_right fun h => hsegments h.1]
      exact .made hcontent haccepted
    | some reason =>
      have hrefused : rejection? s₀.settings.thread.maxSegmentChars segments ≠ none := by
        rw [haccepted]
        nofun
      rcases hpublish with hpublish | ⟨-, message, hpublish⟩
      · rw [hpublish, publishAbout_rejected haccepted]
        exact .refused hcontent hrefused
      · rw [hpublish]
        exact .refused hcontent hrefused

end Input

/-- **The calls of an attempt.**  Once there is content, an attempt makes no call at all if
there are no segments or if one of them is beyond the limit, and only then.  Otherwise its
calls, as they stand in the journal, are on a course with a new draft.  A record is then
never given a final status by a change of status, and a record that has been begun is
finished exactly once by an attempt that comes to its end. -/
theorem calls_follow_course (input : Input) (s : Session) :
    match input.content s with
    | (.error halt, s₀) => input.publish s = (.error halt, s₀)
    | (.ok (.error _), s₀) => ∃ message, input.publish s = (.ok (.rejected message []), s₀)
    | (.ok (.ok segments), s₀) => ∃ events,
        s₀.Notes (input.publish s).2 (events.map Event.call) ∧
        (events = [] ↔ segments = [] ∨
          ∃ x ∈ segments, s₀.settings.thread.maxSegmentChars < x.charCount) ∧
        (events = [] → ∃ message, input.publish s = (.ok (.rejected message segments), s₀)) ∧
        (events ≠ [] →
          Reaches (first input.topic? segments s₀) events (.ofResult (input.publish s)) ∧
          Course (draftOf input.topic? segments s₀) (input.publish s).1 events) ∧
        (∀ id status answer, .updated id status answer ∈ events → status = .publishing) ∧
        (∀ p, (input.publish s).1 = .ok p →
          events.countP Event.finishes = events.countP Event.begins) := by
  have hpublish := input.publish_eq s
  rcases hcontent : input.content s with ⟨halt | e | segments, s₀⟩
  all_goals simp only [hcontent] at hpublish ⊢
  · exact hpublish
  · exact hpublish
  · rw [← rejection?_ne_none_iff]
    cases hrejection : rejection? s₀.settings.thread.maxSegmentChars segments with
    | some reason =>
      have hresult : ∃ message, input.publish s = (.ok (.rejected message segments), s₀) := by
        rcases hpublish with hpublish | ⟨rfl, hpublish⟩
        · exact ⟨_, hpublish.trans (publishAbout_rejected hrejection)⟩
        · exact hpublish
      obtain ⟨message, heq⟩ := hresult
      rw [heq]
      refine ⟨[], .refl s₀, ?_, fun _ => ⟨message, rfl⟩, ?_, ?_, fun _ _ => rfl⟩ <;> simp
    | none =>
      have hsegments : segments ≠ [] := (rejection?_eq_none_iff.1 hrejection).1
      have heq : input.publish s = publishAbout input.topic? segments s₀ :=
        hpublish.resolve_right fun h => hsegments h.1
      obtain ⟨events, hpath⟩ := publishAbout_reaches input.topic? hrejection
      rw [heq]
      have hcourse := course_of_reaches hpath
      refine ⟨events, hpath.notes_first, ?_, fun h => absurd h hcourse.ne_nil,
        fun _ => ⟨hpath, hcourse⟩, fun _ _ _ => updates_publishing hpath,
        fun _ => hcourse.finishes_once⟩
      simp [hcourse.ne_nil]

end Attempt

end PostingTerminal
