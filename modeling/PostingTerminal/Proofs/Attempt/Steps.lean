import PostingTerminal.Publication
import PostingTerminal.Proofs.Session.Calls

/-!
# An attempt to publish, call by call

An attempt is a run to its end; what holds between two of its calls can only be said about
its moments.  A `Moment` is a session together with what the attempt is about to do in it,
and a `Step` makes the next call.  The event of a step is the call with its answer.

* `Step` — the steps, one for each kind of call.  Every step is a call of the library itself
  in the session of the moment.
* `Reaches start events m` — the moment `m` is reached from `start` with these events.
* `publishDraft_reaches`, `publishAbout_reaches` — **every run of an attempt is a path of
  steps** from its first moment to the moment at which it has ended, in the session that the
  run leaves and with the result that it gives.
* `Reaches.notes` — an attempt leaves settings, faults and wall clock as they were set, and adds
  exactly the calls of its events to the journal.

A moment has at most one next step (`Step.deterministic`), so the moments between the first
and the last one of a run are those on this path and no others.
-/

namespace PostingTerminal.Attempt

open Store (Drafts MemoryKind)
open Platform (Request ReplyOutcome TopOutcome)

/-! ## Posts and their answers -/

/-- What has come of waiting for the platform to post. -/
inductive Answer where
  | top (outcome : Except Error TopOutcome)
  | reply (outcome : Except Error ReplyOutcome)
  /-- Nothing: the attempt has come to a halt. -/
  | lost (halt : Halt)

/-- The id that an answer yields: that of a post at the top that was given one, and that of a
reply that succeeded and was given one. -/
def Answer.id? : Answer → Option MessageId
  | .top (.ok (.ok id?)) => id?
  | .reply (.ok outcome) => if outcome.success then outcome.messageId else none
  | _ => none

/-- What an answer means to the attempt at a position of the thread. -/
def Answer.result (position : Nat) : Answer → Except Halt (Except Error MessageId)
  | .top (.error e) => .ok (.error e)
  | .top (.ok (.error e)) => .ok (.error e)
  | .top (.ok (.ok none)) => .ok (.error (.platform .noTopId))
  | .top (.ok (.ok (some id))) => .ok (.ok id)
  | .reply (.error e) => .ok (.error e)
  | .reply (.ok outcome) => .ok (replyId position outcome)
  | .lost halt => .error halt

/-- An answer lets the attempt go on exactly if it yields an id. -/
theorem Answer.result_eq_ok {position : Nat} {answer : Answer} {id : MessageId} :
    answer.result position = .ok (.ok id) ↔ answer.id? = some id := by
  rcases answer with (_ | _ | _ | _) | (_ | ⟨success, messageId, reason⟩) | halt
  all_goals try simp [Answer.result, Answer.id?]
  cases success <;> cases messageId <;> simp [replyId]

/-- An answer that is an error to the attempt yields no id. -/
theorem Answer.id?_eq_none {position : Nat} {answer : Answer} {e : Error}
    (h : answer.result position = .ok (.error e)) : answer.id? = none := by
  cases hid : answer.id? with
  | none => rfl
  | some id =>
    rw [Answer.result_eq_ok.2 hid] at h
    cases h

/-- Only an answer that never comes brings the attempt to a halt. -/
theorem Answer.result_eq_error {position : Nat} {answer : Answer} {halt : Halt} :
    answer.result position = .error halt ↔ answer = .lost halt := by
  rcases answer with (_ | _ | _ | _) | (_ | _) | _ <;> simp [Answer.result]

/-- A post that has been made. -/
structure Post where
  parent : Option MessageId
  request : Request
  /-- When it was made, on the waiting clock. -/
  time : Nat
  answer : Answer

/-- The call of a post. -/
def Post.call (p : Post) : Call := .post p.parent p.request p.time

/-- Makes a post of the platform, wrapping what comes of it. -/
def settled {α : Type} (wrap : Except Error α → Answer) (post : Run (Except Error α))
    (s : Session) : Answer × Session :=
  match post s with
  | (.ok outcome, s) => (wrap outcome, s)
  | (.error halt, s) => (.lost halt, s)

/-- The answer that is made of what comes of waiting. -/
def Answer.ofWait {α : Type} (wrap : Except Error α → Answer) :
    Except Halt (Except Error α) → Answer
  | .ok outcome => wrap outcome
  | .error halt => .lost halt

/-- **Posting and waiting** comes to what the response settles to under the limit. -/
theorem settled_await {α : Type} (wrap : Except Error α → Answer)
    {post : Run (Response α)} {response : Response α} {s s' : Session}
    (hpost : post s = (.ok response, s')) :
    settled wrap (do Run.await (← post)) s
      = (.ofWait wrap (Run.settle s'.settings.thread.postTimeoutSecs response).1,
        { s' with elapsed := s'.elapsed
            + (Run.settle s'.settings.thread.postTimeoutSecs response).2 }) := by
  rw [settled, Run.bind_ok hpost, Run.await_eq]
  cases (Run.settle s'.settings.thread.postTimeoutSecs response).1 <;> rfl

/-- Asks the platform to post, at the top or as a reply, and waits for the answer. -/
def ask (parent : Option MessageId) (request : Request) (s : Session) : Answer × Session :=
  match parent with
  | none => settled .top (do Run.await (← Run.postTop request)) s
  | some parent => settled .reply (do Run.await (← Run.postReply parent request)) s

/-- Posting a segment is asking the platform, and taking the answer for what it means. -/
theorem postSegment_eq (d : Draft) (index : Nat) (x : Segment) (s : Session) :
    postSegment d index x s
      = ((ask d.messageIds.getLast? (postRequest d.id index x) s).1.result (index + 1),
        (ask d.messageIds.getLast? (postRequest d.id index x) s).2) := by
  unfold postSegment ask
  cases d.messageIds.getLast? with
  | none =>
    obtain ⟨response, platform, hpost⟩ := Run.postTop_session (postRequest d.id index x) s
    simp only [settled, Run.bind_ok hpost]
    rcases hawait : Run.await response _ with ⟨halt | e | e | _ | id, s'⟩
    · rw [Run.bind_error hawait]
      rfl
    all_goals
      rw [Run.bind_ok hawait]
      rfl
  | some parent =>
    obtain ⟨response, platform, hpost⟩ :=
      Run.postReply_session parent (postRequest d.id index x) s
    simp only [settled, Run.bind_ok hpost]
    rcases hawait : Run.await response _ with ⟨halt | e | outcome, s'⟩
    · rw [Run.bind_error hawait]
      rfl
    all_goals
      rw [Run.bind_ok hawait]
      rfl

/-- Asking the platform notes the post, changes the platform and takes time. -/
theorem ask_session (parent : Option MessageId) (request : Request) (s : Session) :
    ∃ platform time, (ask parent request s).2
      = { s.note (.post parent request s.elapsed) with platform := platform, elapsed := time } := by
  cases parent with
  | none =>
    obtain ⟨response, platform, hpost⟩ := Run.postTop_session request s
    exact ⟨platform, _, congrArg Prod.snd (settled_await .top hpost)⟩
  | some parent =>
    obtain ⟨response, platform, hpost⟩ := Run.postReply_session parent request s
    exact ⟨platform, _, congrArg Prod.snd (settled_await .reply hpost)⟩

/-- A pause takes time on the waiting clock and does nothing else. -/
theorem pauseBefore_session (index : Nat) (s : Session) :
    ∃ time, pauseBefore index s = (.ok (), { s with elapsed := time }) := by
  unfold pauseBefore
  by_cases hindex : index > 0
  · rw [if_pos hindex]
    exact ⟨_, rfl⟩
  · rw [if_neg hindex]
    exact ⟨s.elapsed, rfl⟩

/-- What is left of a session by a pause. -/
theorem session_of_pause {index : Nat} {s s' : Session}
    (h : pauseBefore index s = (.ok (), s')) : ∃ time, s' = { s with elapsed := time } := by
  obtain ⟨time, hpause⟩ := pauseBefore_session index s
  rw [h] at hpause
  cases hpause
  exact ⟨time, rfl⟩

/-! ## Events -/

/-- A call of an attempt, with its answer. -/
inductive Event where
  | persisted (d : Draft) (answer : Except Error Unit)
  | updated (id : DraftId) (status : DraftStatus) (answer : Except Error Unit)
  | posted (post : Post)
  | recorded (id : DraftId) (message : MessageId) (answer : Except Error Unit)
  | remembered (kind : MemoryKind) (text : String) (answer : Except Error Unit)
  | finalized (d : Draft) (answer : Except Error Unit)

/-- The call of an event. -/
def Event.call : Event → Call
  | .persisted d _ => .persist d
  | .updated id status _ => .update id status
  | .posted post => post.call
  | .recorded id message _ => .record id message
  | .remembered kind text _ => .remember kind text
  | .finalized d _ => .finalize d

/-- The post of an event. -/
def Event.post? : Event → Option Post
  | .posted post => some post
  | _ => none

/-- The posts of events, in order. -/
def postsOf (events : List Event) : List Post := events.filterMap Event.post?

/-- The ids that the platform has yielded, in order. -/
def yieldedOf (events : List Event) : List MessageId := (postsOf events).filterMap (·.answer.id?)

/-! ## Moments -/

/-- What an attempt is about to do. -/
inductive Stage where
  /-- It will begin the record of a draft. -/
  | opening (d : Draft)
  /-- It will mark the record as being published. -/
  | starting (d : Draft)
  /-- It will post a segment; others are left. -/
  | posting (d : Draft) (index : Nat) (x : Segment) (rest : List Segment)
  /-- It will record the id of a segment that has been posted. -/
  | recording (d : Draft) (index : Nat) (message : MessageId) (x : Segment) (rest : List Segment)
  /-- It will remember a segment that has been posted. -/
  | remembering (d : Draft) (index : Nat) (x : Segment) (rest : List Segment)
  /-- It will finish the record of a draft, and report a message. -/
  | finishing (d : Draft) (message : String)
  /-- It has come to its end, or to a halt. -/
  | ended (result : Except Halt Publication)

namespace Stage

/-- A draft is to be finished. -/
def close (d : Draft) (status : DraftStatus) (message : String) (now : Timestamp) : Stage :=
  match d.moveTo status now with
  | .error _ => .ended (.ok (.ofDraft d message))
  | .ok d => .finishing d message

/-- Segments are left to be posted, or none are. -/
def next (d : Draft) (index : Nat) (segments : List Segment) (now : Timestamp) : Stage :=
  match segments with
  | [] => close d .published "Thread published successfully" now
  | x :: rest => .posting d index x rest

/-- The call that begins the record has been answered. -/
def afterPersist (d : Draft) : Except Error Unit → Stage
  | .error e => .ended (.ok (.rejected ("Failed to save draft: " ++ e.message) d.segments))
  | .ok () => .starting d

/-- A draft has been marked as being published, or could not be. -/
def afterStart (d : Draft) (now : Timestamp) : Except Error Draft → Stage
  | .error e => close d .failed ("Failed to start publishing: " ++ e.message) now
  | .ok d => next d 0 d.segments now

/-- The call that marks the record has been answered. -/
def afterUpdate (d : Draft) (now : Timestamp) : Except Error Unit → Stage
  | .error e => afterStart d now (.error e)
  | .ok () => afterStart d now (d.moveTo .publishing now)

/-- A post has been answered. -/
def afterPost (d : Draft) (index : Nat) (x : Segment) (rest : List Segment) (now : Timestamp) :
    Except Halt (Except Error MessageId) → Stage
  | .error halt => .ended (.error halt)
  | .ok (.error e) => close d .failed e.message now
  | .ok (.ok message) =>
    match d.appendId message now with
    | .error e => close d .failed e.message now
    | .ok d => .recording d index message x rest

/-- The posts have been made as far as they could be. -/
def afterPosts (now : Timestamp) : Except Halt (Option Error × Draft) → Stage
  | .error halt => .ended (.error halt)
  | .ok (some e, d) => close d .failed e.message now
  | .ok (none, d) => close d .published "Thread published successfully" now

end Stage

/-- A session and what an attempt is about to do in it. -/
structure Moment where
  stage : Stage
  session : Session

/-- The moment at which a run has ended. -/
def Moment.ofResult (result : Except Halt Publication × Session) : Moment :=
  ⟨.ended result.1, result.2⟩

/-- A step of an attempt: the next call is made, in the session of the moment. -/
inductive Step : Moment → Event → Moment → Prop
  | persist {d s answer s'} (h : Run.persist d s = (.ok answer, s')) :
      Step ⟨.opening d, s⟩ (.persisted d answer) ⟨.afterPersist d answer, s'⟩
  | update {d s answer s'} (h : Run.updateStatus d.id .publishing s = (.ok answer, s')) :
      Step ⟨.starting d, s⟩ (.updated d.id .publishing answer)
        ⟨.afterUpdate d s'.now answer, s'⟩
  | post {d index x rest s s₁ answer s'} (hpause : pauseBefore index s = (.ok (), s₁))
      (h : ask d.messageIds.getLast? (postRequest d.id index x) s₁ = (answer, s')) :
      Step ⟨.posting d index x rest, s⟩
        (.posted ⟨d.messageIds.getLast?, postRequest d.id index x, s₁.elapsed, answer⟩)
        ⟨.afterPost d index x rest s'.now (answer.result (index + 1)), s'⟩
  | record {d index message x rest s answer s'}
      (h : Run.recordId d.id message s = (.ok answer, s')) :
      Step ⟨.recording d index message x rest, s⟩ (.recorded d.id message answer)
        ⟨.remembering d index x rest, s'⟩
  | remember {d index x rest s answer s'}
      (h : Run.remember .threadPost x.content s = (.ok answer, s')) :
      Step ⟨.remembering d index x rest, s⟩ (.remembered .threadPost x.content answer)
        ⟨.next d (index + 1) rest s'.now, s'⟩
  | finalize {d message s answer s'} (h : Run.finalize d s = (.ok answer, s')) :
      Step ⟨.finishing d message, s⟩ (.finalized d answer)
        ⟨.ended (.ok (.ofDraft d message)), s'⟩

/-- A moment has at most one next step. -/
theorem Step.deterministic {m m₁ m₂ : Moment} {e₁ e₂ : Event} (h₁ : Step m e₁ m₁)
    (h₂ : Step m e₂ m₂) : e₁ = e₂ ∧ m₁ = m₂ := by
  cases h₁ with
  | post hpause h =>
    cases h₂ with
    | post hpause' h' =>
      cases hpause.symm.trans hpause'
      cases h.symm.trans h'
      exact ⟨rfl, rfl⟩
  | persist h | update h | record h | remember h | finalize h =>
    cases h₂
    rename_i h'
    cases h.symm.trans h'
    exact ⟨rfl, rfl⟩

/-- **A step that posts** has asked the platform, after a pause. -/
theorem Step.asked {m m' : Moment} {p : Post} (h : Step m (.posted p) m') :
    ∃ time, ask p.parent p.request { m.session with elapsed := time }
      = (p.answer, m'.session) := by
  cases h with
  | post hpause hask =>
    obtain ⟨time, rfl⟩ := session_of_pause hpause
    exact ⟨time, hask⟩

/-- The moments that steps reach from another one, with the events on the way. -/
inductive Reaches (start : Moment) : List Event → Moment → Prop
  | here : Reaches start [] start
  | step {events m e m'} (before : Reaches start events m) (step : Step m e m') :
      Reaches start (events ++ [e]) m'

/-- Paths can be put one after the other. -/
theorem Reaches.trans {m m' m'' : Moment} {events events' : List Event}
    (h : Reaches m events m') (h' : Reaches m' events' m'') : Reaches m (events ++ events') m'' := by
  induction h' with
  | here => rwa [List.append_nil]
  | step _ step ih =>
    rw [← List.append_assoc]
    exact .step ih step

/-- One step is a path. -/
theorem Step.reaches {m m' : Moment} {e : Event} (h : Step m e m') : Reaches m [e] m' :=
  .step .here h

/-- A path is extended by a step before it. -/
theorem Reaches.after {m m' m'' : Moment} {e : Event} {events : List Event} (h : Step m e m')
    (h' : Reaches m' events m'') : Reaches m (e :: events) m'' :=
  h.reaches.trans h'

/-- A path without events goes nowhere. -/
theorem Reaches.eq_of_nil {m m' : Moment} {events : List Event} (h : Reaches m events m')
    (hnil : events = []) : m' = m := by
  cases h with
  | here => rfl
  | step => simp at hnil

/-- A path with a last event ends with the step that has it. -/
theorem Reaches.last {m m'' : Moment} {e : Event} {events : List Event}
    (h : Reaches m (events ++ [e]) m'') : ∃ m', Reaches m events m' ∧ Step m' e m'' := by
  generalize heq : events ++ [e] = all at h
  cases h with
  | here => simp at heq
  | step before step =>
    obtain ⟨rfl, hlast⟩ := List.append_inj' heq rfl
    cases hlast
    exact ⟨_, before, step⟩

/-- A path that goes anywhere begins with the step that its first moment takes. -/
theorem Reaches.of_step {m m' m'' : Moment} {e : Event} {events : List Event}
    (h : Reaches m events m'') (hstep : Step m e m') (hne : events ≠ []) :
    ∃ rest, Reaches m' rest m'' ∧ events = e :: rest := by
  induction h with
  | here => exact absurd rfl hne
  | @step events m₁ e₁ m₂ before step ih =>
    by_cases hempty : events = []
    · have heq := before.eq_of_nil hempty
      subst heq hempty
      obtain ⟨rfl, rfl⟩ := step.deterministic hstep
      exact ⟨[], .here, rfl⟩
    · obtain ⟨rest, hrest, rfl⟩ := ih hempty
      exact ⟨rest ++ [e₁], hrest.step step, rfl⟩

/-- An attempt that has come to its end goes no further. -/
theorem Reaches.of_ended {result : Except Halt Publication} {s : Session} {m : Moment}
    {events : List Event} (h : Reaches ⟨.ended result, s⟩ events m) :
    events = [] ∧ m = ⟨.ended result, s⟩ := by
  induction h with
  | here => exact ⟨rfl, rfl⟩
  | step before step ih =>
    rw [ih.2] at step
    cases step

/-- A path to the end goes through every moment that can be reached. -/
theorem Reaches.extend {start m : Moment} {events all : List Event}
    {result : Except Halt Publication} {s : Session} (h : Reaches start events m)
    (hend : Reaches start all ⟨.ended result, s⟩) :
    ∃ rest, Reaches m rest ⟨.ended result, s⟩ ∧ all = events ++ rest := by
  induction h with
  | here => exact ⟨all, hend, rfl⟩
  | @step events m e m' before step ih =>
    obtain ⟨rest, hrest, rfl⟩ := ih
    have hne : rest ≠ [] := by
      intro hnil
      have hended := hrest.eq_of_nil hnil
      subst hended
      cases step
    obtain ⟨left, hleft, rfl⟩ := hrest.of_step step hne
    exact ⟨left, hleft, (List.append_assoc events [e] left).symm⟩

/-- **An attempt comes to one end only.** -/
theorem Reaches.end_unique {start : Moment} {events events' : List Event}
    {result result' : Except Halt Publication} {s s' : Session}
    (h : Reaches start events ⟨.ended result, s⟩)
    (h' : Reaches start events' ⟨.ended result', s'⟩) :
    events = events' ∧ result = result' ∧ s = s' := by
  obtain ⟨rest, hrest, rfl⟩ := h.extend h'
  obtain ⟨rfl, hend⟩ := hrest.of_ended
  cases hend
  exact ⟨(List.append_nil events).symm, rfl, rfl⟩

/-! ## What steps leave as it was -/

/-- A post after a pause is noted, and leaves the drafts as they were. -/
theorem post_session {index : Nat} {parent : Option MessageId} {request : Request}
    {s s₁ s' : Session} {answer : Answer} (hpause : pauseBefore index s = (.ok (), s₁))
    (h : ask parent request s₁ = (answer, s')) :
    s.Notes s' [.post parent request s₁.elapsed] ∧ s'.drafts = s.drafts := by
  obtain ⟨paused, rfl⟩ := session_of_pause hpause
  obtain ⟨platform, time, hask⟩ := ask_session parent request { s with elapsed := paused }
  rw [h] at hask
  subst hask
  exact ⟨⟨rfl, rfl, rfl, rfl⟩, rfl⟩

/-- A step notes its call. -/
theorem Step.notes {m m' : Moment} {e : Event} (h : Step m e m') :
    m.session.Notes m'.session [e.call] := by
  cases h with
  | post hpause h => exact (post_session hpause h).1
  | persist h => exact (Run.stores_of_persist h).1
  | update h => exact (Run.stores_of_updateStatus h).1
  | record h => exact (Run.stores_of_recordId h).1
  | remember h => exact (Run.session_of_remember h).1
  | finalize h => exact (Run.stores_of_finalize h).1

/-- **Steps note exactly their calls**, and set neither settings nor faults nor the wall clock. -/
theorem Reaches.notes {start m : Moment} {events : List Event} (h : Reaches start events m) :
    start.session.Notes m.session (events.map Event.call) := by
  induction h with
  | here => exact .refl _
  | step _ step ih =>
    rw [List.map_append]
    exact ih.trans step.notes

/-! ## Every run is a path -/

/-- The call that finishes a draft is a path to the end. -/
theorem finish_reaches (d : Draft) (status : DraftStatus) (message : String) (s : Session) :
    ∃ d' s', finish d status s = (.ok d', s') ∧
      ∃ events, Reaches ⟨.close d status message s.now, s⟩ events
        ⟨.ended (.ok (.ofDraft d' message)), s'⟩ := by
  unfold finish Stage.close
  rw [Run.bind_ok (Run.now_eq s)]
  cases hmove : d.moveTo status s.now with
  | error e => exact ⟨d, s, rfl, [], .here⟩
  | ok d' =>
    obtain ⟨answer, s', hcall, -⟩ :=
      Run.onDrafts_stores .finalize (.finalize d') (Drafts.finalize d') s
    refine ⟨d', s', ?_, _, (Step.finalize hcall).reaches⟩
    exact Run.bind_ok hcall

/-- Posting segments is a path to the point where the draft is to be finished. -/
theorem postFrom_reaches (d : Draft) (index : Nat) (segments : List Segment) (s : Session) :
    ∃ events, Reaches ⟨.next d index segments s.now, s⟩ events
      ⟨.afterPosts (postFrom d index segments s).2.now (postFrom d index segments s).1,
        (postFrom d index segments s).2⟩ := by
  induction segments generalizing d index s with
  | nil => exact ⟨[], .here⟩
  | cons x rest ih =>
    obtain ⟨time, hpause⟩ := pauseBefore_session index s
    rcases hask : ask d.messageIds.getLast? (postRequest d.id index x) { s with elapsed := time }
      with ⟨answer, s₁⟩
    have hpost : Reaches ⟨.posting d index x rest, s⟩ _
        ⟨.afterPost d index x rest s₁.now (answer.result (index + 1)), s₁⟩ :=
      (Step.post hpause hask).reaches
    have hsegment := postSegment_eq d index x { s with elapsed := time }
    rw [hask] at hsegment
    unfold postFrom
    rw [Run.bind_ok hpause]
    rcases hresult : answer.result (index + 1) with halt | e | message
    · rw [hresult] at hsegment hpost
      rw [Run.bind_error hsegment]
      exact ⟨_, hpost⟩
    · rw [hresult] at hsegment hpost
      rw [Run.bind_ok hsegment]
      exact ⟨_, hpost⟩
    · rw [hresult] at hsegment hpost
      rw [Run.bind_ok hsegment]
      simp only [Run.bind_ok (Run.now_eq s₁)]
      cases happend : d.appendId message s₁.now with
      | error e =>
        simp only [Stage.afterPost, happend] at hpost
        exact ⟨_, hpost⟩
      | ok d' =>
        simp only [Stage.afterPost, happend] at hpost
        obtain ⟨recorded, s₂, hrecord, -⟩ := Run.onDrafts_stores .record
          (.record d'.id message) (Drafts.recordId d'.id message) s₁
        obtain ⟨remembered, s₃, hremember, -⟩ := Run.remember_session .threadPost x.content s₂
        obtain ⟨events, hrest⟩ := ih d' (index + 1) s₃
        simp only [Run.bind_ok (x := Run.recordId d'.id message) hrecord,
          Run.bind_ok hremember]
        exact ⟨_, hpost.trans (.after (.record hrecord) (.after (.remember hremember) hrest))⟩

/-- **Posting a draft whose record has been begun** is a path to the end. -/
theorem publishDraft_reaches (d : Draft) (s : Session) :
    ∃ events, Reaches ⟨.starting d, s⟩ events (.ofResult (publishDraft d s)) := by
  obtain ⟨answer, s₁, hupdate, -⟩ := Run.onDrafts_stores .update (.update d.id .publishing)
    (Drafts.updateStatus d.id .publishing) s
  have hupdated := Step.update hupdate
  obtain ⟨started, hstart, hstage⟩ : ∃ started, startPublishing d s = (.ok started, s₁) ∧
      Stage.afterUpdate d s₁.now answer = .afterStart d s₁.now started := by
    unfold startPublishing
    rw [Run.bind_ok (x := Run.updateStatus d.id .publishing) hupdate]
    cases answer with
    | error e => exact ⟨.error e, rfl, rfl⟩
    | ok _ => exact ⟨d.moveTo .publishing s₁.now, rfl, rfl⟩
  rw [hstage] at hupdated
  unfold publishDraft
  rw [Run.bind_ok hstart]
  cases started with
  | error e =>
    obtain ⟨d', s', hfinish, events, hpath⟩ :=
      finish_reaches d .failed ("Failed to start publishing: " ++ e.message) s₁
    simp only [Run.bind_ok hfinish]
    exact ⟨_, .after hupdated hpath⟩
  | ok d₁ =>
    obtain ⟨events, hposts⟩ := postFrom_reaches d₁ 0 d₁.segments s₁
    rcases hposted : postFrom d₁ 0 d₁.segments s₁ with ⟨halt | ⟨_ | e, d₂⟩, s₂⟩
    all_goals rw [hposted] at hposts
    · simp only [Run.bind_error hposted]
      exact ⟨_, .after hupdated hposts⟩
    · obtain ⟨d', s', hfinish, events', hpath⟩ :=
        finish_reaches d₂ .published "Thread published successfully" s₂
      simp only [Run.bind_ok hposted, Run.bind_ok hfinish]
      exact ⟨_, .after hupdated (hposts.trans hpath)⟩
    · obtain ⟨d', s', hfinish, events', hpath⟩ := finish_reaches d₂ .failed e.message s₂
      simp only [Run.bind_ok hposted, Run.bind_ok hfinish]
      exact ⟨_, .after hupdated (hposts.trans hpath)⟩

/-- A session with nothing in its stores, on a platform and with calls that are to fail. -/
def emptySession (platform : Platform) (faults : Faults) : Session :=
  .start .default (.memory .empty) (.memory []) platform (.disabled "") faults (fun _ => ⟨"d"⟩)
    fun _ => 0

/-- The draft that an attempt in a session begins. -/
def draftOf (topic : Option String) (segments : List Segment) (s : Session) : Draft :=
  .new (s.ids s.idsTaken) segments topic s.now

/-- The first moment of an attempt, when an id has been taken for the draft. -/
def first (topic : Option String) (segments : List Segment) (s : Session) : Moment :=
  ⟨.opening (draftOf topic segments s), { s with idsTaken := s.idsTaken + 1 }⟩

/-- Taking an id notes nothing. -/
theorem Reaches.notes_first {topic : Option String} {segments : List Segment} {s : Session}
    {m : Moment} {events : List Event} (h : Reaches (first topic segments s) events m) :
    s.Notes m.session (events.map Event.call) :=
  ⟨h.notes.settings, h.notes.faults, h.notes.clock, h.notes.journal⟩

/-- Segments that are rejected are not attempted at all. -/
theorem publishAbout_rejected {topic : Option String} {segments : List Segment} {s : Session}
    {reason : Rejection}
    (h : rejection? s.settings.thread.maxSegmentChars segments = some reason) :
    publishAbout topic segments s = (.ok (.rejected reason.message segments), s) := by
  unfold publishAbout
  rw [Run.bind_ok (Run.get_eq s), h]
  rfl

/-- **Every run of an attempt is a path** from its first moment to its end. -/
theorem publishAbout_reaches (topic : Option String) {segments : List Segment} {s : Session}
    (h : rejection? s.settings.thread.maxSegmentChars segments = none) :
    ∃ events, Reaches (first topic segments s) events
      (.ofResult (publishAbout topic segments s)) := by
  have hid : Run.freshId s = (.ok (s.ids s.idsTaken), { s with idsTaken := s.idsTaken + 1 }) :=
    rfl
  have hnow : Run.now { s with idsTaken := s.idsTaken + 1 }
      = (.ok s.now, { s with idsTaken := s.idsTaken + 1 }) := rfl
  obtain ⟨answer, s₁, hpersist, -⟩ := Run.onDrafts_stores .persist
    (.persist (draftOf topic segments s)) (fun _ => Drafts.persist (draftOf topic segments s))
    { s with idsTaken := s.idsTaken + 1 }
  have hopened := Step.persist hpersist
  have hpersist : Run.persist (.new (s.ids s.idsTaken) segments topic s.now)
      { s with idsTaken := s.idsTaken + 1 } = (.ok answer, s₁) := hpersist
  unfold publishAbout
  rw [Run.bind_ok (Run.get_eq s), h]
  simp only [Run.bind_ok hid, Run.bind_ok hnow]
  rw [Run.bind_ok hpersist]
  cases answer with
  | error e => exact ⟨_, hopened.reaches⟩
  | ok _ =>
    obtain ⟨events, hpath⟩ := publishDraft_reaches (draftOf topic segments s) s₁
    exact ⟨_, .after hopened hpath⟩

end PostingTerminal.Attempt
