import PostingTerminal.Session.Calls

/-!
# What a call does to a session

* `Session.Notes` — what calls leave as it was, and the entries they add to the journal.
* `Session.Makes` — what a call of a store has done: it was made, or it failed as it had to,
  made or not.  `Run.step_call` — every call comes to its end and does one of these.
* `Session.Stores` — the same of a call of the drafts, seen from the drafts
  (`Run.onDrafts_stores`).
* `Run.await_eq`, `Run.attend_eq` — what comes of waiting for an answer, as a function of the
  limit, and without one.
* `Session.Posts` — what a post has done: it is answered as is written for it, or by a dry run.
  It touches the journal and the platform, and nothing else (`Run.postTop_session`,
  `Run.postReply_session`).
* `Run.generate_session` — asking for content touches the journal, the generator and the waiting
  clock alone.  It stalls only where the generator never answers (`Run.unanswered_of_generate`).
-/

namespace PostingTerminal

open Store (Drafts Entry MemoryKind)
open Platform (Request)

/-! ## Runs one after the other -/

section runs

variable {α β : Type} {x : Run α} {f : α → Run β} {s s' : Session}

/-- A run that comes to its end is followed by the next. -/
theorem Run.bind_ok {a : α} (h : x s = (.ok a, s')) : (x >>= f) s = f a s' := by
  show (ExceptT.bindCont f (x s).1 : StateM Session _) (x s).2 = f a s'
  rw [h]
  rfl

/-- A run that does not come to its end is followed by nothing. -/
theorem Run.bind_error {halt : Halt} (h : x s = (.error halt, s')) :
    (x >>= f) s = (.error halt, s') := by
  show (ExceptT.bindCont f (x s).1 : StateM Session _) (x s).2 = (.error halt, s')
  rw [h]
  rfl

end runs

/-- What is read of a session leaves it. -/
theorem Run.get_eq (s : Session) : (get : Run Session) s = (.ok s, s) := rfl

/-- The clock is read without a call. -/
theorem Run.now_eq (s : Session) : Run.now s = (.ok s.now, s) := rfl

namespace Session

/-- What the wall clock shows at the next call. -/
def nextTime (s : Session) : Timestamp := s.clock (s.journal.length + 1)

/-- A call is made at the time that the wall clock shows once it has been noted. -/
@[simp]
theorem now_note (s : Session) (c : Call) : (s.note c).now = s.nextTime := by
  unfold now nextTime note
  rw [List.length_append]
  rfl

/-- What calls leave as it was, and their entries in the journal. -/
structure Notes (s s' : Session) (calls : List Call) : Prop where
  settings : s'.settings = s.settings
  faults : s'.faults = s.faults
  clock : s'.clock = s.clock
  journal : s'.journal = s.journal ++ calls

/-- A session notes nothing while no call is made. -/
theorem Notes.refl (s : Session) : s.Notes s [] :=
  ⟨rfl, rfl, rfl, (List.append_nil s.journal).symm⟩

/-- Calls are noted in the order in which they are made. -/
theorem Notes.trans {s s' s'' : Session} {calls calls' : List Call} (h : s.Notes s' calls)
    (h' : s'.Notes s'' calls') : s.Notes s'' (calls ++ calls') := by
  refine ⟨h'.settings.trans h.settings, h'.faults.trans h.faults, h'.clock.trans h.clock, ?_⟩
  rw [h'.journal, h.journal, List.append_assoc]

/-- After calls the wall clock shows what it does when so many more have been made. -/
theorem Notes.now {s s' : Session} {calls : List Call} (h : s.Notes s' calls) :
    s'.now = s.clock (s.journal.length + calls.length) := by
  rw [Session.now, h.clock, h.journal, List.length_append]

/-- How often a method has been called is known from the calls that are noted. -/
theorem Notes.callCount {s s' : Session} {calls : List Call} (h : s.Notes s' calls) (m : Method) :
    s'.callCount m = s.callCount m + (calls.filter fun c => c.method? == some m).length := by
  rw [Session.callCount, Session.callCount, h.journal, List.filter_append, List.length_append]

/-- Noting a call adds it to the posts if it is one. -/
theorem postCount_note (s : Session) (c : Call) :
    (s.note c).postCount = s.postCount + if c.isPost then 1 else 0 := by
  rw [postCount, postCount, note, List.filter_append, List.length_append]
  cases hc : c.isPost <;> simp [hc]

/-- Noting a call adds it to the calls for content if it is one. -/
theorem generateCount_note (s : Session) (c : Call) :
    (s.note c).generateCount = s.generateCount + if c.isGenerate then 1 else 0 := by
  rw [generateCount, generateCount, note, List.filter_append, List.length_append]
  cases hc : c.isGenerate <;> simp [hc]

/-! ## Calls of the stores -/

/-- What a call of a store has made of a session, and what it has answered. -/
inductive Makes {α : Type} (m : Method) (c : Call) (step : SessionStep α) (s : Session) :
    Except Error α → Session → Prop
  /-- The call has been made. -/
  | made (h : s.faults m (s.callCount m) = none) :
      Makes m c step s (step (s.note c)).1 (step (s.note c)).2
  /-- The call has failed instead of being made. -/
  | failed {fault : Fault} (h : s.faults m (s.callCount m) = some fault)
      (hbefore : fault.afterCall = false) : Makes m c step s (.error fault.error) (s.note c)
  /-- The call has failed after being made. -/
  | lost {fault : Fault} (h : s.faults m (s.callCount m) = some fault)
      (hafter : fault.afterCall = true) :
      Makes m c step s (.error fault.error) (step (s.note c)).2

/-- What a call of a method has made of the drafts, and what it has answered. -/
inductive Stores (m : Method) (step : Store.Step Unit) (s : Session) :
    Except Error Unit → Drafts → Prop
  /-- The step has been made. -/
  | made (h : s.faults m (s.callCount m) = none) :
      Stores m step s (step s.drafts).1 (step s.drafts).2
  /-- The call has failed instead of making the step. -/
  | failed {fault : Fault} (h : s.faults m (s.callCount m) = some fault)
      (hbefore : fault.afterCall = false) : Stores m step s (.error fault.error) s.drafts
  /-- The call has failed after making the step. -/
  | lost {fault : Fault} (h : s.faults m (s.callCount m) = some fault)
      (hafter : fault.afterCall = true) : Stores m step s (.error fault.error) (step s.drafts).2

variable {m : Method} {step : Store.Step Unit} {s : Session} {drafts : Drafts}

/-- A call that is answered without an error has made its step. -/
theorem Stores.of_ok (h : Stores m step s (.ok ()) drafts) :
    s.faults m (s.callCount m) = none ∧ (step s.drafts).1 = .ok () ∧
      drafts = (step s.drafts).2 := by
  generalize hanswer : (Except.ok () : Except Error Unit) = answer at h
  cases h with
  | made hnone => exact ⟨hnone, rfl, rfl⟩
  | failed => cases hanswer
  | lost => cases hanswer

/-! ## Posts -/

/-- What a post has made of a session, and what it is answered: what is written for it, or what a
dry run makes of it. -/
inductive Posts {α : Type} (s : Session) (parent : Option MessageId) (request : Request)
    (written : Platform.Script → Response α) : Response α → Session → Prop
  | scripted {script} (h : s.platform = .scripted script) :
      Posts s parent request written (written script) (s.note (.post parent request s.elapsed))
  | dryRun {state} (h : s.platform = .dryRun state) (state' : Platform.DryRun) (value : α) :
      Posts s parent request written (.answer 0 value)
        { s.note (.post parent request s.elapsed) with platform := .dryRun state' }

/-- A post is noted and changes the platform, and nothing else. -/
theorem Posts.session {α : Type} {s s' : Session} {parent : Option MessageId} {request : Request}
    {written : Platform.Script → Response α} {response : Response α}
    (h : s.Posts parent request written response s') :
    ∃ platform, s' = { s.note (.post parent request s.elapsed) with platform := platform } := by
  cases h with
  | scripted h => exact ⟨s.platform, rfl⟩
  | dryRun h state' => exact ⟨.dryRun state', rfl⟩

end Session

namespace Run

/-- A call of a method that makes a step of the drafts. -/
def onDrafts (m : Method) (c : Call) (op : Timestamp → Store.Step Unit) :
    Run (Except Error Unit) :=
  step (Session.call m c fun s => Session.onDrafts (op s.now) s)

/-- **Every call of a store comes to its end.**  It is made unless it is to fail. -/
theorem step_call {α : Type} (m : Method) (c : Call) (f : SessionStep α) (s : Session) :
    ∃ answer s', step (Session.call m c f) s = (.ok answer, s') ∧ s.Makes m c f answer s' := by
  unfold step Session.call
  cases hfault : s.faults m (s.callCount m) with
  | none => exact ⟨_, _, rfl, .made hfault⟩
  | some fault =>
    cases hafter : fault.afterCall with
    | false =>
      refine ⟨.error fault.error, s.note c, ?_, .failed hfault hafter⟩
      simp [hafter]
    | true =>
      refine ⟨.error fault.error, (f (s.note c)).2, ?_, .lost hfault hafter⟩
      simp [hafter]

/-- A call of the drafts is noted, and it makes its step at the time of the call unless it is to
fail. -/
theorem onDrafts_stores (m : Method) (c : Call) (op : Timestamp → Store.Step Unit) (s : Session) :
    ∃ answer s', onDrafts m c op s = (.ok answer, s') ∧ s.Notes s' [c] ∧
      s.Stores m (op s'.now) answer s'.drafts := by
  obtain ⟨answer, s', hcall, hmakes⟩ :=
    step_call m c (fun s => Session.onDrafts (op s.now) s) s
  refine ⟨answer, s', hcall, ?_⟩
  cases hmakes with
  | made h => exact ⟨⟨rfl, rfl, rfl, rfl⟩, .made h⟩
  | failed h hbefore => exact ⟨⟨rfl, rfl, rfl, rfl⟩, .failed h hbefore⟩
  | lost h hafter => exact ⟨⟨rfl, rfl, rfl, rfl⟩, .lost h hafter⟩

/-- What a call of the drafts that has been answered did. -/
theorem stores_of_onDrafts (op : Timestamp → Store.Step Unit) {m : Method} {c : Call}
    {s s' : Session} {answer : Except Error Unit} (h : onDrafts m c op s = (.ok answer, s')) :
    s.Notes s' [c] ∧ s.Stores m (op s'.now) answer s'.drafts := by
  obtain ⟨answer', s'', h', hstores⟩ := onDrafts_stores m c op s
  cases h.symm.trans h'
  exact hstores

section answered

variable {s s' : Session} {answer : Except Error Unit}

/-- What beginning a record did. -/
theorem stores_of_persist {d : Draft} (h : persist d s = (.ok answer, s')) :
    s.Notes s' [.persist d] ∧ s.Stores .persist (Drafts.persist d) answer s'.drafts :=
  stores_of_onDrafts (fun _ => Drafts.persist d) h

/-- What moving a record to another status did. -/
theorem stores_of_updateStatus {id : DraftId} {status : DraftStatus}
    (h : updateStatus id status s = (.ok answer, s')) :
    s.Notes s' [.update id status] ∧
      s.Stores .update (Drafts.updateStatus id status s'.now) answer s'.drafts :=
  stores_of_onDrafts (Drafts.updateStatus id status) h

/-- What appending an id to a record did. -/
theorem stores_of_recordId {id : DraftId} {message : MessageId}
    (h : recordId id message s = (.ok answer, s')) :
    s.Notes s' [.record id message] ∧
      s.Stores .record (Drafts.recordId id message s'.now) answer s'.drafts :=
  stores_of_onDrafts (Drafts.recordId id message) h

/-- What finishing a record did. -/
theorem stores_of_finalize {d : Draft} (h : finalize d s = (.ok answer, s')) :
    s.Notes s' [.finalize d] ∧ s.Stores .finalize (Drafts.finalize d s'.now) answer s'.drafts :=
  stores_of_onDrafts (Drafts.finalize d) h

end answered

/-- A text is remembered, or not, beside the drafts. -/
theorem remember_session (kind : MemoryKind) (text : String) (s : Session) :
    ∃ answer s', remember kind text s = (.ok answer, s') ∧ s.Notes s' [.remember kind text] ∧
      s'.drafts = s.drafts := by
  obtain ⟨answer, s', hcall, hmakes⟩ := step_call .remember (.remember kind text)
    (fun s => (.ok (), { s with knowledge := s.knowledge.remember kind text })) s
  refine ⟨answer, s', hcall, ?_⟩
  cases hmakes <;> exact ⟨⟨rfl, rfl, rfl, rfl⟩, rfl⟩

/-- What a call to remember that has been answered did. -/
theorem session_of_remember {kind : MemoryKind} {text : String} {s s' : Session}
    {answer : Except Error Unit} (h : remember kind text s = (.ok answer, s')) :
    s.Notes s' [.remember kind text] ∧ s'.drafts = s.drafts := by
  obtain ⟨answer', s'', h', hsession⟩ := remember_session kind text s
  cases h.symm.trans h'
  exact hsession

/-- Where the call does not fail, a class has to wait as the cooldowns tell at its time. -/
theorem cooldownStatus_eq {s : Session}
    (h : s.faults .cooldownStatus (s.callCount .cooldownStatus) = none) (name : String) :
    cooldownStatus name s
      = (.ok (.ok (s.cooldowns.status name s.nextTime)), s.note (.cooldownStatus name)) := by
  unfold cooldownStatus step Session.call
  rw [h, ← Session.now_note]
  rfl

/-- Where the call does not fail, the action of a class is recorded at its time. -/
theorem cooldownMark_eq {s : Session}
    (h : s.faults .cooldownMark (s.callCount .cooldownMark) = none) (name : String) :
    cooldownMark name s = (.ok (.ok ()),
      { s.note (.cooldownMark name) with
        cooldowns := s.cooldowns.recordAt name s.nextTime }) := by
  unfold cooldownMark step Session.call
  rw [h, ← Session.now_note s (.cooldownMark name)]
  rfl

/-! ## Calls of the platform -/

section platform

variable {α : Type}

/-- What comes of waiting for a response under a limit in seconds, and how long it takes. -/
def settle : (limit : Option Nat) → Response α → Except Halt (Except Error α) × Nat
  | none, .never => (.error .stalled, 0)
  | none, .answer delay value => (.ok (.ok value), delay)
  | none, .crash delay => (.error .crashed, delay)
  | some seconds, response =>
    let timeOut := (.ok (.error (.platform (.timedOut seconds))), 1000 * seconds)
    match response with
    | .never => timeOut
    | .answer delay value => if delay ≤ 1000 * seconds then (.ok (.ok value), delay) else timeOut
    | .crash delay => if delay ≤ 1000 * seconds then (.error .crashed, delay) else timeOut

/-- **Waiting for a response** settles it under the limit of the settings, and takes its time
on the waiting clock. -/
theorem await_eq (response : Response α) (s : Session) :
    await response s = ((settle s.settings.thread.postTimeoutSecs response).1,
      { s with
        elapsed := s.elapsed + (settle s.settings.thread.postTimeoutSecs response).2 }) := by
  unfold await
  rw [bind_ok (get_eq s)]
  cases s.settings.thread.postTimeoutSecs with
  | none => cases response <;> rfl
  | some seconds =>
    cases response with
    | never => rfl
    | answer delay value =>
      by_cases hdelay : delay ≤ 1000 * seconds
      · simp only [settle, if_pos hdelay]
        rfl
      · simp only [settle, if_neg hdelay]
        rfl
    | crash delay =>
      by_cases hdelay : delay ≤ 1000 * seconds
      · simp only [settle, if_pos hdelay]
        rfl
      · simp only [settle, if_neg hdelay]
        rfl

/-- An answer that is there at once is not waited for. -/
theorem await_now (value : α) (s : Session) : await (.answer 0 value) s = (.ok (.ok value), s) := by
  rw [await_eq]
  cases s.settings.thread.postTimeoutSecs with
  | none => rfl
  | some seconds =>
    rw [settle, if_pos (Nat.zero_le _)]
    rfl

/-- What a post at the top comes to on either platform. -/
theorem postTop_eq (request : Request) (s : Session) : postTop request s =
    match s.platform with
    | .scripted script =>
      (.ok (script.top s.postCount), s.note (.post none request s.elapsed))
    | .dryRun state => (.ok (.answer 0 (.ok (state.postTop request).1)),
        { s.note (.post none request s.elapsed) with
          platform := .dryRun (state.postTop request).2 }) := by
  unfold postTop Session.note
  cases s.platform <;> rfl

/-- What a reply comes to on either platform. -/
theorem postReply_eq (parent : MessageId) (request : Request) (s : Session) :
    postReply parent request s =
      match s.platform with
      | .scripted script =>
        (.ok (script.reply s.postCount), s.note (.post (some parent) request s.elapsed))
      | .dryRun state => (.ok (.answer 0 (state.postReply parent request).1),
          { s.note (.post (some parent) request s.elapsed) with
            platform := .dryRun (state.postReply parent request).2 }) := by
  unfold postReply Session.note
  cases s.platform <;> rfl

/-- A post at the top is answered as is written for it, or by a dry run. -/
theorem postTop_posts (request : Request) (s : Session) :
    ∃ response s', postTop request s = (.ok response, s') ∧
      s.Posts none request (·.top s.postCount) response s' := by
  rw [postTop_eq]
  cases hplatform : s.platform with
  | scripted script => exact ⟨_, _, rfl, .scripted hplatform⟩
  | dryRun state => exact ⟨_, _, rfl, .dryRun hplatform _ _⟩

/-- A reply is answered as is written for it, or by a dry run. -/
theorem postReply_posts (parent : MessageId) (request : Request) (s : Session) :
    ∃ response s', postReply parent request s = (.ok response, s') ∧
      s.Posts (some parent) request (·.reply s.postCount) response s' := by
  rw [postReply_eq]
  cases hplatform : s.platform with
  | scripted script => exact ⟨_, _, rfl, .scripted hplatform⟩
  | dryRun state => exact ⟨_, _, rfl, .dryRun hplatform _ _⟩

/-- A post at the top is noted and changes the platform, and nothing else. -/
theorem postTop_session (request : Request) (s : Session) :
    ∃ response platform, postTop request s
      = (.ok response, { s.note (.post none request s.elapsed) with platform := platform }) := by
  obtain ⟨response, s', hpost, hposts⟩ := postTop_posts request s
  obtain ⟨platform, rfl⟩ := hposts.session
  exact ⟨response, platform, hpost⟩

/-- A reply is noted and changes the platform, and nothing else. -/
theorem postReply_session (parent : MessageId) (request : Request) (s : Session) :
    ∃ response platform, postReply parent request s
      = (.ok response,
        { s.note (.post (some parent) request s.elapsed) with platform := platform }) := by
  obtain ⟨response, s', hpost, hposts⟩ := postReply_posts parent request s
  obtain ⟨platform, rfl⟩ := hposts.session
  exact ⟨response, platform, hpost⟩

end platform

end Run

/-! ## Calls of the generator -/

/-- What waiting for a response comes to without a limit, and how long it takes. -/
def Response.outcome {α : Type} : Response α → Except Halt α × Nat
  | .never => (.error .stalled, 0)
  | .answer delay value => (.ok value, delay)
  | .crash delay => (.error .crashed, delay)

/-- A wait without a limit stalls exactly if there is no answer. -/
theorem Response.outcome_eq_stalled_iff {α : Type} {response : Response α} :
    response.outcome.1 = .error .stalled ↔ response = .never := by
  cases response <;> simp [outcome]

namespace Run

/-- **Waiting without a limit** comes to the outcome of the response, and takes its time. -/
theorem attend_eq {α : Type} (response : Response α) (s : Session) :
    attend response s
      = (response.outcome.1, { s with elapsed := s.elapsed + response.outcome.2 }) := by
  cases response <;> rfl

/-- What asking for content comes to with any generator. -/
theorem generate_eq (topic context memories : String) (s : Session) :
    generate topic context memories s
      = ((s.generator.ask topic context memories s.generateCount).1.outcome.1,
        { s.note (.generate topic context memories) with
          generator := (s.generator.ask topic context memories s.generateCount).2
          elapsed := s.elapsed
            + (s.generator.ask topic context memories s.generateCount).1.outcome.2 }) := by
  have hrequest : request topic context memories s
      = (.ok (s.generator.ask topic context memories s.generateCount).1,
        { s.note (.generate topic context memories) with
          generator := (s.generator.ask topic context memories s.generateCount).2 }) := rfl
  unfold generate
  rw [bind_ok hrequest, attend_eq]
  rfl

/-- Asking for content is noted, changes the generator and takes time, and nothing else. -/
theorem generate_session (topic context memories : String) (s : Session) :
    ∃ outcome generator time, generate topic context memories s = (outcome,
      { s.note (.generate topic context memories) with
        generator := generator, elapsed := time }) :=
  ⟨_, _, _, generate_eq topic context memories s⟩

end Run

/-- A generator is silent after so many calls: the last one of them is never answered. -/
inductive Generator.Silent : (calls : Nat) → Generator → Prop
  | scripted {script call} (unanswered : script call = .never) :
      Silent (call + 1) (.scripted script)
  | model {writer service calls request} (sent : service.requests.length = request + 1)
      (unanswered : service.exchanges request = .never) : Silent calls (.model writer service)

/-- The last call of a session asks for content, and is never answered. -/
structure Session.Unanswered (s : Session) : Prop where
  asks : ∃ topic context memories, s.journal.getLast? = some (.generate topic context memories)
  silent : s.generator.Silent s.generateCount

/-- A model never writes a thread only where the service never replies. -/
theorem Generator.silent_of_write {writer : Llm.Writer} {service : Llm.Service}
    {topic context memories : String} (calls : Nat)
    (h : (writer.write topic context memories service).1 = .never) :
    (Generator.model writer (writer.write topic context memories service).2).Silent calls := by
  have hcompletion : (writer.client.complete (writer.systemText context memories)
      (Llm.userText topic) service).1 = .never := Response.map_eq_never_iff.1 h
  by_cases hsend : writer.client.canSend = true
  · simp only [Llm.Client.complete, hsend, if_true] at hcompletion
    simp only [Llm.Writer.write, Llm.Client.complete, hsend, if_true]
    have hnext : service.next = .never := Response.map_eq_never_iff.1 hcompletion
    exact .model List.length_append hnext
  · simp [Llm.Client.complete, hsend] at hcompletion

/-- A generator that never answers a call is silent after it. -/
theorem Generator.silent_of_ask {g : Generator} {topic context memories : String} {call : Nat}
    (h : (g.ask topic context memories call).1 = .never) :
    (g.ask topic context memories call).2.Silent (call + 1) := by
  cases g with
  | scripted script => exact .scripted h
  | disabled reason => cases h
  | model writer service => exact silent_of_write _ h

/-- **Asking for content stalls only where the generator never answers.** -/
theorem Run.unanswered_of_generate {topic context memories : String} {s s' : Session}
    (h : generate topic context memories s = (.error .stalled, s')) : s'.Unanswered := by
  rw [generate_eq] at h
  obtain ⟨houtcome, rfl⟩ := Prod.mk.inj h
  have hcount := s.generateCount_note (.generate topic context memories)
  refine ⟨⟨topic, context, memories, List.getLast?_concat⟩, ?_⟩
  show Generator.Silent (s.note (.generate topic context memories)).generateCount _
  rw [hcount]
  exact Generator.silent_of_ask (Response.outcome_eq_stalled_iff.1 houtcome)

end PostingTerminal
