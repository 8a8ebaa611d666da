import PostingTerminal.Proofs.Attempt.Course
import PostingTerminal.Terminal.Action

/-!
# What a command shows content generation

A command may call every collaborator, but it does not write to the transcript: what it has come
to is logged only afterwards.  So whatever a command asks the generator for, it shows it the
transcript as it was when the command began.

* `Session.context` — what of its transcript a session shows.
* `Session.Aside` — what runs leave of a session that log nothing: its transcript, and what its
  calls have shown.
* `Run.Quiet` — a run in a session logs nothing, and stalls only where it waits for an answer that
  never comes.  `Run.Quiet.bind` puts such runs one after the other.
* `quiet_createThread`, `quiet_threadStatus` — **the commands of a terminal are such runs**.

Calls of stores may fail on the way, but for the one that reads the transcript.
-/

namespace PostingTerminal

open Store (Drafts)

namespace Session

/-- What content generation is shown of the transcript of a session. -/
def context (s : Session) : String :=
  match s.transcript.recent s.settings.recentLimit with
  | .error _ => ""
  | .ok entries => Store.history entries

/-- Calls are noted, and those that ask for content show what the session does. -/
def Shows (s s' : Session) : Prop :=
  ∃ calls, s.Notes s' calls ∧
    ∀ topic context memories, .generate topic context memories ∈ calls → context = s.context

/-- What runs leave of a session that log nothing. -/
structure Aside (s s' : Session) : Prop where
  transcript : s'.transcript = s.transcript
  ids : s'.ids = s.ids
  shows : s.Shows s'

/-- A session waits without a limit for an answer of the platform that never comes: that to its
last post. -/
def AwaitsPost (s : Session) : Prop :=
  s.settings.thread.postTimeoutSecs = none ∧
    ∃ script k, s.platform = .scripted script ∧ s.postCount = k + 1 ∧
      (script.top k = .never ∨ script.reply k = .never)

/-- A session waits for an answer that never comes, of the platform or of the generator. -/
def Awaits (s : Session) : Prop := s.AwaitsPost ∨ s.Unanswered

variable {s s' s'' : Session}

/-- Calls that are noted leave the settings. -/
theorem Shows.settings (h : s.Shows s') : s'.settings = s.settings := h.elim fun _ h => h.1.settings

/-- Calls that are noted leave it open which calls fail. -/
theorem Shows.faults (h : s.Shows s') : s'.faults = s.faults := h.elim fun _ h => h.1.faults

/-- Calls that are noted leave what the clock will show. -/
theorem Shows.clock (h : s.Shows s') : s'.clock = s.clock := h.elim fun _ h => h.1.clock

/-- What a session shows depends on its transcript and its settings. -/
theorem Aside.context (h : s.Aside s') : s'.context = s.context := by
  unfold Session.context
  rw [h.transcript, h.shows.settings]

/-- What runs leave that log nothing is left by them one after the other, too. -/
theorem Aside.shows_trans (h : s.Aside s') (h' : s'.Shows s'') : s.Shows s'' := by
  obtain ⟨calls, hnotes, hshown⟩ := h.shows
  obtain ⟨calls', hnotes', hshown'⟩ := h'
  refine ⟨calls ++ calls', hnotes.trans hnotes', ?_⟩
  intro topic context memories hmem
  rcases List.mem_append.1 hmem with hmem | hmem
  · exact hshown topic context memories hmem
  · rw [← h.context]
    exact hshown' topic context memories hmem

/-- Runs that log nothing leave that, one after the other. -/
theorem Aside.trans (h : s.Aside s') (h' : s'.Aside s'') : s.Aside s'' :=
  ⟨h'.transcript.trans h.transcript, h'.ids.trans h.ids, h.shows_trans h'.shows⟩

/-- A call that does not ask for content shows nothing. -/
theorem Shows.of_call {c : Call} (h : s.Notes s' [c]) (hc : c.isGenerate = false) :
    s.Shows s' := by
  refine ⟨[c], h, ?_⟩
  intro topic context memories hmem
  rw [List.mem_singleton] at hmem
  rw [← hmem] at hc
  cases hc

/-- What logs nothing and makes no call leaves everything. -/
theorem Aside.of_eq (htranscript : s'.transcript = s.transcript) (hids : s'.ids = s.ids)
    (hsettings : s'.settings = s.settings) (hfaults : s'.faults = s.faults)
    (hclock : s'.clock = s.clock) (hjournal : s'.journal = s.journal) : s.Aside s' := by
  refine ⟨htranscript, hids, [], ⟨hsettings, hfaults, hclock, ?_⟩, ?_⟩
  · rw [hjournal, List.append_nil]
  · intro topic context memories hmem
    cases hmem

/-- Nothing leaves everything. -/
theorem Aside.refl (s : Session) : s.Aside s := .of_eq rfl rfl rfl rfl rfl rfl

/-- A call that does not ask for content leaves everything. -/
theorem aside_note {c : Call} (hc : c.isGenerate = false) (s : Session) : s.Aside (s.note c) :=
  ⟨rfl, rfl, .of_call ⟨rfl, rfl, rfl, rfl⟩ hc⟩

end Session

/-! ## Quiet runs -/

namespace Run

/-- A run in a session logs nothing and shows what the session does, and it stalls only where it
waits for an answer that never comes. -/
structure Quiet {α : Type} (x : Run α) (s : Session) : Prop where
  aside : s.Aside (x s).2
  awaits : (x s).1 = .error .stalled → (x s).2.Awaits

variable {α β : Type} {x : Run α} {f : α → Run β} {s : Session}

/-- What a run in a session comes to makes it quiet. -/
theorem Quiet.of_eq {outcome : Except Halt α} {s' : Session} (h : x s = (outcome, s'))
    (haside : s.Aside s') (hawaits : outcome = .error .stalled → s'.Awaits) : Quiet x s := by
  refine ⟨?_, ?_⟩ <;> rw [h]
  · exact haside
  · exact hawaits

/-- What a quiet run has come to. -/
theorem Quiet.outcome {outcome : Except Halt α} {s' : Session} (hx : Quiet x s)
    (h : x s = (outcome, s')) : s.Aside s' ∧ (outcome = .error .stalled → s'.Awaits) := by
  obtain ⟨haside, hawaits⟩ := hx
  rw [h] at haside hawaits
  exact ⟨haside, hawaits⟩

/-- A value is quiet. -/
theorem quiet_pure (a : α) (s : Session) : Quiet (pure a) s := ⟨.refl s, nofun⟩

/-- Reading the session is quiet. -/
theorem quiet_get (s : Session) : Quiet get s := ⟨.refl s, nofun⟩

/-- Reading the clock is quiet. -/
theorem quiet_now (s : Session) : Quiet now s := ⟨.refl s, nofun⟩

/-- **Quiet runs can be put one after the other.** -/
theorem Quiet.bind (hx : Quiet x s) (hf : ∀ a s', x s = (.ok a, s') → Quiet (f a) s') :
    Quiet (x >>= f) s := by
  rcases hrun : x s with ⟨halt | a, s'⟩
  · obtain ⟨haside, hawaits⟩ := hx.outcome hrun
    apply Quiet.of_eq (bind_error hrun) haside
    intro hstalled
    apply hawaits
    cases hstalled
    rfl
  · obtain ⟨haside, -⟩ := hx.outcome hrun
    have hnext := hf a s' hrun
    exact Quiet.of_eq ((bind_ok hrun).trans rfl) (haside.trans hnext.aside) hnext.awaits

/-- A call of a store other than the transcript is quiet, whether it fails or not. -/
theorem quiet_step {m : Method} {c : Call} (hc : c.isGenerate = false) {f : SessionStep α}
    (hf : ∀ s : Session, s.Aside (f s).2) (s : Session) : Quiet (step (Session.call m c f)) s := by
  obtain ⟨answer, s', hcall, hmakes⟩ := step_call m c f s
  refine Quiet.of_eq hcall ?_ nofun
  have hnoted := Session.aside_note hc s
  cases hmakes with
  | made h | lost h hafter => exact hnoted.trans (hf _)
  | failed h hbefore => exact hnoted

/-- A change of the drafts logs nothing. -/
theorem aside_drafts (s : Session) (drafts : Drafts) : s.Aside { s with drafts := drafts } :=
  .of_eq rfl rfl rfl rfl rfl rfl

/-- A call of the drafts is quiet. -/
theorem quiet_onDrafts {m : Method} {c : Call} (hc : c.isGenerate = false)
    (op : Timestamp → Store.Step α) (s : Session) :
    Quiet (step (Session.call m c fun s => Session.onDrafts (op s.now) s)) s :=
  quiet_step hc (fun s => aside_drafts s _) s

/-- Recalling is quiet. -/
theorem quiet_relevant (topic : String) (s : Session) : Quiet (relevant topic) s :=
  quiet_step rfl .refl s

/-- Remembering is quiet. -/
theorem quiet_remember (kind : Store.MemoryKind) (text : String) (s : Session) :
    Quiet (remember kind text) s :=
  quiet_step rfl (fun _ => .of_eq rfl rfl rfl rfl rfl rfl) s

/-- Checking a cooldown is quiet. -/
theorem quiet_cooldownStatus (name : String) (s : Session) : Quiet (cooldownStatus name) s :=
  quiet_step rfl .refl s

/-- Starting a cooldown is quiet. -/
theorem quiet_cooldownMark (name : String) (s : Session) : Quiet (cooldownMark name) s :=
  quiet_step rfl (fun _ => .of_eq rfl rfl rfl rfl rfl rfl) s

/-- Asking for content is quiet if what is shown is what the session shows. -/
theorem quiet_generate {topic context memories : String} (h : context = s.context) :
    Quiet (generate topic context memories) s := by
  obtain ⟨outcome, generator, time, hrun⟩ := generate_session topic context memories s
  have hnotes : s.Notes (generate topic context memories s).2
      [.generate topic context memories] := by
    rw [hrun]
    exact ⟨rfl, rfl, rfl, rfl⟩
  refine ⟨⟨?_, ?_, _, hnotes, ?_⟩, ?_⟩
  · rw [hrun]
    rfl
  · rw [hrun]
    rfl
  · intro topic' context' memories' hmem
    cases List.mem_singleton.1 hmem
    exact h
  · intro hstalled
    exact .inr (unanswered_of_generate (Prod.ext hstalled rfl))

end Run

/-! ## Posting -/

namespace Attempt

open Platform (Request)

/-- A wait stalls only for an answer that never comes, and without a limit. -/
theorem settle_eq_stalled {α : Type} {limit : Option Nat} {response : Response α}
    (h : (Run.settle limit response).1 = .error .stalled) : limit = none ∧ response = .never := by
  cases limit with
  | none => cases response <;> simp_all [Run.settle]
  | some seconds =>
    cases response with
    | never => cases h
    | answer delay value | crash delay =>
      simp only [Run.settle] at h
      split at h <;> cases h

/-- Posting and waiting for the answer stalls only if the platform never answers. -/
theorem settled_stalled {α : Type} (wrap : Except Error α → Answer)
    {post : Run (Response α)} {s s' : Session} {response : Response α}
    (hwrap : ∀ outcome, wrap outcome ≠ .lost .stalled) (hpost : post s = (.ok response, s'))
    (h : (settled wrap (do Run.await (← post)) s).1 = .lost .stalled) :
    response = .never ∧ s'.settings.thread.postTimeoutSecs = none ∧
      (settled wrap (do Run.await (← post)) s).2 = s' := by
  rw [settled_await wrap hpost] at h ⊢
  rcases hsettle : Run.settle s'.settings.thread.postTimeoutSecs response with ⟨outcome, time⟩
  rw [hsettle] at h
  cases outcome with
  | ok outcome => exact absurd h (hwrap outcome)
  | error halt =>
    obtain rfl : halt = .stalled := Answer.lost.inj h
    obtain ⟨hlimit, rfl⟩ := settle_eq_stalled (congrArg Prod.fst hsettle)
    rw [hlimit] at hsettle
    obtain rfl : 0 = time := congrArg Prod.snd hsettle
    exact ⟨rfl, hlimit, rfl⟩

/-- A platform that does not answer a post is scripted so. -/
theorem never_of_posts {α : Type} {s s' : Session} {parent : Option MessageId} {request : Request}
    {written : Platform.Script → Response α}
    (h : s.Posts parent request written .never s') :
    ∃ script, s'.platform = .scripted script ∧ s'.postCount = s.postCount + 1 ∧
      written script = .never := by
  generalize hresponse : (.never : Response α) = response at h
  cases h with
  | @scripted script hplatform =>
    exact ⟨script, hplatform, s.postCount_note _, rfl⟩
  | dryRun hplatform => cases hresponse

/-- Asking the platform stalls only if it never answers. -/
theorem ask_stalled {parent : Option MessageId} {request : Request} {s : Session}
    (h : (ask parent request s).1 = .lost .stalled) : (ask parent request s).2.Awaits := by
  unfold ask at h ⊢
  cases parent with
  | none =>
    obtain ⟨response, s', hpost, hposts⟩ := Run.postTop_posts request s
    obtain ⟨rfl, hlimit, hsession⟩ := settled_stalled .top (fun _ => nofun) hpost h
    obtain ⟨script, hplatform, hcount, hnever⟩ := never_of_posts hposts
    simp only [hsession]
    exact .inl ⟨hlimit, script, s.postCount, hplatform, hcount, .inl hnever⟩
  | some parent =>
    obtain ⟨response, s', hpost, hposts⟩ := Run.postReply_posts parent request s
    obtain ⟨rfl, hlimit, hsession⟩ := settled_stalled .reply (fun _ => nofun) hpost h
    obtain ⟨script, hplatform, hcount, hnever⟩ := never_of_posts hposts
    simp only [hsession]
    exact .inl ⟨hlimit, script, s.postCount, hplatform, hcount, .inr hnever⟩

/-- Asking the platform logs nothing. -/
theorem ask_aside (parent : Option MessageId) (request : Request) (s : Session) :
    s.Aside (ask parent request s).2 := by
  obtain ⟨platform, time, hask⟩ := ask_session parent request s
  rw [hask]
  exact ⟨rfl, rfl, .of_call (c := .post parent request s.elapsed) ⟨rfl, rfl, rfl, rfl⟩ rfl⟩

end Attempt

open Run

/-- Posting a segment is quiet. -/
theorem quiet_postSegment (d : Draft) (index : Nat) (x : Segment) (s : Session) :
    Quiet (postSegment d index x) s := by
  apply Quiet.of_eq (Attempt.postSegment_eq d index x s) (Attempt.ask_aside _ _ s)
  intro hstalled
  exact Attempt.ask_stalled (Attempt.Answer.result_eq_error.1 hstalled)

/-- The pause before a post is quiet. -/
theorem quiet_pauseBefore (index : Nat) (s : Session) : Quiet (pauseBefore index) s := by
  obtain ⟨time, hpause⟩ := Attempt.pauseBefore_session index s
  exact Quiet.of_eq hpause (.of_eq rfl rfl rfl rfl rfl rfl) nofun

/-- Posting segments is quiet. -/
theorem quiet_postFrom (d : Draft) (index : Nat) (segments : List Segment) (s : Session) :
    Quiet (postFrom d index segments) s := by
  induction segments generalizing d index s with
  | nil => exact quiet_pure _ s
  | cons x rest ih =>
    unfold postFrom
    refine (quiet_pauseBefore index s).bind fun _ s _ => ?_
    refine (quiet_postSegment d index x s).bind fun result s _ => ?_
    cases result with
    | error e => exact quiet_pure _ s
    | ok id =>
      refine (quiet_now s).bind fun now s _ => ?_
      split
      · exact quiet_pure _ s
      · refine (quiet_onDrafts rfl _ s).bind fun _ s _ => ?_
        exact (quiet_remember _ _ s).bind fun _ s _ => ih _ _ s

/-- Finishing a draft is quiet. -/
theorem quiet_finish (d : Draft) (status : DraftStatus) (s : Session) :
    Quiet (finish d status) s := by
  unfold finish
  refine (quiet_now s).bind fun now s _ => ?_
  split
  · exact quiet_pure _ s
  · exact (quiet_onDrafts rfl _ s).bind fun _ s _ => quiet_pure _ s

/-- Moving a draft to publishing is quiet. -/
theorem quiet_startPublishing (d : Draft) (s : Session) : Quiet (startPublishing d) s := by
  unfold startPublishing
  refine (quiet_onDrafts rfl _ s).bind fun result s _ => ?_
  cases result with
  | error e => exact quiet_pure _ s
  | ok _ => exact (quiet_now s).bind fun now s _ => quiet_pure _ s

/-- Posting a draft is quiet. -/
theorem quiet_publishDraft (d : Draft) (s : Session) : Quiet (publishDraft d) s := by
  unfold publishDraft
  refine (quiet_startPublishing d s).bind fun started s _ => ?_
  cases started with
  | error e => exact (quiet_finish d .failed s).bind fun _ s _ => quiet_pure _ s
  | ok d =>
    refine (quiet_postFrom d 0 d.segments s).bind fun posted s _ => ?_
    obtain ⟨_ | e, d⟩ := posted
    · exact (quiet_finish d .published s).bind fun _ s _ => quiet_pure _ s
    · exact (quiet_finish d .failed s).bind fun _ s _ => quiet_pure _ s

/-- Publishing segments is quiet. -/
theorem quiet_publishAbout (topic : Option String) (segments : List Segment) (s : Session) :
    Quiet (publishAbout topic segments) s := by
  have hid (s : Session) : Quiet freshId s :=
    Quiet.of_eq rfl (.of_eq rfl rfl rfl rfl rfl rfl) nofun
  unfold publishAbout
  refine (quiet_get s).bind fun now s _ => ?_
  split
  · exact quiet_pure _ s
  · refine (hid s).bind fun id s _ => ?_
    refine (quiet_now s).bind fun now s _ => ?_
    refine (quiet_onDrafts rfl (fun _ => Drafts.persist _) s).bind fun result s _ => ?_
    cases result with
    | error e => exact quiet_pure _ s
    | ok _ => exact quiet_publishDraft _ s

/-! ## Creating a thread -/

/-- Content generation is shown what the session shows, if the transcript can be read. -/
theorem generationContext_eq {s : Session}
    (h : s.faults .recent (s.callCount .recent) = none) :
    generationContext s = (.ok s.context, s.note (.recent s.settings.recentLimit)) := by
  have hrecent : recent s.settings.recentLimit s
      = (.ok (s.transcript.recent s.settings.recentLimit),
        s.note (.recent s.settings.recentLimit)) := by
    simp only [recent, step, Session.call, h]
    rfl
  unfold generationContext Session.context
  rw [bind_ok (get_eq s), bind_ok hrecent]
  cases s.transcript.recent s.settings.recentLimit <;> rfl

namespace Attempt

/-- Having content written is quiet, if the transcript can be read. -/
theorem quiet_content {s : Session} (input : Input) (h : ∀ n, s.faults .recent n = none) :
    Quiet input.content s := by
  cases input with
  | given segments => exact quiet_pure _ s
  | about topic =>
    have hcontext := generationContext_eq (h (s.callCount .recent))
    have hnoted := Session.aside_note (c := .recent s.settings.recentLimit) rfl s
    unfold Input.content
    refine (Quiet.of_eq hcontext hnoted nofun).bind fun context s₁ hrun => ?_
    cases hcontext.symm.trans hrun
    have hmemories :
        Quiet (generationMemories topic) (s.note (.recent s.settings.recentLimit)) := by
      unfold generationMemories
      refine (quiet_relevant topic _).bind fun result s _ => ?_
      cases result <;> exact quiet_pure _ s
    refine hmemories.bind fun memories s₂ hrun => ?_
    have hshown : s.context = s₂.context :=
      ((hmemories.outcome hrun).1.context.trans hnoted.context).symm
    exact quiet_generate hshown

/-- **Every attempt is quiet**, if the transcript can be read. -/
theorem quiet_publish {s : Session} (input : Input) (h : ∀ n, s.faults .recent n = none) :
    Quiet input.publish s := by
  have hcomes := input.publish_comes s
  generalize hpublish : input.publish s = result at hcomes
  cases hcomes with
  | halted hcontent =>
    obtain ⟨haside, hawaits⟩ := (quiet_content input h).outcome hcontent
    refine .of_eq hpublish haside fun hstalled => hawaits ?_
    cases hstalled
    rfl
  | unwritten hcontent | refused hcontent =>
    exact .of_eq hpublish ((quiet_content input h).outcome hcontent).1 nofun
  | @made segments s₀ hcontent =>
    have hquiet := quiet_publishAbout input.topic? segments s₀
    exact .of_eq hpublish (((quiet_content input h).outcome hcontent).1.trans hquiet.aside)
      hquiet.awaits

end Attempt

namespace Terminal

open CommandLine (Args)

/-- **Creating a thread is quiet**, if the transcript can be read. -/
theorem quiet_createThread {s : Session} (args : Args) (h : ∀ n, s.faults .recent n = none) :
    Quiet (createThread args) s := by
  unfold createThread
  refine (quiet_get s).bind fun s₀ s₁ hrun => ?_
  cases hrun
  refine (quiet_cooldownStatus _ _).bind fun result s₁ hrun => ?_
  have hfaults : ∀ n, s₁.faults .recent n = none := by
    rw [((quiet_cooldownStatus _ _).outcome hrun).1.shows.faults]
    exact h
  cases result with
  | error e => exact quiet_pure _ s₁
  | ok wait =>
    simp only
    split
    · exact quiet_pure _ s₁
    refine Quiet.bind ?_ fun _ s _ => quiet_pure _ s
    unfold createThreadAbout
    refine (Attempt.quiet_publish (.about _) hfaults).bind fun p s _ => ?_
    split
    · refine (quiet_get s).bind fun _ s _ => ?_
      exact (quiet_cooldownMark _ s).bind fun _ s _ => quiet_pure _ s
    · exact quiet_pure _ s

/-- **Showing what has become of a draft is quiet.** -/
theorem quiet_threadStatus (args : Args) (s : Session) : Quiet (threadStatus args) s := by
  unfold threadStatus
  refine (quiet_onDrafts rfl (fun _ => Drafts.fetch _) s).bind fun result s _ => ?_
  obtain e | _ | d := result <;> exact quiet_pure _ s

end Terminal

end PostingTerminal
