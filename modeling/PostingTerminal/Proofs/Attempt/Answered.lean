import PostingTerminal.Proofs.Attempt.Keeps

/-!
# An attempt whose posts are answered

An attempt comes to a halt only at a post, and only if the platform crashes or is waited for
without an end.

* `Session.Answered` — no post in a session ends so: it is answered, or given up in time.
* `Step.answered` — **a step keeps this**, and the post that it may make has an answer.
* `publishAbout_answered` — **an attempt in such a session gives a result**.
* `Completes`, `calls_complete` — **it goes one of four ways** once there is content, and finishes
  every record that it has begun, once.
-/

namespace PostingTerminal

open Platform (Request)
open Run (Keeps)

/-- Waiting for a response comes to an end, without a crash. -/
def Run.Settles {α : Type} (limit : Option Nat) (response : Response α) : Prop :=
  ∃ outcome, (settle limit response).1 = .ok outcome

/-- Waiting for an answer comes to an end. -/
theorem Run.settles_answer {α : Type} (limit : Option Nat) (delay : Nat) (value : α) :
    Settles limit (.answer delay value) := by
  unfold Settles settle
  cases limit with
  | none => exact ⟨.ok value, rfl⟩
  | some seconds =>
    simp only
    split <;> exact ⟨_, rfl⟩

namespace Session

/-- Waiting for the platform comes to an end at every post, without a crash. -/
def Answered (s : Session) : Prop :=
  ∀ script, s.platform = .scripted script → ∀ k,
    Run.Settles s.settings.thread.postTimeoutSecs (script.top k) ∧
      Run.Settles s.settings.thread.postTimeoutSecs (script.reply k)

variable {s s' : Session}

/-- It depends on the settings and the platform whether posts are answered. -/
theorem Answered.of_eq (h : s.Answered) (hsettings : s'.settings = s.settings)
    (hplatform : s'.platform = s.platform) : s'.Answered := by
  unfold Answered
  rw [hsettings, hplatform]
  exact h

/-- On a dry run every post is answered. -/
theorem answered_dryRun {state : Platform.DryRun} (h : s.platform = .dryRun state) :
    s.Answered := by
  intro script hscript
  rw [h] at hscript
  cases hscript

end Session

namespace Attempt

variable {s s' : Session}

/-! ## One post -/

/-- Where posts are answered the response to a post settles, and they still are after it. -/
theorem answered_of_posts {α : Type} {parent : Option MessageId} {request : Request}
    {written : Platform.Script → Response α} {response : Response α}
    (hposts : s.Posts parent request written response s') (h : s.Answered)
    (hwritten : ∀ script, s.platform = .scripted script →
      Run.Settles s.settings.thread.postTimeoutSecs (written script)) :
    Run.Settles s'.settings.thread.postTimeoutSecs response ∧ s'.Answered := by
  cases hposts with
  | scripted hplatform => exact ⟨hwritten _ hplatform, h.of_eq rfl rfl⟩
  | dryRun hplatform => exact ⟨Run.settles_answer _ _ _, Session.answered_dryRun rfl⟩

/-- A post whose response settles has an answer. -/
theorem settled_answered {α : Type} (wrap : Except Error α → Answer)
    (hwrap : ∀ outcome halt, wrap outcome ≠ .lost halt) {post : Run (Response α)}
    {response : Response α} (hpost : post s = (.ok response, s'))
    (hsettles : Run.Settles s'.settings.thread.postTimeoutSecs response) (h : s'.Answered) :
    (∀ halt, (settled wrap (do Run.await (← post)) s).1 ≠ .lost halt) ∧
      (settled wrap (do Run.await (← post)) s).2.Answered := by
  obtain ⟨outcome, houtcome⟩ := hsettles
  rw [settled_await wrap hpost, houtcome]
  exact ⟨hwrap outcome, h.of_eq rfl rfl⟩

/-- Where posts are answered the platform is not asked in vain. -/
theorem ask_answered (h : s.Answered) (parent : Option MessageId) (request : Request) :
    (∀ halt, (ask parent request s).1 ≠ .lost halt) ∧ (ask parent request s).2.Answered := by
  unfold ask
  cases parent with
  | none =>
    obtain ⟨response, s', hpost, hposts⟩ := Run.postTop_posts request s
    obtain ⟨hsettles, h'⟩ := answered_of_posts hposts h fun script hplatform =>
      (h script hplatform _).1
    exact settled_answered .top (fun _ => nofun) hpost hsettles h'
  | some parent =>
    obtain ⟨response, s', hpost, hposts⟩ := Run.postReply_posts parent request s
    obtain ⟨hsettles, h'⟩ := answered_of_posts hposts h fun script hplatform =>
      (h script hplatform _).2
    exact settled_answered .reply (fun _ => nofun) hpost hsettles h'

/-! ## A whole attempt -/

/-- **Where posts are answered they still are after a step**, and the one that the step may make
has an answer. -/
theorem Step.answered {m m' : Moment} {e : Event} (hstep : Step m e m')
    (h : m.session.Answered) :
    m'.session.Answered ∧ ∀ post, e.post? = some post → ∀ halt, post.answer ≠ .lost halt := by
  have hsettings := hstep.notes.settings
  cases e with
  | posted p =>
    obtain ⟨time, hask⟩ := hstep.asked
    have hasked := ask_answered (s := { m.session with elapsed := time }) (h.of_eq rfl rfl)
      p.parent p.request
    rw [hask] at hasked
    refine ⟨hasked.2, ?_⟩
    rintro post ⟨⟩
    exact hasked.1
  | _ =>
    refine ⟨h.of_eq hsettings (hstep.keeps_stores hidesStores_platform rfl), ?_⟩
    rintro post ⟨⟩

/-- Where posts are answered every post of an attempt has an answer. -/
theorem Reaches.answered {start m : Moment} {events : List Event} (h : Reaches start events m)
    (hstart : start.session.Answered) :
    m.session.Answered ∧ ∀ post ∈ postsOf events, ∀ halt, post.answer ≠ .lost halt := by
  induction h with
  | here => exact ⟨hstart, fun _ hmem => absurd hmem List.not_mem_nil⟩
  | @step events m e m' _ step ih =>
    obtain ⟨hsession, hposts⟩ := ih
    obtain ⟨hsession', hpost⟩ := step.answered hsession
    refine ⟨hsession', ?_⟩
    intro post hmem
    rw [postsOf_concat, List.mem_append] at hmem
    rcases hmem with hmem | hmem
    · exact hposts post hmem
    · exact hpost post (Option.mem_toList.1 hmem)

/-- **Where posts are answered an attempt gives a result**, and posts are answered after it. -/
theorem publishAbout_answered (h : s.Answered) (topic : Option String) (segments : List Segment) :
    (∀ halt, (publishAbout topic segments s).1 ≠ .error halt) ∧
      (publishAbout topic segments s).2.Answered := by
  cases hrejection : rejection? s.settings.thread.maxSegmentChars segments with
  | some reason =>
    rw [publishAbout_rejected hrejection]
    refine ⟨?_, h⟩
    rintro halt ⟨⟩
  | none =>
    obtain ⟨events, hpath⟩ := publishAbout_reaches topic hrejection
    obtain ⟨hsession, hposts⟩ := hpath.answered (h.of_eq rfl rfl)
    refine ⟨?_, hsession⟩
    intro halt hhalted
    have hcourse := course_of_reaches hpath
    rw [hhalted] at hcourse
    obtain ⟨post, hlast, hlost⟩ := hcourse.lost_post
    exact hposts post (List.mem_of_getLast? hlast) halt hlost

/-! ## The four ways -/

/-- The ways an attempt with a draft goes that gives a result, under a limit. -/
inductive Completes (limit : Nat) (d : Draft) : List Event → Prop
  /-- There are no segments, or one of them is beyond the limit: nothing is called. -/
  | refused (h : d.segments = [] ∨ ∃ x ∈ d.segments, limit < x.charCount) : Completes limit d []
  /-- The draft could not be saved. -/
  | unsaved (e : Error) : Completes limit d [.persisted d (.error e)]
  /-- The record could not be marked as being published, and the draft is finished as failed. -/
  | unstarted (e : Error) (time : Timestamp) (answer : Except Error Unit) :
      Completes limit d [.persisted d (.ok ()), .updated d.id .publishing (.error e),
        .finalized (d.standing .failed [] time) answer]
  /-- Every segment has been posted, and the draft is finished as published. -/
  | published {ids rounds} (h : Rounds d.id d.segments ids rounds) (time : Timestamp)
      (answer : Except Error Unit) :
      Completes limit d (begun d ++ rounds ++ [.finalized (d.standing .published ids time) answer])
  /-- The last post has not become a message, and the draft is finished as failed. -/
  | stopped {posted ids rounds x rest postTime postAnswer} (h : Rounds d.id posted ids rounds)
      (left : d.segments = posted ++ x :: rest) (unsuccessful : postAnswer.id? = none)
      (time : Timestamp) (answer : Except Error Unit) :
      Completes limit d (begun d ++ rounds
        ++ [.posted ⟨ids.getLast?, postRequest d.id posted.length x, postTime, postAnswer⟩]
        ++ [.finalized (d.standing .failed ids time) answer])

/-- A course that comes to a result is one of them. -/
theorem Course.completes {d : Draft} {p : Publication} {events : List Event}
    (h : Course d (.ok p) events) (limit : Nat) : Completes limit d events := by
  cases h with
  | unsaved e => exact .unsaved e
  | finished hconcluded time answer =>
    cases hconcluded with
    | unstarted e => exact .unstarted e time answer
    | published hrounds => exact .published hrounds time answer
    | stopped hrounds left answered =>
      exact .stopped hrounds left (Answer.id?_eq_none answered) time answer

/-- **The calls of an attempt whose posts are answered.**  Once there is content, it gives a result.
Its calls have gone one of four ways: there is none, since there is nothing to post or a segment is
beyond the limit; the draft could not be saved; it was finished at once, as it could not be marked;
or it was finished after its posts, of which the last one alone may have been in vain.  Every record
that has been begun has been finished once. -/
theorem calls_complete (h : s.Answered) {input : Input} {segments : List Segment} {s₀ : Session}
    (hcontent : input.content s = (.ok (.ok segments), s₀)) :
    ∃ p events, (input.publish s).1 = .ok p ∧
      s₀.Notes (input.publish s).2 (events.map Event.call) ∧
      Completes s₀.settings.thread.maxSegmentChars (draftOf input.topic? segments s₀) events ∧
      events.countP Event.finishes = events.countP Event.begins := by
  let shown (s : Session) := (s.settings, s.platform)
  have hkept : Keeps shown input.content s :=
    keeps_content (fun _ _ _ => rfl) (fun _ _ => rfl) (fun _ _ => rfl) input s
  obtain ⟨hsettings, hplatform⟩ := Prod.mk.inj (hkept.outcome hcontent)
  have hcomes := input.publish_comes s
  generalize input.publish s = result at hcomes ⊢
  cases hcomes with
  | halted hother | unwritten hother => cases hcontent.symm.trans hother
  | refused hother hrefused =>
    cases hcontent.symm.trans hother
    exact ⟨_, [], rfl, .refl s₀, .refused (rejection?_ne_none_iff.1 hrefused), rfl⟩
  | made hother haccepted =>
    cases hcontent.symm.trans hother
    obtain ⟨events, hpath⟩ := publishAbout_reaches input.topic? haccepted
    have hcourse := course_of_reaches hpath
    have hgives := (publishAbout_answered (h.of_eq hsettings hplatform) input.topic? segments).1
    cases hresult : (publishAbout input.topic? segments s₀).1 with
    | error halt => exact absurd hresult (hgives halt)
    | ok p =>
      refine ⟨p, events, rfl, hpath.notes_first, ?_, hcourse.finishes_once hresult⟩
      rw [hresult] at hcourse
      exact hcourse.completes _

end Attempt

end PostingTerminal
