import PostingTerminal.Proofs.Attempt.Keeps
import PostingTerminal.Proofs.Attempt.ReplyChain
import PostingTerminal.Proofs.Attempt.TerminalWrite
import PostingTerminal.Proofs.Session.Limit

/-!
# An attempt under a limit

An attempt with a limit on each post is compared with the attempt of the same session without one.

* `ask_asks` — what a post comes to under any limit, at the top and as a reply alike.
* `Step.limited`, `Reaches.limited` — **the limit does not show on a path whose posts are answered
  in time**: the same steps lead through the same moments.
* `Reaches.timedOut` — a path up to a post that is not answered in time leads, under the limit, to
  the end: the draft is finished as failed.
* `timeout_only_cuts_slow_posts` — **the limit changes nothing but an attempt with a slow post**,
  and that one it ends at the first such post.
-/

namespace PostingTerminal.Attempt

open Store (Drafts)
open Platform (Request)

/-! ## Posts under a limit -/

/-- Asking the platform for a post comes, under any limit, to waiting for one response. -/
structure Asks {α : Type} (parent : Option MessageId) (request : Request) (s : Session)
    (wrap : Except Error α → Answer) (response : Response α) (platform : Platform) : Prop where
  delay : response.delay? = s.platform.delay? parent s.postCount
  /-- The platform that is left will take as long over each post. -/
  kept : platform.delay? = s.platform.delay?
  /-- An error is an error to the attempt, with its own message. -/
  failure : ∀ position e, (wrap (.error e)).result position = .ok (.error e)
  outcome : ∀ limit, ask parent request (s.limited limit)
    = (.ofWait wrap (Run.settle limit response).1,
      { (s.note (.post parent request s.elapsed)).limited limit with
        platform := platform, elapsed := s.elapsed + (Run.settle limit response).2 })

/-- What is made of a response does not depend on the limit, but how it settles does. -/
theorem asks_of_answers {α : Type} {parent : Option MessageId} {request : Request} {s : Session}
    {post : Run (Response α)} {response : Response α} {platform : Platform}
    {wrap : Except Error α → Answer} (hblind : Blind post)
    (hanswers : Run.Answers post parent request s response platform)
    (hfailure : ∀ position e, (wrap (.error e)).result position = .ok (.error e))
    (hask : ∀ s, ask parent request s = settled wrap (do Run.await (← post)) s) :
    Asks parent request s wrap response platform := by
  obtain ⟨hpost, hdelay, hkept⟩ := hanswers
  refine ⟨hdelay, hkept, hfailure, fun limit => ?_⟩
  exact (hask _).trans (settled_await wrap (hblind.outcome hpost limit))

/-- **Every post comes to waiting for one response**, at the top and as a reply alike. -/
theorem ask_asks (parent : Option MessageId) (request : Request) (s : Session) :
    ∃ (α : Type) (wrap : Except Error α → Answer) (response : Response α) (platform : Platform),
      Asks parent request s wrap response platform := by
  cases parent with
  | none =>
    obtain ⟨response, platform, hanswers⟩ := Run.postTop_answers request s
    exact ⟨_, .top, response, platform, asks_of_answers (Run.blind_postTop request) hanswers
      (fun _ _ => rfl) fun _ => rfl⟩
  | some parent =>
    obtain ⟨response, platform, hanswers⟩ := Run.postReply_answers parent request s
    exact ⟨_, .reply, response, platform, asks_of_answers (Run.blind_postReply parent request)
      hanswers (fun _ _ => rfl) fun _ => rfl⟩

section asked

variable (parent : Option MessageId) (request : Request) {s : Session} {seconds : Nat}

/-- A post leaves a platform that will take as long over each. -/
theorem ask_delay? (s : Session) :
    (ask parent request s).2.platform.delay? = s.platform.delay? := by
  obtain ⟨_, _, response, platform, hasks⟩ := ask_asks parent request s
  have hask := hasks.outcome s.settings.thread.postTimeoutSecs
  rw [Session.limited_self rfl] at hask
  rw [hask]
  exact hasks.kept

/-- A post that is answered in time is answered as without a limit. -/
theorem ask_limited (hfree : s.settings.thread.postTimeoutSecs = none)
    (hwithin : Within seconds (s.platform.delay? parent s.postCount)) :
    ask parent request (s.limited (some seconds))
      = ((ask parent request s).1, (ask parent request s).2.limited (some seconds)) := by
  obtain ⟨_, _, response, platform, hasks⟩ := ask_asks parent request s
  rw [← hasks.delay] at hwithin
  have hask := hasks.outcome none
  rw [Session.limited_self hfree] at hask
  rw [hask, hasks.outcome, Run.settle_of_within hwithin]
  rfl

/-- A post that is not answered in time is an error to the attempt. -/
theorem ask_late (hlate : ¬ Within seconds (s.platform.delay? parent s.postCount))
    (position : Nat) :
    (ask parent request (s.limited (some seconds))).1.result position
      = .ok (.error (.platform (.timedOut seconds))) := by
  obtain ⟨_, _, response, platform, hasks⟩ := ask_asks parent request s
  rw [← hasks.delay] at hlate
  rw [hasks.outcome, Run.settle_of_late hlate]
  exact hasks.failure position _

end asked

/-! ## Steps under a limit -/

/-- The same moment under a limit. -/
def Moment.limited (m : Moment) (seconds : Nat) : Moment :=
  ⟨m.stage, m.session.limited (some seconds)⟩

/-- A pause does not look at the limit. -/
theorem blind_pauseBefore (index : Nat) : Blind (pauseBefore index) := by
  intro s limit
  unfold pauseBefore
  by_cases hindex : index > 0
  · rw [if_pos hindex]
    rfl
  · rw [if_neg hindex]
    rfl

/-- A step leaves a platform that will take as long over each post. -/
theorem Step.delay? {m m' : Moment} {e : Event} (h : Step m e m') :
    m'.session.platform.delay? = m.session.platform.delay? := by
  cases e with
  | posted p =>
    obtain ⟨paused, hask⟩ := h.asked
    have hkept := ask_delay? p.parent p.request { m.session with elapsed := paused }
    rw [hask] at hkept
    exact hkept
  | _ => rw [h.keeps_stores hidesStores_platform rfl]

/-- No step changes the delays of the platform. -/
theorem Reaches.delay? {start m : Moment} {events : List Event} (h : Reaches start events m) :
    m.session.platform.delay? = start.session.platform.delay? := by
  induction h with
  | here => rfl
  | step _ step ih => exact step.delay?.trans ih

/-- **A step whose post, if it makes one, is answered in time** is made under the limit as well. -/
theorem Step.limited {m m' : Moment} {e : Event} {seconds : Nat} (h : Step m e m')
    (hfree : m.session.settings.thread.postTimeoutSecs = none)
    (hwithin : ∀ p, e.post? = some p →
      Within seconds (m.session.platform.delay? p.parent m.session.postCount)) :
    Step (m.limited seconds) e (m'.limited seconds) := by
  cases h with
  | persist h =>
    exact .persist ((Run.blind_onDrafts _ _ fun _ => Drafts.persist _).outcome h (some seconds))
  | update h =>
    exact .update ((Run.blind_onDrafts _ _ (Drafts.updateStatus _ _)).outcome h (some seconds))
  | record h =>
    exact .record ((Run.blind_onDrafts _ _ (Drafts.recordId _ _)).outcome h (some seconds))
  | remember h => exact .remember ((Run.blind_remember _ _).outcome h (some seconds))
  | finalize h =>
    exact .finalize ((Run.blind_onDrafts _ _ (Drafts.finalize _)).outcome h (some seconds))
  | @post d index x rest s s₁ answer s' hpause h =>
    have hlimited := (blind_pauseBefore index).outcome hpause (some seconds)
    obtain ⟨paused, rfl⟩ := session_of_pause hpause
    have hask := ask_limited d.messageIds.getLast? (postRequest d.id index x)
      (s := { s with elapsed := paused }) hfree (hwithin _ rfl)
    rw [h] at hask
    exact .post hlimited hask

/-- **A step whose post is not answered in time** is another one under the limit: the same post is
made, and the draft is then to be finished. -/
theorem Step.timedOut {d : Draft} {index : Nat} {x : Segment} {rest : List Segment} {s : Session}
    {p : Post} {m : Moment} {seconds : Nat} (h : Step ⟨.posting d index x rest, s⟩ (.posted p) m)
    (hlate : ¬ Within seconds (s.platform.delay? p.parent s.postCount)) :
    ∃ answer s', Step ⟨.posting d index x rest, s.limited (some seconds)⟩
      (.posted { p with answer := answer })
      ⟨.close d .failed (Error.platform (.timedOut seconds)).message s'.now, s'⟩ := by
  cases h with
  | post hpause hask =>
    have hpaused := (blind_pauseBefore index).outcome hpause (some seconds)
    obtain ⟨paused, rfl⟩ := session_of_pause hpause
    have hresult := ask_late d.messageIds.getLast? (postRequest d.id index x)
      (s := { s with elapsed := paused }) hlate (index + 1)
    rcases hasked : ask d.messageIds.getLast? (postRequest d.id index x)
      (Session.limited { s with elapsed := paused } (some seconds)) with ⟨answer, s'⟩
    rw [hasked] at hresult
    have hstep : Step ⟨.posting d index x rest, s.limited (some seconds)⟩ _ _ :=
      .post hpaused hasked
    rw [hresult] at hstep
    exact ⟨answer, s', hstep⟩

/-! ## Posts that are answered in time -/

/-- The posts that a session makes next are all answered in time. -/
def InTime (seconds : Nat) (s : Session) (posts : List Post) : Prop :=
  ∀ (i : Nat) (p : Post), posts[i]? = some p →
    Within seconds (s.platform.delay? p.parent (s.postCount + i))

/-- No posts are all in time. -/
theorem inTime_nil (seconds : Nat) (s : Session) : InTime seconds s [] := by
  intro i p hp
  rw [List.getElem?_nil] at hp
  cases hp

/-- Posts are in time if the earlier ones are and the last one is. -/
theorem inTime_concat {seconds : Nat} {s : Session} {posts : List Post} {p : Post} :
    InTime seconds s (posts ++ [p]) ↔ InTime seconds s posts ∧
      Within seconds (s.platform.delay? p.parent (s.postCount + posts.length)) := by
  constructor
  · intro h
    refine ⟨fun i q hq => h i q ?_, h _ p List.getElem?_concat_length⟩
    rw [List.getElem?_append_left (List.getElem?_eq_some_iff.1 hq).1, hq]
  · rintro ⟨h, hlast⟩ i q hq
    rcases Nat.lt_or_ge i posts.length with hi | hi
    · rw [List.getElem?_append_left hi] at hq
      exact h i q hq
    · have hi' := (List.getElem?_eq_some_iff.1 hq).1
      rw [List.length_append, List.length_singleton] at hi'
      obtain rfl : i = posts.length := by omega
      rw [List.getElem?_concat_length] at hq
      cases hq
      exact hlast

/-- **The limit does not show on a path whose posts are answered in time.** -/
theorem Reaches.limited {start m : Moment} {events : List Event} {seconds : Nat}
    (h : Reaches start events m) (hfree : start.session.settings.thread.postTimeoutSecs = none)
    (hwithin : InTime seconds start.session (postsOf events)) :
    Reaches (start.limited seconds) events (m.limited seconds) := by
  induction h with
  | here => exact .here
  | @step events m e m' before step ih =>
    rw [postsOf_concat] at hwithin
    have hfree' : m.session.settings.thread.postTimeoutSecs = none := by
      rw [before.notes.settings, hfree]
    cases hpost : e.post? with
    | none =>
      rw [hpost, Option.toList_none, List.append_nil] at hwithin
      refine .step (ih hwithin) (step.limited hfree' fun p hp => ?_)
      rw [hpost] at hp
      cases hp
    | some p =>
      rw [hpost, Option.toList_some, inTime_concat] at hwithin
      refine .step (ih hwithin.1) (step.limited hfree' fun p' hp => ?_)
      rw [hpost] at hp
      cases hp
      rw [before.delay?, before.postCount]
      exact hwithin.2

/-- A path that has a post that is not answered in time has a first one. -/
theorem Reaches.first_late {start m : Moment} {events : List Event} {seconds : Nat}
    (h : Reaches start events m) (hlate : ¬ InTime seconds start.session (postsOf events)) :
    ∃ before p rest m₁ m₂, Reaches start before m₁ ∧ Step m₁ (.posted p) m₂ ∧
      postsOf events = postsOf before ++ p :: rest ∧
      InTime seconds start.session (postsOf before) ∧
      ¬ Within seconds (m₁.session.platform.delay? p.parent m₁.session.postCount) := by
  induction h with
  | here => exact absurd (inTime_nil _ _) hlate
  | @step events m e m' before step ih =>
    rw [postsOf_concat] at hlate ⊢
    by_cases hearlier : InTime seconds start.session (postsOf events)
    · cases e with
      | posted p =>
        refine ⟨events, p, [], m, m', before, step, rfl, hearlier, fun hwithin => ?_⟩
        rw [before.delay?, before.postCount] at hwithin
        exact hlate (inTime_concat.2 ⟨hearlier, hwithin⟩)
      | _ =>
        rw [← List.append_nil (postsOf events)] at hearlier
        exact absurd hearlier hlate
    · obtain ⟨before', p, rest, m₁, m₂, hbefore, hstep, hposts, hwithin⟩ := ih hearlier
      refine ⟨before', p, rest ++ e.post?.toList, m₁, m₂, hbefore, hstep, ?_, hwithin⟩
      rw [hposts, List.append_assoc]
      rfl

/-! ## Attempts under a limit -/

section attempt

variable {topic : Option String} {segments : List Segment} {s : Session} {seconds : Nat}

/-- **An attempt whose next post is late** comes to its end, under the limit, by that post and one
more call. -/
theorem Reaches.timedOut {events : List Event} {m m' : Moment} {p : Post}
    (h : Reaches (first topic segments (s.limited none)) events m) (hstep : Step m (.posted p) m')
    (hwithin : InTime seconds s (postsOf events))
    (hlate : ¬ Within seconds (m.session.platform.delay? p.parent m.session.postCount)) :
    ∃ posted rounds ids time answer finished s',
      events = begun (draftOf topic segments s) ++ rounds ∧
      Rounds (draftOf topic segments s).id posted ids rounds ∧
      Reaches (first topic segments (s.limited (some seconds)))
        (events ++ [.posted { p with answer := answer }]
          ++ [.finalized ((draftOf topic segments s).standing .failed ids time) finished])
        ⟨.ended (.ok (.ofDraft ((draftOf topic segments s).standing .failed ids time)
          (Error.platform (.timedOut seconds)).message)), s'⟩ := by
  obtain ⟨stage, s₀⟩ := m
  have hlimited : Reaches (first topic segments (s.limited (some seconds))) events
      (Moment.limited ⟨stage, s₀⟩ seconds) := Reaches.limited h rfl hwithin
  cases progress_of_reaches h with
  | posting hrounds hleft =>
    obtain ⟨answer, s₁, htimedOut⟩ := hstep.timedOut hlate
    have hpath := hlimited.step htimedOut
    rw [Stage.close_standing _ rfl] at hpath
    obtain ⟨finished, s₂, hfinalize, -⟩ := Run.onDrafts_stores .finalize (.finalize _)
      (Drafts.finalize _) s₁
    exact ⟨_, _, _, _, answer, finished, s₂, rfl, hrounds, hpath.step (.finalize hfinalize)⟩
  | _ => cases hstep

/-- The calls of an attempt: those on the way to its end, or none if its segments are rejected. -/
structure Traces (topic : Option String) (segments : List Segment) (s : Session)
    (events : List Event) : Prop where
  path : rejection? s.settings.thread.maxSegmentChars segments = none →
    Reaches (first topic segments s) events (.ofResult (publishAbout topic segments s))
  idle : rejection? s.settings.thread.maxSegmentChars segments ≠ none → events = []
  /-- The platform is called for the posts among them and for nothing else. -/
  calls : (publishAbout topic segments s).2.journal.filter Call.isPost
    = s.journal.filter Call.isPost ++ (postsOf events).map Post.call

/-- Every attempt has its calls. -/
theorem exists_traces (topic : Option String) (segments : List Segment) (s : Session) :
    ∃ events, Traces topic segments s events := by
  cases hrejection : rejection? s.settings.thread.maxSegmentChars segments with
  | some reason =>
    refine ⟨[], fun haccepted => ?_, fun _ => rfl, ?_⟩
    · rw [hrejection] at haccepted
      cases haccepted
    · rw [publishAbout_rejected hrejection]
      exact (List.append_nil _).symm
  | none =>
    obtain ⟨events, hpath⟩ := publishAbout_reaches topic hrejection
    refine ⟨events, fun _ => hpath, fun hrejected => absurd hrejection hrejected, ?_⟩
    rw [← filter_isPost_call, ← List.filter_append]
    exact congrArg _ hpath.notes_first.journal

/-- What comes of an attempt that is cut short at a post, after others that were in time. -/
structure CutShort (d : Draft) (seconds : Nat) (s : Session) (prompt : List Post) (late : Post)
    (ids : List MessageId) (outcome : Except Halt Publication × Session) : Prop where
  /-- Each of the posts that were in time has yielded its id. -/
  yielded : prompt.map (·.answer.id?) = ids.map some
  /-- The platform is called for them and for the late one, and not again. -/
  calls : outcome.2.journal.filter Call.isPost
    = s.journal.filter Call.isPost ++ (prompt ++ [late]).map Post.call
  result : outcome.1 = .ok {
    success := false
    message := "Platform error: post timed out after " ++ toString seconds ++ "s"
    draftId := some d.id
    status := some .failed
    threadId := ids.head?
    messageIds := ids
    segments := d.segments }
  /-- The record of the draft has the same status and ids, and the time of the last call, provided
  that the times of the clock can be written and this call does not fail. -/
  stored : (∀ n, s.clock n ≤ Json.maxWord) →
    s.faults .finalize (s.callCount .finalize) = none →
      (Drafts.fetch d.id outcome.2.drafts).1
        = .ok (some (d.standing .failed ids outcome.2.now))

/-- An attempt that ends after rounds and one more post has been cut short. -/
theorem cutShort_of_reaches {posted : List Segment} {rounds : List Event} {ids : List MessageId}
    {time : Timestamp} {late : Post} {answer : Answer} {finished : Except Error Unit} {s' : Session}
    (hrounds : Rounds (draftOf topic segments s).id posted ids rounds)
    (hpath : Reaches (first topic segments (s.limited (some seconds)))
      (begun (draftOf topic segments s) ++ rounds ++ [.posted { late with answer := answer }]
        ++ [.finalized ((draftOf topic segments s).standing .failed ids time) finished])
      ⟨.ended (.ok (.ofDraft ((draftOf topic segments s).standing .failed ids time)
        (Error.platform (.timedOut seconds)).message)), s'⟩) :
    CutShort (draftOf topic segments s) seconds s
      (postsOf (begun (draftOf topic segments s) ++ rounds)) late ids
      (.ok (.ofDraft ((draftOf topic segments s).standing .failed ids time)
        (Error.platform (.timedOut seconds)).message), s') where
  yielded := hrounds.answers
  calls := by
    show s'.journal.filter Call.isPost = _
    rw [hpath.notes_first.journal, List.filter_append, filter_isPost_call, postsOf_append,
      postsOf_append, List.map_append, List.map_append, List.map_append]
    exact congrArg _ (List.append_nil _)
  result := rfl
  stored := by
    intro hclock hfault
    have hpersisted : .persisted (draftOf topic segments s) (.ok ())
        ∈ begun (draftOf topic segments s) ++ rounds ++ [.posted { late with answer := answer }] :=
      List.mem_cons_self
    obtain ⟨-, hkeeps⟩ :=
      finalized_lands (s := s.limited (some seconds)) hclock hfault hpath hpersisted
    exact hkeeps.fetch

end attempt

/-- **The limit changes nothing but an attempt with a slow post.**  Let an attempt be made without a
limit.  If each of its posts is answered within the limit, or just at it, the attempt under the
limit has the same result and leaves the same session.  Otherwise it makes the posts up to the
first slow one and no more, with the same parents, requests and times; it fails with the message of
the time-out; and in its result and in its record it has the ids of the posts before that one. -/
theorem timeout_only_cuts_slow_posts (topic : Option String) (segments : List Segment)
    (s : Session) (seconds : Nat) :
    ∃ events, Traces topic segments (s.limited none) events ∧
      (InTime seconds s (postsOf events) ∧
          publishAbout topic segments (s.limited (some seconds))
            = ((publishAbout topic segments (s.limited none)).1,
              (publishAbout topic segments (s.limited none)).2.limited (some seconds)) ∨
        ∃ prompt late rest ids, postsOf events = prompt ++ late :: rest ∧
          InTime seconds s prompt ∧
          ¬ Within seconds (s.platform.delay? late.parent (s.postCount + prompt.length)) ∧
          CutShort (draftOf topic segments s) seconds s prompt late ids
            (publishAbout topic segments (s.limited (some seconds)))) := by
  obtain ⟨events, htraces⟩ := exists_traces topic segments (s.limited none)
  refine ⟨events, htraces, ?_⟩
  cases hrejection : rejection? s.settings.thread.maxSegmentChars segments with
  | some reason =>
    have hrejected (limit : Option Nat) : publishAbout topic segments (s.limited limit)
        = (.ok (.rejected reason.message segments), s.limited limit) :=
      publishAbout_rejected hrejection
    obtain rfl : events = [] :=
      htraces.idle fun haccepted => by cases hrejection.symm.trans haccepted
    refine .inl ⟨inTime_nil seconds s, ?_⟩
    rw [hrejected, hrejected]
    rfl
  | none =>
    have hpath := htraces.path hrejection
    obtain ⟨all, htimed⟩ := publishAbout_reaches topic (s := s.limited (some seconds)) hrejection
    by_cases hprompt : InTime seconds s (postsOf events)
    · obtain ⟨-, hresult, hsession⟩ := (hpath.limited rfl hprompt).end_unique htimed
      exact .inl ⟨hprompt, Prod.ext hresult.symm hsession.symm⟩
    · obtain ⟨before, late, rest, m₁, m₂, hbefore, hstep, hposts, hwithin, hlate⟩ :=
        hpath.first_late hprompt
      obtain ⟨posted, rounds, ids, time, answer, finished, s', rfl, hrounds, hcut⟩ :=
        hbefore.timedOut hstep hwithin hlate
      obtain ⟨-, hresult, hsession⟩ := hcut.end_unique htimed
      rw [hbefore.delay?, hbefore.postCount] at hlate
      have hoverall : publishAbout topic segments (s.limited (some seconds)) = (_, _) :=
        Prod.ext hresult.symm hsession.symm
      rw [hoverall]
      exact .inr ⟨_, late, rest, ids, hposts, hwithin, hlate, cutShort_of_reaches hrounds hcut⟩

/-- A platform that posts everything, but replies only after a delay. -/
def replyingAfter (delay : Nat) : Platform.Script where
  top call := .answer 0 (.ok (some (Platform.defaultId call)))
  reply call := .answer delay (.posted (Platform.defaultId call))

/-- What comes of three segments under a limit of five seconds, if replies take so long. -/
def threeUnderLimit (delay : Nat) : Except Halt Publication :=
  (publishAbout none [.ofText "a", .ofText "b", .ofText "c"]
    ((emptySession (.scripted (replyingAfter delay)) .none).limited (some 5))).1

/-- A reply may take as long as the limit. -/
example : (threeUnderLimit 5000).toOption.map (·.messageIds)
    = some [⟨"msg_0"⟩, ⟨"msg_1"⟩, ⟨"msg_2"⟩] := by
  decide +kernel

/-- A reply that takes longer ends the attempt. -/
example : (threeUnderLimit 5001).toOption.map (fun p => (p.message, p.messageIds))
    = some ("Platform error: post timed out after 5s", [⟨"msg_0"⟩]) := by
  decide +kernel

end PostingTerminal.Attempt
