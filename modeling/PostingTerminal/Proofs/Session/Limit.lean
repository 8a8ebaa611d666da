import PostingTerminal.Proofs.Session.Calls

/-!
# The limit on waiting

The settings may limit how long one post is waited for.  Only the wait itself looks at the limit.

* `Platform.delay?` — how long a platform will take over a post, and `Within`, that this is no more
  than a limit allows.
* `Run.settle_of_within`, `Run.settle_of_late` — **what comes of waiting** under a limit: what comes
  of it without one, or the time-out.
* `Session.limited` — a session with another limit.  `Blind` — what does the same in it: calls of
  the stores, and posting as such.
-/

namespace PostingTerminal

open Platform (Request)

/-! ## Delays -/

/-- How long what comes of a call takes; nothing if it never comes. -/
def Response.delay? {α : Type} : Response α → Option Nat
  | .answer delay _ => some delay
  | .crash delay => some delay
  | .never => none

/-- How long a platform will take over a post, by the number of the call.  A dry run takes no
time. -/
def Platform.delay? : Platform → (parent : Option MessageId) → (call : Nat) → Option Nat
  | .dryRun _, _, _ => some 0
  | .scripted script, none, call => (script.top call).delay?
  | .scripted script, some _, call => (script.reply call).delay?

/-- A delay is within a limit in seconds, or just at it.  One that has no end is not. -/
def Within (seconds : Nat) (delay? : Option Nat) : Prop :=
  ∃ delay, delay? = some delay ∧ delay ≤ 1000 * seconds

/-- A post that is answered after a delay is within the limit if the delay is. -/
theorem within_some {seconds delay : Nat} :
    Within seconds (some delay) ↔ delay ≤ 1000 * seconds := by
  simp [Within]

/-- A post that is never answered is not within the limit. -/
theorem not_within_none (seconds : Nat) : ¬ Within seconds none := by
  simp [Within]

section settle

variable {α : Type} {seconds : Nat} {response : Response α}

/-- What comes in time is the same as without a limit. -/
theorem Run.settle_of_within (h : Within seconds response.delay?) :
    settle (some seconds) response = settle none response := by
  cases response with
  | never => exact absurd h (not_within_none seconds)
  | answer delay value => exact if_pos (within_some.1 h)
  | crash delay => exact if_pos (within_some.1 h)

/-- What does not come in time is not waited for any longer. -/
theorem Run.settle_of_late (h : ¬ Within seconds response.delay?) :
    settle (some seconds) response
      = (.ok (.error (.platform (.timedOut seconds))), 1000 * seconds) := by
  cases response with
  | never => rfl
  | answer delay value => exact if_neg fun hdelay => h (within_some.2 hdelay)
  | crash delay => exact if_neg fun hdelay => h (within_some.2 hdelay)

end settle

/-! ## Sessions under another limit -/

/-- A session with another limit on waiting for a post. -/
def Session.limited (s : Session) (limit : Option Nat) : Session :=
  { s with
    settings := { s.settings with
      thread := { s.settings.thread with postTimeoutSecs := limit } } }

/-- A session has the limit of its own settings. -/
theorem Session.limited_self {s : Session} {limit : Option Nat}
    (h : s.settings.thread.postTimeoutSecs = limit) : s.limited limit = s := by
  subst h
  rfl

/-- What is done does not depend on the limit. -/
def Blind {β : Type} (f : Session → β × Session) : Prop :=
  ∀ s limit, f (s.limited limit) = ((f s).1, (f s).2.limited limit)

/-- What is done under one limit is done under any other. -/
theorem Blind.outcome {β : Type} {f : Session → β × Session} (hf : Blind f) {s s' : Session}
    {result : β} (h : f s = (result, s')) (limit : Option Nat) :
    f (s.limited limit) = (result, s'.limited limit) := by
  rw [hf, h]

namespace Run

/-- A call of a store is blind if its step is. -/
theorem blind_step {α : Type} {f : SessionStep α} (hf : Blind f) (m : Method) (c : Call) :
    Blind (step (Session.call m c f)) := by
  intro s limit
  have hnoted : f ((s.limited limit).note c) = ((f (s.note c)).1, (f (s.note c)).2.limited limit) :=
    hf (s.note c) limit
  have hfaults : (s.limited limit).faults m ((s.limited limit).callCount m)
      = s.faults m (s.callCount m) := rfl
  simp only [step, Session.call, hfaults, hnoted]
  cases s.faults m (s.callCount m) with
  | none => rfl
  | some fault => obtain ⟨_ | _, error⟩ := fault <;> rfl

/-- An operation on drafts does not look at the limit. -/
theorem blind_onDrafts (m : Method) (c : Call) (op : Timestamp → Store.Step Unit) :
    Blind (onDrafts m c op) :=
  blind_step (fun _ _ => rfl) m c

/-- Remembering does not look at the limit. -/
theorem blind_remember (kind : Store.MemoryKind) (text : String) : Blind (remember kind text) :=
  blind_step (fun _ _ => rfl) _ _

/-- Posting does not look at the limit. -/
theorem blind_postTop (request : Request) : Blind (postTop request) := by
  intro s limit
  rw [postTop_eq, postTop_eq, show (s.limited limit).platform = s.platform from rfl]
  cases s.platform <;> rfl

/-- Replying does not look at the limit. -/
theorem blind_postReply (parent : MessageId) (request : Request) :
    Blind (postReply parent request) := by
  intro s limit
  rw [postReply_eq, postReply_eq, show (s.limited limit).platform = s.platform from rfl]
  cases s.platform <;> rfl

/-- A post is given a response, which takes as long as the platform will take over it, and leaves a
platform that will take as long over each. -/
def Answers {α : Type} (post : Run (Response α)) (parent : Option MessageId) (request : Request)
    (s : Session) (response : Response α) (platform : Platform) : Prop :=
  post s = (.ok response,
      { s.note (.post parent request s.elapsed) with platform := platform }) ∧
    response.delay? = s.platform.delay? parent s.postCount ∧ platform.delay? = s.platform.delay?

/-- A post is answered by the platform. -/
theorem postTop_answers (request : Request) (s : Session) :
    ∃ response platform, Answers (postTop request) none request s response platform := by
  unfold Answers
  rw [postTop_eq]
  cases hplatform : s.platform with
  | scripted script => exact ⟨_, s.platform, rfl, rfl, congrArg Platform.delay? hplatform⟩
  | dryRun state => exact ⟨_, _, rfl, rfl, rfl⟩

/-- A reply is answered by the platform. -/
theorem postReply_answers (parent : MessageId) (request : Request) (s : Session) :
    ∃ response platform,
      Answers (postReply parent request) (some parent) request s response platform := by
  unfold Answers
  rw [postReply_eq]
  cases hplatform : s.platform with
  | scripted script => exact ⟨_, s.platform, rfl, rfl, congrArg Platform.delay? hplatform⟩
  | dryRun state => exact ⟨_, _, rfl, rfl, rfl⟩

end Run

end PostingTerminal
