import Mathlib.Data.List.Induction
import PostingTerminal.Proofs.Attempt.InMemory
import PostingTerminal.Proofs.Attempt.Keeps
import PostingTerminal.Proofs.Terminal.Batch

/-!
# What an agent makes of its drafts

An agent is given inputs and segments to publish, one after the other.  Over records in memory
that never fail, each of these makes at most one attempt, and no record is changed by anything but
the attempt that has begun it.

* `Session.Spares` — what runs leave that make no attempt.
* `Deed` — what an agent is made to do, and `Terminal.after` — the session that deeds leave.
* `Attempts` — the attempt that a deed makes, and what it comes to.
* `Deed.does` — **a deed begins at most one record**, in its attempt, and leaves the others.
* `Steady.after`, `comesFrom_of_fetch` — **a record stays as it is** whatever is done later, and
  **every record comes from an attempt** if there were none at first.
-/

namespace PostingTerminal

open Store (Drafts MemoryDrafts)

/-! ## Calls that leave the drafts -/

/-- Runs leave the drafts, and posts are answered after them if they were before. -/
structure Session.Spares (s s' : Session) : Prop where
  drafts : s'.drafts = s.drafts
  answered : s.Answered → s'.Answered

/-- Runs spare what they do not change. -/
theorem Session.Spares.of_eq {s s' : Session} (hdrafts : s'.drafts = s.drafts)
    (hsettings : s'.settings = s.settings) (hplatform : s'.platform = s.platform) : s.Spares s' :=
  ⟨hdrafts, fun h => h.of_eq hsettings hplatform⟩

/-- Nothing spares everything. -/
theorem Session.Spares.refl (s : Session) : s.Spares s := .of_eq rfl rfl rfl

/-- Runs that spare the drafts do so one after the other. -/
theorem Session.Spares.trans {s s' s'' : Session} (h : s.Spares s') (h' : s'.Spares s'') :
    s.Spares s'' :=
  ⟨h'.drafts.trans h.drafts, fun hs => h'.answered (h.answered hs)⟩

/-- What runs spare: a view of the drafts, and of what decides whether posts are answered. -/
def Session.spared (s : Session) : Drafts × Settings × Platform := (s.drafts, s.settings, s.platform)

namespace Run

variable {α β : Type} {x : Run α} {f : α → Run β} {s : Session}

/-- A run that keeps this view spares the drafts. -/
theorem Keeps.spares (h : Keeps Session.spared x s) : s.Spares (x s).2 := by
  obtain ⟨hdrafts, hsettings, hplatform⟩ := Prod.ext_iff.1 h |>.imp_right Prod.ext_iff.1
  exact .of_eq hdrafts hsettings hplatform

/-- Of two runs one after the other the second may spare what the first has left. -/
theorem spares_after (hf : ∀ a s', x s = (.ok a, s') → s'.Spares (f a s').2) :
    (x s).2.Spares ((x >>= f) s).2 := by
  rcases hrun : x s with ⟨halt | a, s'⟩
  · rw [bind_error hrun]
    exact .refl s'
  · rw [bind_ok hrun]
    exact hf a s' hrun

/-- Noting a call spares the rest. -/
theorem spares_note (c : Call) (s : Session) : s.Spares (s.note c) := .of_eq rfl rfl rfl

end Run

namespace Attempt

/-- **What an attempt makes of records in memory** where no call fails, whether its segments are
given or written. -/
theorem publish_inMemory {before : MemoryDrafts} {s : Session} (hstore : s.drafts = .memory before)
    (hfaults : s.faults = .none) (input : Input) :
    (s.Answered → (input.publish s).2.Answered) ∧
      ∃ after, (input.publish s).2.drafts = .memory after ∧
        Becomes s input.topic? (input.publish s).1 before after := by
  have hspares :=
    (keeps_content (fun _ _ _ => rfl) (fun _ _ => rfl) (fun _ _ => rfl) input s).spares
  have hquiet := quiet_content (s := s) input (by rw [hfaults]; exact fun _ => rfl)
  have hcomes := input.publish_comes s
  generalize input.publish s = result at hcomes ⊢
  cases hcomes with
  | halted hcontent | unwritten hcontent | refused hcontent =>
    rw [hcontent] at hspares
    exact ⟨hspares.answered, before, hspares.drafts.trans hstore, .same⟩
  | @made segments s₀ hcontent =>
    rw [hcontent] at hspares
    obtain ⟨haside, -⟩ := hquiet.outcome hcontent
    obtain ⟨after, hafter, hbecomes⟩ := publishAbout_inMemory (hspares.drafts.trans hstore)
      (haside.shows.faults.trans hfaults) input.topic? segments
    refine ⟨?_, after, hafter, hbecomes.earlier haside.ids hspares.answered⟩
    intro hanswered
    exact (publishAbout_answered (hspares.answered hanswered) _ _).2

end Attempt

namespace Terminal

open CommandLine (Args Registry)
open Attempt (Input Becomes Leaves Begins Agrees)

/-! ## Deeds and their attempts -/

/-- What an agent is made to do. -/
inductive Deed where
  /-- It executes an input. -/
  | enter (raw : String)
  /-- It publishes segments, given or written about a topic. -/
  | publish (input : Input)
  /-- It lets the clock show other times from then on. -/
  | pass (clock : Nat → Timestamp)

/-- The session that a deed leaves. -/
def Deed.run : Deed → Session → Session
  | .enter raw, s => (execute builtins raw s).2
  | .publish input, s => (input.publish s).2
  | .pass clock, s => { s with clock := clock }

/-- The session that deeds leave. -/
def after (s : Session) (deeds : List Deed) : Session := deeds.foldl (fun s deed => deed.run s) s

/-- The topic of a thread that is created with values. -/
def topicOf (s : Session) (values : Args) : String :=
  (values.getString? "topic").getD s.settings.thread.defaultTopic

/-- The attempt that a deed makes in a session: its topic, and what it comes to. -/
inductive Attempts (s : Session) : Deed → Option String → Except Halt Publication → Prop
  | given (input : Input) : Attempts s (.publish input) input.topic? (input.publish s).1
  /-- A thread is created while no cooldown is active. -/
  | entered {raw line values wait s₁} (names : Names builtins raw line createThreadCommand values)
      (status : Run.cooldownStatus s.settings.thread.cooldownClass s = (.ok (.ok wait), s₁))
      (free : wait.isActive = false) :
      Attempts s (.enter raw) (some (topicOf s values))
        (generateAndPublish (topicOf s values) s₁).1

/-! ## What a deed does to the records -/

section deed

variable {s : Session} {store : MemoryDrafts}

/-- Where no call fails, a record in memory is read as it is. -/
theorem fetch_inMemory (hstore : s.drafts = .memory store) (hfaults : s.faults = .none)
    (id : DraftId) : Run.fetch id s = (.ok (.ok (store.fetch id)), s.note (.fetch id)) := by
  have hkept : { s.note (.fetch id) with drafts := .memory store } = s.note (.fetch id) := by
    rw [← hstore]
    rfl
  unfold Run.fetch Run.step Session.call
  rw [hfaults]
  simp only [Faults.none, Session.onDrafts]
  rw [show (s.note (.fetch id)).drafts = .memory store from hstore]
  simp only [Drafts.fetch, hkept]

/-- Logging gives what has been logged and spares the drafts. -/
theorem logged_session (run : Run Executed) (s : Session) :
    (logged run s).1 = (run s).1 ∧ (run s).2.Spares (logged run s).2 ∧
      (logged run s).2.faults = (run s).2.faults ∧ (logged run s).2.ids = (run s).2.ids := by
  let shown (s : Session) := (s.drafts, s.settings, s.platform, s.faults, s.ids)
  have hkept : (logged run s).1 = (run s).1 ∧ shown (logged run s).2 = shown (run s).2 :=
    logged_keeps (fun _ _ => rfl) (fun _ _ => rfl) run s
  simp only [shown, Prod.mk.injEq] at hkept
  obtain ⟨hresult, hdrafts, hsettings, hplatform, hfaults, hids⟩ := hkept
  exact ⟨hresult, .of_eq hdrafts hsettings hplatform, hfaults, hids⟩

/-- What creating a thread does after its attempt spares the drafts. -/
theorem spares_createThreadAbout (topic : String) (s : Session) :
    (generateAndPublish topic s).2.Spares (createThreadAbout topic s).2 := by
  unfold createThreadAbout
  refine Run.spares_after fun p s _ => Run.Keeps.spares ?_
  split
  · refine (Run.keeps_get s).bind fun _ s _ => ?_
    exact (Run.keeps_step (fun _ => rfl) (fun _ => rfl) s).bind fun _ s _ => Run.keeps_pure _ s
  · exact Run.keeps_pure _ s

/-- Creating a thread makes an attempt unless a cooldown is active. -/
theorem createThread_inMemory (hstore : s.drafts = .memory store) (hfaults : s.faults = .none)
    (values : Args) :
    (s.Answered → (createThread values s).2.Answered) ∧
      ∃ wait s₁, Run.cooldownStatus s.settings.thread.cooldownClass s = (.ok (.ok wait), s₁) ∧
        ∃ after, (createThread values s).2.drafts = .memory after ∧
          (wait.isActive = true ∧ after = store ∨
            wait.isActive = false ∧ Becomes s (some (topicOf s values))
              (generateAndPublish (topicOf s values) s₁).1 store after) := by
  have hstatus := Run.cooldownStatus_eq (s := s) (by rw [hfaults]; rfl)
    s.settings.thread.cooldownClass
  have hnote := Run.spares_note (.cooldownStatus s.settings.thread.cooldownClass) s
  unfold createThread
  rw [Run.bind_ok (Run.get_eq s), Run.bind_ok hstatus]
  cases hactive : (s.cooldowns.status s.settings.thread.cooldownClass s.nextTime).isActive with
  | true =>
    simp only [hactive, if_true]
    exact ⟨hnote.answered, _, _, hstatus, store, hstore, .inl ⟨hactive, rfl⟩⟩
  | false =>
    obtain ⟨hanswered, after, hafter, hbecomes⟩ := Attempt.publish_inMemory
      (s := s.note (.cooldownStatus s.settings.thread.cooldownClass)) hstore hfaults
      (.about (topicOf s values))
    have hrest (topic : String) (s : Session) : (generateAndPublish topic s).2.Spares
        ((do return .ok (← createThreadAbout topic) : Run (Except Error CommandOutput)) s).2 :=
      (spares_createThreadAbout topic s).trans (Run.spares_after fun _ s _ => .refl s)
    simp only [hactive, Bool.false_eq_true, if_false]
    exact ⟨fun h => (hrest _ _).answered (hanswered (hnote.answered h)), _, _, hstatus, after,
      (hrest _ _).drafts.trans hafter, .inr ⟨hactive, hbecomes.earlier rfl hnote.answered⟩⟩

/-- What a deed does to records in memory: it leaves them, or its attempt begins one. -/
inductive Does (s : Session) (deed : Deed) (store : MemoryDrafts) : MemoryDrafts → Prop
  | nothing : Does s deed store store
  | one {topic outcome r after} (attempts : Attempts s deed topic outcome)
      (begins : Begins store r after) (named : ∃ n, r.id = s.ids n) (about : r.topic = topic)
      (leaves : Leaves s outcome r) : Does s deed store after

/-- What an attempt makes of the records is what its deed does. -/
theorem Attempts.does {deed : Deed} {topic : Option String} {outcome : Except Halt Publication}
    {after : MemoryDrafts} (h : Attempts s deed topic outcome)
    (hbecomes : Becomes s topic outcome store after) : Does s deed store after := by
  cases hbecomes with
  | same => exact .nothing
  | one begins named about leaves => exact .one h begins named about leaves

/-- Executing an input begins one record at most. -/
theorem enter_does (hstore : s.drafts = .memory store) (hfaults : s.faults = .none)
    (raw : String) :
    (s.Answered → (execute builtins raw s).2.Answered) ∧
      ∃ after, (execute builtins raw s).2.drafts = .memory after ∧
        Does s (.enter raw) store after := by
  obtain ⟨-, hlogged, -⟩ := logged_session (runInput builtins raw) s
  rw [execute_eq, hlogged.drafts]
  rcases runInput_cases builtins raw with ⟨executed, hrun⟩ | ⟨line, command, values, hnames⟩
  · rw [hrun] at hlogged ⊢
    exact ⟨hlogged.answered, store, hstore, .nothing⟩
  · rw [runInput_of_names hnames] at hlogged ⊢
    have hperformed := perform_session builtins line command values s
    rw [hperformed] at hlogged ⊢
    rcases hnames.command_cases with rfl | rfl | rfl
    · exact ⟨hlogged.answered, store, hstore, .nothing⟩
    · obtain ⟨hanswered, wait, s₁, hstatus, after, hafter, ⟨-, rfl⟩ | ⟨hfree, hbecomes⟩⟩ :=
        createThread_inMemory hstore hfaults values
      · exact ⟨fun h => hlogged.answered (hanswered h), _, hafter, .nothing⟩
      · exact ⟨fun h => hlogged.answered (hanswered h), after, hafter,
          (Attempts.entered hnames hstatus hfree).does hbecomes⟩
    · have hfetch := fetch_inMemory hstore hfaults ⟨(values.getString? "draft_id").getD ""⟩
      have hspares : s.Spares (threadStatus values s).2 := by
        unfold threadStatus
        rw [Run.bind_ok hfetch]
        cases store.fetch ⟨(values.getString? "draft_id").getD ""⟩ <;>
          exact Run.spares_note (.fetch _) s
      exact ⟨fun h => hlogged.answered (hspares.answered h), store,
        hspares.drafts.trans hstore, .nothing⟩

end deed

/-! ## Deeds one after the other -/

section deeds

variable {s s' : Session} {store : MemoryDrafts}

/-- An agent has records in memory and no calls that fail, and its supply of ids and its platform
are still those of an earlier session. -/
structure Steady (s s' : Session) (store : MemoryDrafts) : Prop where
  drafts : s'.drafts = .memory store
  faults : s'.faults = .none
  ids : s'.ids = s.ids
  answered : s.Answered → s'.Answered

/-- **A deed begins one record at most**, in its attempt, and leaves the others. -/
theorem Deed.does (h : Steady s s' store) (deed : Deed) :
    ∃ after, Steady s (deed.run s') after ∧ Does s' deed store after := by
  have hclean : Clean s' := by
    unfold Clean
    rw [h.faults]
    exact fun _ => ⟨rfl, rfl⟩
  cases deed with
  | enter raw =>
    obtain ⟨-, -, hfaults, hids⟩ := logged_session (runInput builtins raw) s'
    have haside := (runInput_quiet hclean raw).1.aside
    obtain ⟨hanswered, after, hafter, hdoes⟩ := enter_does h.drafts h.faults raw
    refine ⟨after, ⟨hafter, ?_, ?_, fun hs => hanswered (h.answered hs)⟩, hdoes⟩
    · exact hfaults.trans (haside.shows.faults.trans h.faults)
    · exact hids.trans (haside.ids.trans h.ids)
  | publish input =>
    have haside := (Attempt.quiet_publish input fun n => (hclean n).2).aside
    obtain ⟨hanswered, after, hafter, hbecomes⟩ :=
      Attempt.publish_inMemory h.drafts h.faults input
    refine ⟨after, ⟨hafter, ?_, ?_, fun hs => hanswered (h.answered hs)⟩,
      (Attempts.given input).does hbecomes⟩
    · exact haside.shows.faults.trans h.faults
    · exact haside.ids.trans h.ids
  | pass clock =>
    exact ⟨store, ⟨h.drafts, h.faults, h.ids, fun hs => (h.answered hs).of_eq rfl rfl⟩, .nothing⟩

/-- Deeds after others are done in the session that those leave. -/
theorem after_append (s : Session) (deeds deeds' : List Deed) :
    after s (deeds ++ deeds') = after (after s deeds) deeds' := List.foldl_append

/-- The last of deeds is done in the session that the others leave. -/
theorem after_concat (s : Session) (deeds : List Deed) (deed : Deed) :
    after s (deeds ++ [deed]) = deed.run (after s deeds) := after_append s deeds [deed]

/-- **A record stays as it is** whatever is done from then on. -/
theorem Steady.after (h : Steady s s' store) {id : DraftId} {r : Draft}
    (hfetch : store.fetch id = some r) (deeds : List Deed) :
    ∃ later, Steady s (after s' deeds) later ∧ later.fetch id = some r := by
  induction deeds using List.reverseRecOn with
  | nil => exact ⟨store, h, hfetch⟩
  | append_singleton deeds deed ih =>
    obtain ⟨later, hsteady, hfetch⟩ := ih
    obtain ⟨later', hsteady', hdoes⟩ := deed.does hsteady
    rw [after_concat]
    refine ⟨later', hsteady', ?_⟩
    cases hdoes with
    | nothing => exact hfetch
    | one _ begins _ _ _ => exact begins.keeps hfetch

/-- A record is that of an attempt among deeds. -/
structure ComesFrom (s : Session) (deeds : List Deed) (r : Draft) (earlier : List Deed)
    (deed : Deed) (outcome : Except Halt Publication) : Prop where
  among : ∃ later, deeds = earlier ++ deed :: later
  attempts : Attempts (Terminal.after s earlier) deed r.topic outcome
  named : ∃ n, r.id = s.ids n
  leaves : Leaves s outcome r

/-- **Every record comes from an attempt** of an agent that has begun without records. -/
theorem comesFrom_of_fetch (hstore : s.drafts = .memory .empty) (hfaults : s.faults = .none)
    (deeds : List Deed) :
    ∃ store, Steady s (after s deeds) store ∧
      ∀ id r, store.fetch id = some r →
        r.id = id ∧ ∃ earlier deed outcome, ComesFrom s deeds r earlier deed outcome := by
  induction deeds using List.reverseRecOn with
  | nil => exact ⟨.empty, ⟨hstore, hfaults, rfl, id⟩, nofun⟩
  | append_singleton deeds deed ih =>
    obtain ⟨store, hsteady, hall⟩ := ih
    obtain ⟨store', hsteady', hdoes⟩ := deed.does hsteady
    rw [after_concat]
    refine ⟨store', hsteady', ?_⟩
    -- a record that was there before comes from an earlier deed
    have hearlier (id : DraftId) (r : Draft) (h : store.fetch id = some r) :
        r.id = id ∧ ∃ earlier deed' outcome,
          ComesFrom s (deeds ++ [deed]) r earlier deed' outcome := by
      obtain ⟨hid, earlier, deed', outcome, ⟨later, rfl⟩, attempts, named, leaves⟩ := hall id r h
      exact ⟨hid, earlier, deed', outcome, ⟨later ++ [deed], by simp⟩, attempts, named, leaves⟩
    intro id r hfetch
    cases hdoes with
    | nothing => exact hearlier id r hfetch
    | @one topic outcome r' _ attempts begins named about leaves =>
      rcases begins.fetch_cases hfetch with ⟨rfl, rfl⟩ | hbefore
      · rw [hsteady.ids] at named
        rw [← about] at attempts
        exact ⟨rfl, deeds, deed, outcome, ⟨[], rfl⟩, attempts, named,
          leaves.earlier hsteady.answered⟩
      · exact hearlier id r hbefore

end deeds

end Terminal

end PostingTerminal
