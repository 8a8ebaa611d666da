import Mathlib.Order.Monotone.Defs
import PostingTerminal.Proofs.Store.Cooldown
import PostingTerminal.Proofs.Terminal.Settled
import PostingTerminal.Proofs.Terminal.Untouched

/-!
# How often threads are created

An agent with a window for its class of threads is made to do one thing after the other, while
the clock goes on, stands still or is set back, within a line as well as between two.  A thread is
checked by the first call of its line and marked by the last one before it is logged, each at the
time that the clock shows then.

* `Session.gate` — all that decides whether a thread may be created.  Whatever else an agent does
  leaves it (`Deed.kept`).
* `Session.MarkedAt` — the class of threads has been marked once, at the time of the call.
* `Tries` — **all that a line can do that asks for a thread**: it is refused where a cooldown is
  active; where none is, it fails and leaves the gate, or it creates a thread and marks the
  class.
* `LastCreated` — the time at which the last thread among deeds has been marked.  It is what the
  cooldowns tell after them (`Gated.isActive_iff`).
* `throttled` — **a thread is refused exactly if the last one has been marked within the
  window**, so two threads that are created are a window apart.

Two threads with another one between them are so if that one is not marked before it is asked for
(`Deed.Forward`), as it never is where the clock is set back between lines only; otherwise they may
not be (`set_back_admits`).
-/

namespace PostingTerminal

open Store (Cooldowns CooldownStatus)

/-- What decides whether a thread may be created. -/
def Session.gate (s : Session) : Settings × Faults × (Nat → Timestamp) × Cooldowns :=
  (s.settings, s.faults, s.clock, s.cooldowns)

/-- The cooldowns are kept by a tracker, which never fails. -/
def Tracked (faults : Faults) : Prop :=
  ∀ n, faults .cooldownStatus n = none ∧ faults .cooldownMark n = none

/-- The gate does not show what an attempt works on. -/
theorem hides_gate : Attempt.Hides Session.gate where
  note _ _ := rfl
  generator _ _ := rfl
  drafts _ _ := rfl
  knowledge _ _ := rfl
  platform _ _ := rfl
  elapsed _ _ := rfl
  idsTaken _ _ := rfl

/-- The gate does not show what is changed by asking. -/
theorem hidesAsking_gate : Session.HidesAsking Session.gate where
  note _ _ _ := rfl
  generator _ _ := rfl
  elapsed _ _ := rfl
  idsTaken _ _ := rfl
  drafts _ _ _ := rfl

namespace Session

/-- The class of actions that creating a thread belongs to. -/
abbrev threadClass (s : Session) : String := s.settings.thread.cooldownClass

/-- The wait that a thread is told of when it is asked for, at the time of the first call. -/
def threadWait (s : Session) : CooldownStatus := s.cooldowns.status s.threadClass s.nextTime

/-- Sessions with the same gate have the same in each part of it. -/
theorem gate_eq_iff {s s' : Session} :
    s'.gate = s.gate ↔ s'.settings = s.settings ∧ s'.faults = s.faults ∧ s'.clock = s.clock ∧
      s'.cooldowns = s.cooldowns := by
  simp [gate]

/-- The class of threads has been marked once, at a time: what the clock shows at the call. -/
structure MarkedAt (s s' : Session) (t : Timestamp) : Prop where
  calls : ∃ before later, s.Notes s' (before ++ .cooldownMark s.threadClass :: later) ∧
    (∀ c ∈ before ++ later, c.isMark = false) ∧
    t = s.clock (s.journal.length + before.length + 1)
  cooldowns : s'.cooldowns = s.cooldowns.recordAt s.threadClass t

namespace MarkedAt

variable {s s₁ s' : Session} {t : Timestamp} {calls : List Call}

/-- What goes before the mark may be more. -/
theorem earlier (h : s₁.MarkedAt s' t) (hnotes : s.Notes s₁ calls)
    (hcalls : ∀ c ∈ calls, c.isMark = false) (hcooldowns : s₁.cooldowns = s.cooldowns) :
    s.MarkedAt s' t := by
  obtain ⟨⟨before, later, hnotes', hunmarked, ht⟩, hmarked⟩ := h
  have hclass : s₁.threadClass = s.threadClass := by rw [threadClass, hnotes.settings]
  rw [hclass] at hnotes' hmarked
  refine ⟨⟨calls ++ before, later, ?_, ?_, ?_⟩, ?_⟩
  · rw [List.append_assoc]
    exact hnotes.trans hnotes'
  · rw [List.append_assoc]
    exact List.forall_mem_append.2 ⟨hcalls, hunmarked⟩
  · rw [ht, hnotes.clock, hnotes.journal, List.length_append, List.length_append, Nat.add_assoc
      s.journal.length]
  · rw [hmarked, hcooldowns]

/-- What comes after the mark may be more. -/
theorem later (h : s.MarkedAt s₁ t) (hnotes : s₁.Notes s' calls)
    (hcalls : ∀ c ∈ calls, c.isMark = false) (hcooldowns : s'.cooldowns = s₁.cooldowns) :
    s.MarkedAt s' t := by
  obtain ⟨⟨before, later, hnotes', hunmarked, ht⟩, hmarked⟩ := h
  refine ⟨⟨before, later ++ calls, ?_, ?_, ht⟩, hcooldowns.trans hmarked⟩
  · have hall := hnotes'.trans hnotes
    rwa [List.append_assoc, List.cons_append] at hall
  · rw [← List.append_assoc]
    exact List.forall_mem_append.2 ⟨hunmarked, hcalls⟩

/-- The mark is a call that is made at its time. -/
theorem exists_call (h : s.MarkedAt s' t) :
    ∃ n, s.journal.length ≤ n ∧ s'.journal[n]? = some (.cooldownMark s.threadClass) ∧
      t = s.clock (n + 1) := by
  obtain ⟨⟨before, later, hnotes, -, ht⟩, -⟩ := h
  refine ⟨s.journal.length + before.length, Nat.le_add_right _ _, ?_, ht⟩
  rw [hnotes.journal, ← List.append_assoc, ← List.length_append, List.getElem?_append_right
    (Nat.le_refl _), Nat.sub_self]
  rfl

/-- There is no other mark. -/
theorem time_eq (h : s.MarkedAt s' t) {n : Nat} {name : String} (hn : s.journal.length ≤ n)
    (hmark : s'.journal[n]? = some (.cooldownMark name)) : s.clock (n + 1) = t := by
  obtain ⟨⟨before, later, hnotes, hunmarked, ht⟩, -⟩ := h
  obtain ⟨k, rfl⟩ := Nat.exists_eq_add_of_le hn
  rw [hnotes.journal, List.getElem?_append_right hn, Nat.add_sub_cancel_left] at hmark
  have hcontra {calls : List Call} {k : Nat} (hsub : ∀ c ∈ calls, c ∈ before ++ later)
      (hk : calls[k]? = some (.cooldownMark name)) : False := by
    cases hunmarked _ (hsub _ (List.mem_of_getElem? hk))
  rcases Nat.lt_trichotomy k before.length with hlt | rfl | hgt
  · rw [List.getElem?_append_left hlt] at hmark
    exact (hcontra (fun c hc => List.mem_append_left _ hc) hmark).elim
  · exact ht.symm
  · obtain ⟨j, rfl⟩ := Nat.exists_eq_add_of_lt hgt
    rw [List.getElem?_append_right (by omega), show before.length + j + 1 - before.length = j + 1 by
      omega, List.getElem?_cons_succ] at hmark
    exact (hcontra (fun c hc => List.mem_append_right _ hc) hmark).elim

end MarkedAt

end Session

namespace Terminal

open CommandLine (Args)

/-! ## One line -/

/-- What is said of a thread that is refused. -/
def refusal (minutes : Nat) : CommandOutput :=
  .failure ("Thread cooldown is active. Time remaining: " ++ toString minutes ++ " minutes") none

/-- A line has been refused because of a cooldown. -/
def Refuses (s : Session) (raw : String) : Prop :=
  ∃ line minutes, (execute builtins raw s).1 = .ok (.ofOutput line (refusal minutes))

/-- A deed asks for a thread, and creates it. -/
def Deed.Creates : Deed → Session → Prop
  | .enter raw, s => (∃ line values, Names builtins raw line createThreadCommand values) ∧
      ∃ executed, (execute builtins raw s).1 = .ok executed ∧ executed.isError = false
  | .publish _, _ => False
  | .pass _, _ => False

/-- A deed creates a thread and marks its class at a time: what the clock shows at the call. -/
def Deed.CreatesAt (deed : Deed) (s : Session) (t : Timestamp) : Prop :=
  deed.Creates s ∧ ∃ n, s.journal.length ≤ n ∧
    (deed.run s).journal[n]? = some (.cooldownMark s.threadClass) ∧ t = s.clock (n + 1)

/-- A deed that creates a thread does not mark it before it is asked for. -/
def Deed.Forward (deed : Deed) (s : Session) : Prop :=
  ∀ t, deed.CreatesAt s t → s.nextTime ≤ t

section line

variable {s : Session}

/-- A cooldown is active exactly within the window after the last action. -/
theorem status_isActive_iff {c : Cooldowns} {name : String} {window : Nat}
    (hwindow : c.window? name = some window) (now : Timestamp) :
    (c.status name now).isActive = true ↔
      ∃ t, c.last? name = some t ∧ now - t < 60000 * window := by
  rw [Cooldowns.status_of_window hwindow]
  cases c.last? name with
  | none => simp [Store.CooldownStatus.inactive]
  | some t =>
    rw [Option.elim_some, Cooldowns.waitAfter_isActive_iff]
    simp

/-- What comes of creating a thread. -/
inductive Outcome (s : Session) : Except Halt (Except Error CommandOutput) → Session → Prop
  | refused {s'} (active : s.threadWait.isActive = true) (kept : s'.gate = s.gate) :
      Outcome s (.ok (.ok (refusal s.threadWait.remainingMinutes))) s'
  | halted {s'} (free : s.threadWait.isActive = false) (kept : s'.gate = s.gate) (halt : Halt) :
      Outcome s (.error halt) s'
  | failed {s'} (free : s.threadWait.isActive = false) (kept : s'.gate = s.gate) (message : String)
      (data : Json.Value) :
      Outcome s (.ok (.ok (.failure ("Error creating thread: " ++ message) (some data)))) s'
  | created {s' t} (free : s.threadWait.isActive = false) (marked : s.MarkedAt s' t)
      (output : String) (data : Option Json.Value) :
      Outcome s (.ok (.ok (.success output data))) s'

/-- Creating a thread whatever the cooldown fails and leaves the gate, or marks the class. -/
theorem createThreadAbout_outcome (hs : Tracked s.faults) (topic : String)
    (free : s.threadWait.isActive = false) {s₁ : Session}
    (hasked : s₁ = s.note (.cooldownStatus s.threadClass)) :
    Outcome s ((createThreadAbout topic s₁).1.map .ok) (createThreadAbout topic s₁).2 := by
  have hnoted : s.Notes s₁ [.cooldownStatus s.threadClass] := by
    rw [hasked]
    exact ⟨rfl, rfl, rfl, rfl⟩
  have hgate₁ : s₁.gate = s.gate := by
    rw [hasked]
    rfl
  have hkept := (Attempt.keeps_publish hides_gate (.about topic) s₁).trans hgate₁
  obtain ⟨calls, hnotes, hcalls⟩ := Attempt.notesOnly_publish (P := fun c => c.isMark = false)
    (fun _ => id) (.about topic) s₁
  unfold createThreadAbout
  rcases hpublish : generateAndPublish topic s₁ with ⟨halt | p, s₂⟩
  all_goals
    rw [show (Attempt.Input.about topic).publish s₁ = _ from hpublish] at hkept hnotes
  · rw [Run.bind_error hpublish]
    exact .halted free hkept halt
  · rw [Run.bind_ok hpublish]
    cases hsuccess : p.success with
    | false => exact .failed free hkept p.message p.toJson
    | true =>
      obtain ⟨hsettings, hfaults, -, hcooldowns⟩ := Session.gate_eq_iff.1 hkept
      have hmark := Run.cooldownMark_eq (s := s₂) (by rw [hfaults]; exact (hs _).2)
        s₂.threadClass
      have hmarked : s₂.MarkedAt { s₂.note (.cooldownMark s₂.threadClass) with
          cooldowns := s₂.cooldowns.recordAt s₂.threadClass s₂.nextTime } s₂.nextTime :=
        ⟨⟨[], [], ⟨rfl, rfl, rfl, rfl⟩, nofun, rfl⟩, rfl⟩
      simp only [if_true]
      rw [Run.bind_ok (Run.get_eq s₂), Run.bind_ok hmark]
      refine .created free (hmarked.earlier (hnoted.trans hnotes) ?_ hcooldowns)
        (creationReport p) (some p.toJson)
      exact List.forall_mem_cons.2 ⟨rfl, hcalls⟩

/-- **What comes of creating a thread** is known from the gate, and leaves it or marks the
class. -/
theorem createThread_outcome (hs : Tracked s.faults) (values : Args) :
    Outcome s (createThread values s).1 (createThread values s).2 := by
  have hstatus : Run.cooldownStatus s.threadClass s
      = (.ok (.ok s.threadWait), s.note (.cooldownStatus s.threadClass)) :=
    Run.cooldownStatus_eq (hs _).1 s.threadClass
  unfold createThread
  rw [Run.bind_ok (Run.get_eq s), Run.bind_ok hstatus]
  cases hactive : s.threadWait.isActive with
  | true =>
    simp only [hactive, if_true]
    exact .refused hactive rfl
  | false =>
    simp only [hactive, Bool.false_eq_true, if_false]
    have houtcome := createThreadAbout_outcome hs
      ((values.getString? "topic").getD s.settings.thread.defaultTopic) hactive rfl
    rcases hcreate : createThreadAbout
      ((values.getString? "topic").getD s.settings.thread.defaultTopic)
      (s.note (.cooldownStatus s.threadClass)) with ⟨halt | output, s'⟩
    · rw [hcreate] at houtcome
      rw [Run.bind_error hcreate]
      exact houtcome
    · rw [hcreate] at houtcome
      rw [Run.bind_ok hcreate]
      exact houtcome

/-- Creating a thread begins with a check of the cooldown. -/
theorem createThread_checks (values : Args) (s : Session) :
    ∃ calls, s.Notes (createThread values s).2 (.cooldownStatus s.threadClass :: calls) := by
  obtain ⟨answer, s₁, hcall, hmakes⟩ := Run.step_call .cooldownStatus
    (.cooldownStatus s.threadClass)
    (fun s' => (.ok (s'.cooldowns.status s.threadClass s'.now), s')) s
  have hstatus : Run.cooldownStatus s.threadClass s = (.ok answer, s₁) := hcall
  have hnoted : s.Notes s₁ [.cooldownStatus s.threadClass] := by
    cases hmakes <;> exact ⟨rfl, rfl, rfl, rfl⟩
  unfold createThread
  rw [Run.bind_ok (Run.get_eq s)]
  have hnone (s : Session) (cooldowns : Cooldowns) :
      s.Notes { s with cooldowns := cooldowns } [] := ⟨rfl, rfl, rfl, (List.append_nil _).symm⟩
  refine Exists.imp (fun calls h => h.1)
    (Run.NotesOnly.after (P := fun _ => True) hstatus hnoted ?_)
  cases answer with
  | error e => exact Run.notesOnly_pure _ s₁
  | ok wait =>
    simp only
    split
    · exact Run.notesOnly_pure _ s₁
    · refine Run.NotesOnly.bind ?_ fun _ s _ => Run.notesOnly_pure _ s
      unfold createThreadAbout
      refine (Attempt.notesOnly_publish (fun _ _ => trivial) (.about _) s₁).bind fun p s _ => ?_
      split
      · refine (Run.notesOnly_get s).bind fun _ s _ => ?_
        exact (Run.notesOnly_step trivial (fun s => hnone s _) s).bind fun _ s _ =>
          Run.notesOnly_pure _ s
      · exact Run.notesOnly_pure _ s

/-- **All that a line can do that asks for a thread.** -/
inductive Tries (s : Session) : Except Halt Executed → Session → Prop
  | refused {s'} (active : s.threadWait.isActive = true) (kept : s'.gate = s.gate) (line : String)
      (minutes : Nat) : Tries s (.ok (.ofOutput line (refusal minutes))) s'
  | failed {result s'} (free : s.threadWait.isActive = false) (kept : s'.gate = s.gate)
      (unlike : ∀ executed, result = .ok executed → executed.isError = true ∧
        ∀ minutes, executed.output ≠ (refusal minutes).output) : Tries s result s'
  | created {executed s' t} (free : s.threadWait.isActive = false) (marked : s.MarkedAt s' t)
      (done : executed.isError = false) : Tries s (.ok executed) s'

/-- A report of another failure is not that of a cooldown. -/
theorem error_ne_refusal (text : String) (minutes : Nat) :
    "Error " ++ text ≠ (refusal minutes).output := by
  intro h
  have hhead := congrArg (fun output : String => output.toList.head?) h
  simp [refusal, CommandOutput.failure] at hhead

/-- Executing an input gives what running it gives, and the gate that running it leaves. -/
theorem execute_gate (raw : String) (s : Session) :
    (execute builtins raw s).1 = (runInput builtins raw s).1 ∧
      (execute builtins raw s).2.gate = (runInput builtins raw s).2.gate :=
  logged_keeps (fun _ _ => rfl) (fun _ _ => rfl) (runInput builtins raw) s

/-- A line that asks for a thread does one of the three things. -/
theorem execute_tries (hs : Tracked s.faults) {raw line : String} {values : Args}
    (hnames : Names builtins raw line createThreadCommand values) :
    Tries s (execute builtins raw s).1 (execute builtins raw s).2 := by
  obtain ⟨hresult, hgate⟩ := execute_gate raw s
  have hperformed : runInput builtins raw s = _ :=
    (congrFun (runInput_of_names hnames) s).trans (perform_eq builtins line _ values s)
  have houtcome := createThread_outcome hs values
  rcases hcreate : createThread values s with ⟨outcome, s₁⟩
  have hrun : createThreadCommand.action.run builtins values s = (outcome, s₁) := hcreate
  rw [hcreate] at houtcome
  rw [hrun] at hperformed
  rw [hperformed] at hresult hgate
  rw [hresult]
  cases houtcome with
  | refused active kept => exact .refused active (hgate.trans kept) line _
  | created free marked output data =>
    have hlogged := logged_notes hperformed
    refine .created free (marked.later hlogged ?_ (Session.gate_eq_iff.1 hgate).2.2.2) rfl
    exact List.forall_mem_singleton.2 rfl
  | failed free kept message data =>
    refine .failed free (hgate.trans kept) ?_
    rintro executed ⟨⟩
    refine ⟨rfl, fun minutes => ?_⟩
    show "Error creating thread: " ++ message ≠ _
    rw [show "Error creating thread: " = "Error " ++ "creating thread: " from rfl,
      String.append_assoc]
    exact error_ne_refusal _ minutes
  | halted free kept halt =>
    refine .failed free (hgate.trans kept) ?_
    cases halt with
    | stalled => exact nofun
    | crashed =>
      rintro executed ⟨⟩
      exact ⟨rfl, error_ne_refusal "executing command 'create-thread': handler panicked"⟩

/-- A line that asks for a thread is refused exactly while a cooldown is active. -/
theorem refuses_iff (hs : Tracked s.faults) {raw line : String} {values : Args}
    (hnames : Names builtins raw line createThreadCommand values) :
    Refuses s raw ↔ s.threadWait.isActive = true := by
  have htries := execute_tries hs hnames
  unfold Refuses
  generalize (execute builtins raw s).1 = result at htries ⊢
  cases htries with
  | refused active kept line minutes => exact ⟨fun _ => active, fun _ => ⟨line, minutes, rfl⟩⟩
  | failed free kept unlike =>
    simp only [free, Bool.false_eq_true, iff_false]
    rintro ⟨line, minutes, hresult⟩
    exact (unlike _ hresult).2 minutes rfl
  | created free marked done =>
    simp only [free, Bool.false_eq_true, iff_false]
    rintro ⟨line, minutes, hresult⟩
    cases hresult
    cases done

/-- A line that asks for a thread begins with a check of the cooldown. -/
theorem execute_checks {raw line : String} {values : Args}
    (hnames : Names builtins raw line createThreadCommand values) (s : Session) :
    (execute builtins raw s).2.journal[s.journal.length]?
      = some (.cooldownStatus s.threadClass) := by
  obtain ⟨calls, hnotes⟩ := createThread_checks values s
  have hleft : (runInput builtins raw s).2 = (createThread values s).2 := by
    rw [runInput_of_names hnames]
    exact perform_session builtins line createThreadCommand values s
  have hfirst {s' : Session} {calls : List Call}
      (h : s.Notes s' (.cooldownStatus s.threadClass :: calls)) :
      s'.journal[s.journal.length]? = some (.cooldownStatus s.threadClass) := by
    rw [h.journal, List.getElem?_append_right (Nat.le_refl _), Nat.sub_self]
    rfl
  rw [← hleft] at hnotes
  rcases hrun : runInput builtins raw s with ⟨halt | executed, s₁⟩
  all_goals rw [hrun] at hnotes
  · have hlogged : execute builtins raw s = (.error halt, s₁) := Run.bind_error hrun
    rw [hlogged]
    exact hfirst hnotes
  · exact hfirst (hnotes.trans (logged_notes hrun))

/-- A line that asks for no thread leaves the gate. -/
theorem execute_kept {raw : String}
    (h : ¬ ∃ line values, Names builtins raw line createThreadCommand values) :
    (execute builtins raw s).2.gate = s.gate := by
  rw [(execute_gate raw s).2]
  exact (runInput_idles hidesAsking_gate fun d s₁ hoffers => absurd hoffers.asks h).1.kept

end line

/-! ## One deed -/

section deed

variable {s : Session} {deed : Deed} {t : Timestamp}

/-- A deed that creates a thread does so while no cooldown is active, and marks the class. -/
theorem Deed.marks (hs : Tracked s.faults) (h : deed.Creates s) :
    s.threadWait.isActive = false ∧ ∃ t, s.MarkedAt (deed.run s) t := by
  cases deed with
  | publish | pass => exact h.elim
  | enter raw =>
    obtain ⟨⟨line, values, hnames⟩, executed, hresult, hdone⟩ := h
    have htries := execute_tries hs hnames
    show _ ∧ ∃ t, s.MarkedAt (execute builtins raw s).2 t
    rw [hresult] at htries
    generalize (execute builtins raw s).2 = s' at htries ⊢
    cases htries with
    | refused => cases hdone
    | failed free kept unlike =>
      rw [(unlike executed rfl).1] at hdone
      cases hdone
    | created free marked => exact ⟨free, _, marked⟩

/-- A deed that creates a thread marks the class at one time. -/
theorem createsAt_iff (h : deed.Creates s) (hmarked : s.MarkedAt (deed.run s) t) (t' : Timestamp) :
    deed.CreatesAt s t' ↔ t' = t := by
  constructor
  · rintro ⟨-, n, hn, hmark, rfl⟩
    exact hmarked.time_eq hn hmark
  · rintro rfl
    exact ⟨h, hmarked.exists_call⟩

/-- A deed that creates a thread marks the class at its time. -/
theorem Deed.CreatesAt.marked (hs : Tracked s.faults) (h : deed.CreatesAt s t) :
    s.MarkedAt (deed.run s) t := by
  obtain ⟨-, t', hmarked⟩ := Deed.marks hs h.1
  rw [(createsAt_iff h.1 hmarked t).1 h]
  exact hmarked

/-- A thread is not marked before it is asked for where the clock does not go back by itself. -/
theorem Deed.forward_of_monotone (hclock : Monotone s.clock) : deed.Forward s := by
  rintro _ ⟨-, n, hn, -, rfl⟩
  exact hclock (Nat.succ_le_succ hn)

/-- **A deed that creates no thread leaves the gate**, whatever it is and however it ends, unless it
sets the clock. -/
theorem Deed.kept (hs : Tracked s.faults) (h : ¬ deed.Creates s) :
    ∃ clock, (deed.run s).gate = { s with clock := clock }.gate ∧
      (clock = s.clock ∨ deed = .pass clock) := by
  cases deed with
  | pass clock => exact ⟨clock, rfl, .inr rfl⟩
  | publish input => exact ⟨s.clock, Attempt.keeps_publish hides_gate input s, .inl rfl⟩
  | enter raw =>
    refine ⟨s.clock, ?_, .inl rfl⟩
    show (execute builtins raw s).2.gate = s.gate
    by_cases hasks : ∃ line values, Names builtins raw line createThreadCommand values
    · obtain ⟨line, values, hnames⟩ := hasks
      have htries := execute_tries hs hnames
      rcases hrun : execute builtins raw s with ⟨result, s'⟩
      rw [hrun] at htries
      cases htries with
      | refused active kept => exact kept
      | failed free kept => exact kept
      | @created executed _ _ free marked done =>
        have hresult : (execute builtins raw s).1 = .ok executed := by rw [hrun]
        exact absurd ⟨⟨line, values, hnames⟩, executed, hresult, done⟩ h
    · exact execute_kept hasks

/-- Only a deed that sets the clock changes what it will show. -/
theorem Deed.clock_eq (hs : Tracked s.faults) (deed : Deed) :
    (deed.run s).clock = s.clock ∨ deed = .pass (deed.run s).clock := by
  by_cases hcreates : deed.Creates s
  · obtain ⟨-, t, ⟨before, later, hnotes, -⟩, -⟩ := Deed.marks hs hcreates
    exact .inl hnotes.clock
  · obtain ⟨clock, hgate, hclock⟩ := Deed.kept hs hcreates
    obtain ⟨-, -, hshows, -⟩ := Session.gate_eq_iff.1 hgate
    rw [hshows]
    exact hclock

end deed

/-! ## Deeds one after the other -/

/-- **The time at which the last thread among deeds has been marked.** -/
def LastCreated (s : Session) (deeds : List Deed) (t : Timestamp) : Prop :=
  ∃ earlier deed later, deeds = earlier ++ deed :: later ∧ deed.CreatesAt (after s earlier) t ∧
    ∀ between other rest, later = between ++ other :: rest →
      ¬ other.Creates (after s (earlier ++ deed :: between))

section deeds

variable {s : Session} {deeds : List Deed} {deed : Deed} {t : Timestamp}

/-- No thread is the last one of none. -/
theorem not_lastCreated_nil : ¬ LastCreated s [] t := by
  rintro ⟨earlier, deed, later, hdeeds, -⟩
  simp at hdeeds

/-- Deeds that end with one are split at that one, or before it. -/
theorem split_concat {last : Deed} {earlier later : List Deed}
    (h : deeds ++ [last] = earlier ++ deed :: later) :
    (deeds = earlier ∧ last = deed ∧ later = []) ∨
      ∃ between, later = between ++ [last] ∧ deeds = earlier ++ deed :: between := by
  rcases List.eq_nil_or_concat later with rfl | ⟨between, other, rfl⟩
  · obtain ⟨hdeeds, hlast⟩ := List.append_inj' h rfl
    exact .inl ⟨hdeeds, List.singleton_inj.1 hlast, rfl⟩
  · rw [List.concat_eq_append, ← List.cons_append, ← List.append_assoc] at h
    obtain ⟨hdeeds, hlast⟩ := List.append_inj' h rfl
    rw [List.singleton_inj.1 hlast]
    exact .inr ⟨between, List.concat_eq_append, hdeeds⟩

/-- A thread that has just been created is the last one. -/
theorem lastCreated_of_creates (h : deed.Creates (after s deeds)) :
    LastCreated s (deeds ++ [deed]) t ↔ deed.CreatesAt (after s deeds) t := by
  constructor
  · rintro ⟨earlier, first, later, hdeeds, hcreates, hlast⟩
    obtain ⟨rfl, rfl, -⟩ | ⟨between, rfl, rfl⟩ := split_concat hdeeds
    · exact hcreates
    · exact absurd h (hlast between deed [] rfl)
  · intro hcreates
    refine ⟨deeds, deed, [], rfl, hcreates, ?_⟩
    intro between other rest hnil
    simp at hnil

/-- Whatever creates no thread leaves the last one. -/
theorem lastCreated_of_not_creates (h : ¬ deed.Creates (after s deeds)) :
    LastCreated s (deeds ++ [deed]) t ↔ LastCreated s deeds t := by
  constructor
  · rintro ⟨earlier, first, later, hdeeds, hcreates, hlast⟩
    obtain ⟨rfl, rfl, -⟩ | ⟨between, rfl, rfl⟩ := split_concat hdeeds
    · exact absurd hcreates.1 h
    · refine ⟨earlier, first, between, rfl, hcreates, ?_⟩
      rintro between' other rest rfl
      exact hlast between' other (rest ++ [deed]) (by simp)
  · rintro ⟨earlier, first, later, rfl, hcreates, hlast⟩
    refine ⟨earlier, first, later ++ [deed], by simp, hcreates, ?_⟩
    intro between other rest hlater
    obtain ⟨rfl, rfl, -⟩ | ⟨rest', -, hrest⟩ := split_concat hlater
    · exact h
    · exact hlast between other rest' hrest

/-- After deeds the cooldowns tell when the last thread among them has been marked. -/
structure Gated (s : Session) (deeds : List Deed) : Prop where
  settings : (after s deeds).settings = s.settings
  faults : (after s deeds).faults = s.faults
  window : (after s deeds).cooldowns.windows = s.cooldowns.windows
  last : ∀ t, (after s deeds).cooldowns.last? s.threadClass = some t ↔ LastCreated s deeds t

/-- **What the cooldowns tell** after any deeds of an agent that has begun without a mark. -/
theorem gated_after (hs : Tracked s.faults) (hfresh : s.cooldowns.last? s.threadClass = none)
    (deeds : List Deed) : Gated s deeds := by
  -- On the last deed: it marks the class, or the mark stays what it was.
  induction deeds using List.reverseRecOn with
  | nil =>
    refine ⟨rfl, rfl, rfl, fun t => ?_⟩
    rw [show after s [] = s from rfl, hfresh]
    simpa using not_lastCreated_nil
  | append_singleton deeds deed ih =>
    have htracked : Tracked (after s deeds).faults := by
      rw [ih.faults]
      exact hs
    by_cases hcreates : deed.Creates (after s deeds)
    · obtain ⟨-, time, hmarked⟩ := Deed.marks htracked hcreates
      have htime := createsAt_iff hcreates hmarked
      obtain ⟨⟨before, later, hnotes, -⟩, hcooldowns⟩ := hmarked
      rw [← after_concat] at hnotes hcooldowns
      refine ⟨hnotes.settings.trans ih.settings, hnotes.faults.trans ih.faults, ?_, fun t => ?_⟩
      · rw [hcooldowns]
        exact ih.window
      · rw [lastCreated_of_creates hcreates, htime, hcooldowns, Session.threadClass, ih.settings]
        simp [Cooldowns.last?_recordAt, eq_comm]
    · obtain ⟨clock, hgate, -⟩ := Deed.kept htracked hcreates
      rw [← after_concat] at hgate
      obtain ⟨hsettings, hfaults, -, hcooldowns⟩ := Session.gate_eq_iff.1 hgate
      refine ⟨hsettings.trans ih.settings, hfaults.trans ih.faults, ?_, fun t => ?_⟩
      · rw [hcooldowns]
        exact ih.window
      · rw [lastCreated_of_not_creates hcreates, hcooldowns]
        exact ih.last t

variable {window : Nat}

/-- A cooldown is active within the window after the last thread. -/
theorem Gated.isActive_iff (h : Gated s deeds)
    (hwindow : s.cooldowns.window? s.threadClass = some window) :
    (after s deeds).threadWait.isActive = true ↔
      ∃ t, LastCreated s deeds t ∧ (after s deeds).nextTime - t < 60000 * window := by
  have hwindow : (after s deeds).cooldowns.window? s.threadClass = some window := by
    rw [Cooldowns.window?, h.window]
    exact hwindow
  rw [Session.threadWait, Session.threadClass, h.settings, status_isActive_iff hwindow]
  simp only [h.last]

/-- A thread that is created is asked for a window after the last one has been marked. -/
theorem window_le_of_creates (hs : Tracked s.faults)
    (hwindow : s.cooldowns.window? s.threadClass = some window) (hgated : Gated s deeds)
    (hlast : LastCreated s deeds t) (h : deed.Creates (after s deeds)) (hpositive : 0 < window) :
    t + 60000 * window ≤ (after s deeds).nextTime := by
  have htracked : Tracked (after s deeds).faults := by
    rw [hgated.faults]
    exact hs
  have hfree := (Deed.marks htracked h).1
  have hfar : ¬ (after s deeds).nextTime - t < 60000 * window := by
    intro hnear
    rw [(hgated.isActive_iff hwindow).2 ⟨t, hlast, hnear⟩] at hfree
    cases hfree
  have harith (now t : Nat) (h : ¬ now - t < 60000 * window) : t + 60000 * window ≤ now := by
    omega
  exact harith _ _ hfar

/-- No thread is marked before it is asked for among deeds that come after others. -/
def Forward (s : Session) (deeds later : List Deed) : Prop :=
  ∀ first other rest, later = first ++ other :: rest → other.Forward (after s (deeds ++ first))

/-- The clock does not go back by itself after deeds if it does not before them, and is not set
among them to one that does. -/
theorem monotone_after (htracked : ∀ deeds, Tracked (after s deeds).faults) {later : List Deed}
    (hclock : Monotone (after s deeds).clock)
    (hset : ∀ clock, Deed.pass clock ∈ later → Monotone clock) :
    Monotone (after s (deeds ++ later)).clock := by
  induction later using List.reverseRecOn with
  | nil =>
    rw [List.append_nil]
    exact hclock
  | append_singleton later deed ih =>
    rw [← List.append_assoc, after_concat]
    obtain hkept | hpass := Deed.clock_eq (htracked (deeds ++ later)) deed
    · rw [hkept]
      exact ih fun clock hmem => hset clock (List.mem_append_left _ hmem)
    · exact hset _ (List.mem_append_right _ (List.mem_singleton.2 hpass.symm))

/-- **No thread is marked before it is asked for** where the clock is set back between deeds
only. -/
theorem forward_of_monotone (htracked : ∀ deeds, Tracked (after s deeds).faults)
    {later : List Deed} (hclock : Monotone (after s deeds).clock)
    (hset : ∀ clock, Deed.pass clock ∈ later → Monotone clock) : Forward s deeds later := by
  rintro first other rest rfl
  refine Deed.forward_of_monotone (monotone_after htracked hclock fun clock hmem => ?_)
  exact hset clock (List.mem_append_left _ hmem)

/-- Once a thread has been marked, the last one has not been marked before it. -/
theorem exists_lastCreated (hs : Tracked s.faults)
    (hwindow : s.cooldowns.window? s.threadClass = some window)
    (hfresh : s.cooldowns.last? s.threadClass = none) (hpositive : 0 < window)
    (h : deed.CreatesAt (after s deeds) t) {later : List Deed}
    (hforward : Forward s (deeds ++ [deed]) later) :
    ∃ last, LastCreated s (deeds ++ [deed] ++ later) last ∧ t ≤ last := by
  induction later using List.reverseRecOn with
  | nil =>
    rw [List.append_nil]
    exact ⟨t, (lastCreated_of_creates h.1).2 h, Nat.le_refl t⟩
  | append_singleton later other ih =>
    have hearlier : Forward s (deeds ++ [deed]) later := by
      rintro first third rest rfl
      exact hforward first third (rest ++ [other]) (by simp)
    obtain ⟨last, hlast, hle⟩ := ih hearlier
    rw [← List.append_assoc]
    by_cases hcreates : other.Creates (after s (deeds ++ [deed] ++ later))
    · have hgated := gated_after hs hfresh (deeds ++ [deed] ++ later)
      have htracked : Tracked (after s (deeds ++ [deed] ++ later)).faults := by
        rw [hgated.faults]
        exact hs
      have hfar := window_le_of_creates hs hwindow hgated hlast hcreates hpositive
      obtain ⟨-, time, hmarked⟩ := Deed.marks htracked hcreates
      have hat := (createsAt_iff hcreates hmarked time).2 rfl
      refine ⟨time, (lastCreated_of_creates hcreates).2 hat, ?_⟩
      calc
        t ≤ last := hle
        _ ≤ last + 60000 * window := Nat.le_add_right _ _
        _ ≤ (after s (deeds ++ [deed] ++ later)).nextTime := hfar
        _ ≤ time := hforward later other [] rfl time hat
    · exact ⟨last, (lastCreated_of_not_creates hcreates).2 hlast, hle⟩

/-- **Throttling over whole runs.**  An agent whose class of threads has a window, and no mark at
first, does whatever it is made to, while the clock goes on, stands still or is set back, within a
line as well as between two.  A line that asks for a thread checks the cooldown first; it is refused
exactly if the last thread that has been created was marked less than the window before that, a
clock that has gone backwards counting as one that has not moved.  So a thread that is created has
been asked for a window after any earlier one was marked, unless the window is empty or another one
between the two has been marked before it was asked for.  None is where the clock is set back
between deeds only.  A deed that creates a thread marks the class at one time, and no other deed
changes the cooldowns. -/
theorem throttled (hs : Tracked s.faults)
    (hwindow : s.cooldowns.window? s.threadClass = some window)
    (hfresh : s.cooldowns.last? s.threadClass = none) :
    (∀ deeds raw line values, Names builtins raw line createThreadCommand values →
      (execute builtins raw (after s deeds)).2.journal[(after s deeds).journal.length]?
        = some (.cooldownStatus s.threadClass) ∧
      (Refuses (after s deeds) raw ↔
        ∃ t, LastCreated s deeds t ∧ (after s deeds).nextTime - t < 60000 * window)) ∧
    (0 < window → ∀ (earlier between : List Deed) (deed deed' : Deed) (t : Timestamp),
      deed.CreatesAt (after s earlier) t →
      deed'.Creates (after s (earlier ++ [deed] ++ between)) →
      Forward s (earlier ++ [deed]) between →
      t + 60000 * window ≤ (after s (earlier ++ [deed] ++ between)).nextTime) ∧
    (∀ deeds later : List Deed, Monotone (after s deeds).clock →
      (∀ clock, Deed.pass clock ∈ later → Monotone clock) → Forward s deeds later) ∧
    ∀ (deeds : List Deed) (deed : Deed),
      (deed.Creates (after s deeds) → ∃ t, (∀ t', deed.CreatesAt (after s deeds) t' ↔ t' = t) ∧
        (deed.run (after s deeds)).cooldowns
          = (after s deeds).cooldowns.recordAt s.threadClass t) ∧
      (¬ deed.Creates (after s deeds) →
        (deed.run (after s deeds)).cooldowns = (after s deeds).cooldowns) := by
  have hgated := gated_after hs hfresh
  have htracked (deeds : List Deed) : Tracked (after s deeds).faults := by
    rw [(hgated deeds).faults]
    exact hs
  refine ⟨?_, ?_, fun deeds later => forward_of_monotone htracked, ?_⟩
  · intro deeds raw line values hnames
    have hchecks := execute_checks hnames (after s deeds)
    rw [Session.threadClass, (hgated deeds).settings] at hchecks
    refine ⟨hchecks, ?_⟩
    rw [refuses_iff (htracked deeds) hnames]
    exact (hgated deeds).isActive_iff hwindow
  · intro hpositive earlier between deed deed' t hfirst hsecond hforward
    obtain ⟨last, hlast, hle⟩ :=
      exists_lastCreated hs hwindow hfresh hpositive hfirst hforward
    have hfar := window_le_of_creates hs hwindow (hgated _) hlast hsecond hpositive
    exact Nat.le_trans (Nat.add_le_add_right hle _) hfar
  · intro deeds deed
    refine ⟨fun h => ?_, fun h => ?_⟩
    · obtain ⟨-, t, hmarked⟩ := Deed.marks (htracked deeds) h
      refine ⟨t, createsAt_iff h hmarked, ?_⟩
      rw [hmarked.cooldowns, Session.threadClass, (hgated deeds).settings]
    · obtain ⟨clock, hgate, -⟩ := Deed.kept (htracked deeds) h
      exact (Session.gate_eq_iff.1 hgate).2.2.2

end deeds

/-- A line that asks for a thread. -/
theorem names_createThread_x :
    Names builtins "create-thread x" "create-thread x" createThreadCommand
      ⟨[("topic", .string "x")]⟩ :=
  @Names.intro builtins _ _ createThreadCommand ["x"] _ ⟨rfl, rfl⟩ rfl rfl

/-- It creates one if its execution is not reported as an error. -/
theorem creates_thread_x {s : Session}
    (h : (execute builtins "create-thread x" s).1.toOption.map Executed.isError = some false) :
    (Deed.enter "create-thread x").Creates s := by
  refine ⟨⟨_, _, names_createThread_x⟩, ?_⟩
  generalize (execute builtins "create-thread x" s).1 = result at h ⊢
  cases result with
  | error halt => cases h
  | ok executed => exact ⟨executed, rfl, Option.some.inj h⟩

/-- A session in which the first call is made after a second, and what follows takes a while. -/
def slowSession : Session :=
  { writingSession .posting with clock := fun n => if n ≤ 1 then 1000 else 14000 }

/-- No call fails there. -/
theorem tracked_slowSession : Tracked slowSession.faults := fun _ => ⟨rfl, rfl⟩

/-- The first thread is marked there by the fourteenth call. -/
theorem createsAt_slowSession : (Deed.enter "create-thread x").CreatesAt slowSession 14000 := by
  have hcreates : (Deed.enter "create-thread x").Creates slowSession :=
    creates_thread_x (by decide +kernel)
  have hmark : (((Deed.enter "create-thread x").run slowSession).journal[13]?).map Call.isMark
      = some true := by decide +kernel
  obtain ⟨c, hcall, hc⟩ := Option.map_eq_some_iff.1 hmark
  obtain ⟨-, t, hmarked⟩ := Deed.marks tracked_slowSession hcreates
  rw [createsAt_iff hcreates hmarked]
  cases c with
  | cooldownMark name => exact hmarked.time_eq (Nat.zero_le 13) hcall
  | _ => cases hc

/-- It is the last one, whatever the clock is set to. -/
theorem lastCreated_slowSession (clock : Nat → Timestamp) (t : Timestamp) :
    LastCreated slowSession [.enter "create-thread x", .pass clock] t ↔ t = 14000 := by
  have hlast : LastCreated slowSession ([.enter "create-thread x"] ++ [.pass clock]) t
      ↔ LastCreated slowSession ([] ++ [.enter "create-thread x"]) t :=
    lastCreated_of_not_creates id
  exact (hlast.trans (lastCreated_of_creates createsAt_slowSession.1)).trans
    (createsAt_iff createsAt_slowSession.1 (createsAt_slowSession.marked tracked_slowSession) t)

/-- A clock that has been stopped shows the same at the next call. -/
theorem nextTime_pass (s : Session) (deeds : List Deed) (now : Timestamp) :
    (after s (deeds ++ [.pass fun _ => now])).nextTime = now := by
  rw [after_concat]
  rfl

/-- The clock of that session does not go back by itself, nor once a thread has been created. -/
theorem monotone_slowSession :
    Monotone (after slowSession ([] ++ [.enter "create-thread x"])).clock := by
  have hclock (m n : Nat) (hle : m ≤ n) :
      (if m ≤ 1 then 1000 else 14000) ≤ if n ≤ 1 then 1000 else 14000 := by
    split <;> split <;> omega
  rw [after_concat]
  obtain hkept | hpass := Deed.clock_eq tracked_slowSession (.enter "create-thread x")
  · rw [show ((Deed.enter "create-thread x").run (after slowSession [])).clock = _ from hkept]
    exact fun m n hle => hclock m n hle
  · cases hpass

/-- The second of three threads is created an hour after the first one has been marked, and the
third one is asked for an hour later. -/
def hourly : List Deed :=
  [.pass fun _ => 3614000, .enter "create-thread x", .pass fun _ => 7214000]

/-- For an hour after a thread has been marked the next one is refused, and then no longer.  The one
after that is an hour apart from the first one, too. -/
theorem throttled_for_an_hour :
    Tracked slowSession.faults ∧
      slowSession.cooldowns.window? slowSession.threadClass = some 60 ∧
      slowSession.cooldowns.last? slowSession.threadClass = none ∧
      slowSession.nextTime = 1000 ∧
      (Deed.enter "create-thread x").CreatesAt slowSession 14000 ∧
      (∀ now, Refuses (after slowSession [.enter "create-thread x", .pass fun _ => now])
        "create-thread x" ↔ now < 3614000) ∧
      (Deed.enter "create-thread x").Creates
        (after slowSession [.enter "create-thread x", .pass fun _ => 3614000]) ∧
      Forward slowSession ([] ++ [.enter "create-thread x"]) hourly ∧
      (Deed.enter "create-thread x").Creates
        (after slowSession ([] ++ [.enter "create-thread x"] ++ hourly)) ∧
      14000 + 60000 * 60
        ≤ (after slowSession ([] ++ [.enter "create-thread x"] ++ hourly)).nextTime := by
  have hwindow : slowSession.cooldowns.window? slowSession.threadClass = some 60 := by decide
  have hfresh : slowSession.cooldowns.last? slowSession.threadClass = none := by decide
  have hsecond : (Deed.enter "create-thread x").Creates
      (after slowSession [.enter "create-thread x", .pass fun _ => 3614000]) :=
    creates_thread_x (by decide +kernel)
  have hthird : (Deed.enter "create-thread x").Creates
      (after slowSession ([] ++ [.enter "create-thread x"] ++ hourly)) :=
    creates_thread_x (by decide +kernel)
  obtain ⟨hrefuses, happart, hmonotone, -⟩ := throttled tracked_slowSession hwindow hfresh
  have hforward : Forward slowSession ([] ++ [.enter "create-thread x"]) hourly := by
    refine hmonotone _ _ monotone_slowSession fun clock hmem => ?_
    obtain rfl | rfl : clock = (fun _ => 3614000) ∨ clock = fun _ => 7214000 := by
      simpa [hourly] using hmem
    all_goals exact monotone_const
  refine ⟨tracked_slowSession, hwindow, hfresh, rfl, createsAt_slowSession, fun now => ?_, hsecond,
    hforward, hthird, happart (by decide) [] hourly _ _ _ createsAt_slowSession hthird hforward⟩
  rw [(hrefuses _ _ _ _ names_createThread_x).2]
  simp only [lastCreated_slowSession, exists_eq_left]
  have hnow : (after slowSession [.enter "create-thread x", .pass fun _ => now]).nextTime = now :=
    nextTime_pass slowSession [.enter "create-thread x"] now
  rw [hnow]
  have harith (now : Nat) : now - 14000 < 60000 * 60 ↔ now < 3614000 := by omega
  exact harith now

/-- The clock is set back while the second of three threads is created, and to less than an hour
after the first one when the third one is asked for. -/
def setBack : List Deed :=
  [.pass fun n => if n ≤ 16 then 7200000 else 0, .enter "create-thread x", .pass fun _ => 3600000]

/-- **Where the clock is set back while a thread is created**, one before it and one after it may be
less than the window apart. -/
theorem set_back_admits :
    (Deed.enter "create-thread x").CreatesAt slowSession 14000 ∧
      (Deed.enter "create-thread x").Creates
        (after slowSession ([] ++ [.enter "create-thread x"] ++ setBack)) ∧
      (after slowSession ([] ++ [.enter "create-thread x"] ++ setBack)).nextTime
        < 14000 + 60000 * 60 := by
  refine ⟨createsAt_slowSession, creates_thread_x (by decide +kernel), ?_⟩
  have hdeeds : [] ++ [.enter "create-thread x"] ++ setBack
      = (.enter "create-thread x" :: setBack.take 2) ++ [.pass fun _ => 3600000] := rfl
  rw [hdeeds, nextTime_pass]
  exact Nat.lt_of_sub_pos (by decide)

end Terminal

end PostingTerminal
