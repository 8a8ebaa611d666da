import PostingTerminal.Proofs.Attempt.Keeps
import PostingTerminal.Proofs.Store.Records

/-!
# Attempts that do not begin a record

Before an attempt begins the record of its draft it asks for content, and nothing is changed by
that but what is there to be asked.

* `Session.HidesAsking` — a view does not show what is changed by asking: the generator, the waiting
  clock, the supply of ids, the accesses of a store and the calls that do not act.
* `Run.Idles` — a run keeps a view, and stalls only where the generator never answers.  Such runs
  can be put one after the other (`Run.Idles.bind`).
* `Attempt.idles_content` — having content written is such a run.
* `Attempt.publish_withheld` — **an attempt whose record cannot be begun**, if it comes to one at
  all, fails and is such a run.
-/

namespace PostingTerminal

open Store (Drafts)

/-! ## Runs that only ask -/

/-- Beginning a record fails only without having begun it. -/
def FailsCleanly (faults : Faults) : Prop :=
  ∀ n fault, faults .persist n = some fault → fault.afterCall = false

variable {γ : Type} {view : Session → γ}

/-- A view does not show what is changed by asking: the generator, the waiting clock, the supply of
ids, the accesses of a store and the calls that do not act. -/
structure Session.HidesAsking (view : Session → γ) : Prop where
  note (s : Session) (c : Call) (h : c.acts = false) : view (s.note c) = view s
  generator (s : Session) (g : Generator) : view { s with generator := g } = view s
  elapsed (s : Session) (time : Nat) : view { s with elapsed := time } = view s
  idsTaken (s : Session) (n : Nat) : view { s with idsTaken := n } = view s
  drafts (s : Session) (drafts : Drafts) (h : drafts.contents = s.drafts.contents) :
    view { s with drafts := drafts } = view s

/-- All of a session but its drafts and what is changed by asking. -/
def Session.kept (s : Session) : Session :=
  { s with
    drafts := .memory .empty
    generator := .disabled ""
    elapsed := 0
    idsTaken := 0
    journal := s.journal.filter Call.acts }

/-- What is kept of a session does not show what is changed by asking. -/
theorem hidesAsking_kept : Session.HidesAsking Session.kept where
  note s c h := by
    have hjournal : (s.journal ++ [c]).filter Call.acts = s.journal.filter Call.acts := by
      simp [h]
    simp only [Session.kept, Session.note, hjournal]
  generator _ _ := rfl
  elapsed _ _ := rfl
  idsTaken _ _ := rfl
  drafts _ _ _ := rfl

/-- The contents of its drafts do not show it. -/
theorem hidesAsking_contents : Session.HidesAsking fun s => s.drafts.contents where
  note _ _ _ := rfl
  generator _ _ := rfl
  elapsed _ _ := rfl
  idsTaken _ _ := rfl
  drafts _ _ h := h

/-- Its settings do not show it. -/
theorem hidesAsking_settings : Session.HidesAsking Session.settings where
  note _ _ _ := rfl
  generator _ _ := rfl
  elapsed _ _ := rfl
  idsTaken _ _ := rfl
  drafts _ _ _ := rfl

/-- How often a session has appended to the transcript is known from what is kept of it. -/
theorem Session.appends_of_kept {s s' : Session} (h : s'.kept = s.kept) :
    s'.callCount .append = s.callCount .append := by
  have hjournal : s'.journal.filter Call.acts = s.journal.filter Call.acts :=
    (congrArg Session.journal h :)
  have hcount (s : Session) : s.callCount .append
      = ((s.journal.filter Call.acts).filter fun c => c.method? == some .append).length := by
    rw [Session.callCount, List.filter_filter]
    congr 1
    apply List.filter_congr
    intro c _
    cases c <;> rfl
  rw [hcount, hcount, hjournal]

namespace Run

variable {α β : Type} {x : Run α} {f : α → Run β} {s : Session}

/-- A run keeps a view, and stalls only where the generator never answers. -/
structure Idles (view : Session → γ) (x : Run α) (s : Session) : Prop where
  kept : Keeps view x s
  stalls : (x s).1 = .error .stalled → (x s).2.Unanswered

/-- What a run in a session comes to makes it idle. -/
theorem Idles.of_eq {outcome : Except Halt α} {s' : Session} (h : x s = (outcome, s'))
    (hkept : view s' = view s) (hstalls : outcome = .error .stalled → s'.Unanswered) :
    Idles view x s := by
  constructor
  · rw [Keeps, h]
    exact hkept
  · rw [h]
    exact hstalls

/-- What an idle run has come to. -/
theorem Idles.outcome {outcome : Except Halt α} {s' : Session} (hx : Idles view x s)
    (h : x s = (outcome, s')) :
    view s' = view s ∧ (outcome = .error .stalled → s'.Unanswered) := by
  refine ⟨hx.kept.outcome h, ?_⟩
  have hstalls := hx.stalls
  rw [h] at hstalls
  exact hstalls

/-- A value is given without a call. -/
theorem idles_pure (a : α) (s : Session) : Idles view (pure a) s := ⟨rfl, nofun⟩

/-- A session is read without a call. -/
theorem idles_get (s : Session) : Idles view get s := ⟨rfl, nofun⟩

/-- **Idle runs can be put one after the other.** -/
theorem Idles.bind (hx : Idles view x s)
    (hf : ∀ a s', x s = (.ok a, s') → Idles view (f a) s') : Idles view (x >>= f) s := by
  refine ⟨hx.kept.bind fun a s' hrun => (hf a s' hrun).kept, ?_⟩
  rcases hrun : x s with ⟨halt | a, s'⟩
  · rw [bind_error hrun]
    intro h
    apply (hx.outcome hrun).2
    rw [Except.error.inj h]
  · rw [bind_ok hrun]
    exact (hf a s' hrun).stalls

/-- A call that does not act is idle, if its step keeps the view. -/
theorem idles_step (hv : Session.HidesAsking view) {m : Method} {c : Call} (hc : c.acts = false)
    {f : SessionStep α} (hf : ∀ s : Session, view (f s).2 = view s) (s : Session) :
    Idles view (step (Session.call m c f)) s := by
  refine ⟨keeps_step (fun s => hv.note s c hc) hf s, ?_⟩
  obtain ⟨answer, s', hcall, -⟩ := step_call m c f s
  rw [hcall]
  nofun

/-- Asking for a cooldown is idle. -/
theorem idles_cooldownStatus (hv : Session.HidesAsking view) (name : String) (s : Session) :
    Idles view (cooldownStatus name) s :=
  idles_step hv rfl (fun _ => rfl) s

/-- Reading a record is idle. -/
theorem idles_fetch (hv : Session.HidesAsking view) (id : DraftId) (s : Session) :
    Idles view (fetch id) s :=
  idles_step hv rfl (fun s => hv.drafts s _ (Drafts.contents_fetch id s.drafts)) s

/-- Whatever comes of beginning the record of a draft, it changes the drafts alone. -/
theorem keeps_persist (d : Draft) (s : Session) : Keeps Session.kept (persist d) s :=
  keeps_step (fun s => hidesAsking_kept.note s _ rfl) (fun _ => rfl) s

/-- Where the record of a draft fails to be begun, what the store holds is left. -/
theorem contents_of_persist (hclean : FailsCleanly s.faults) {d : Draft} {e : Error} {s' : Session}
    (h : persist d s = (.ok (.error e), s')) : s'.drafts.contents = s.drafts.contents := by
  obtain ⟨-, hstores⟩ := stores_of_persist h
  -- The store refuses the record, or the call fails instead of being made.
  generalize hanswer : (Except.error e : Except Error Unit) = answer at hstores
  generalize s'.drafts = store at hstores ⊢
  cases hstores with
  | made => exact Drafts.contents_persist hanswer.symm
  | failed => rfl
  | lost hfault hafter =>
    rw [hclean _ _ hfault] at hafter
    cases hafter

end Run

namespace Attempt

open Run

/-- A context is always given, whatever comes of reading the transcript. -/
theorem generationContext_ok (s : Session) :
    ∃ context s', generationContext s = (.ok context, s') := by
  obtain ⟨answer, s', hcall, -⟩ := step_call .recent (.recent s.settings.recentLimit)
    (fun s' => (s'.transcript.recent s.settings.recentLimit, s')) s
  have hrecent : recent s.settings.recentLimit s = (.ok answer, s') := hcall
  unfold generationContext
  rw [bind_ok (get_eq s), bind_ok hrecent]
  cases answer <;> exact ⟨_, _, rfl⟩

/-- Memories are always given, whatever comes of reading them. -/
theorem generationMemories_ok (topic : String) (s : Session) :
    ∃ memories s', generationMemories topic s = (.ok memories, s') := by
  obtain ⟨answer, s', hcall, -⟩ := step_call .relevant (.relevant topic)
    (fun s' => (.ok (s'.knowledge.relevant topic), s')) s
  have hrelevant : relevant topic s = (.ok answer, s') := hcall
  unfold generationMemories
  rw [bind_ok hrelevant]
  cases answer <;> exact ⟨_, _, rfl⟩

/-- Content about a topic comes from the generator, whatever is read before. -/
theorem content_about (topic : String) (s : Session) :
    ∃ context memories s', (Input.about topic).content s = generate topic context memories s' ∧
      s'.generator = s.generator := by
  obtain ⟨context, s₁, hcontext⟩ := generationContext_ok s
  obtain ⟨memories, s₂, hmemories⟩ := generationMemories_ok topic s₁
  have hgenerator₁ : s₁.generator = s.generator :=
    (keeps_generationContext (fun _ _ _ => rfl) s).outcome hcontext
  have hgenerator₂ : s₂.generator = s₁.generator :=
    (keeps_generationMemories (fun _ _ _ => rfl) topic s₁).outcome hmemories
  refine ⟨context, memories, s₂, ?_, hgenerator₂.trans hgenerator₁⟩
  unfold Input.content
  simp only [bind_ok hcontext, bind_ok hmemories]

/-- Having content written is idle. -/
theorem idles_content (hv : Session.HidesAsking view) (topic : String) (s : Session) :
    Idles view (Input.about topic).content s := by
  refine ⟨keeps_content hv.note hv.generator hv.elapsed _ s, ?_⟩
  obtain ⟨context, memories, s', hcontent, -⟩ := content_about topic s
  rw [hcontent]
  intro hstalled
  exact unanswered_of_generate (Prod.ext hstalled rfl)

/-- No content is written by a generator that is disabled. -/
theorem content_of_disabled {reason topic : String} {s s' : Session} {segments : List Segment}
    (h : s.generator = .disabled reason) :
    (Input.about topic).content s ≠ (.ok (.ok segments), s') := by
  obtain ⟨context, memories, s₁, hcontent, hgenerator⟩ := content_about topic s
  rw [hcontent, generate_eq, hgenerator, h]
  nofun

/-- A draft whose record is not begun is not published. -/
theorem publishAbout_unsaved {topic : Option String} {segments : List Segment} {s s' : Session}
    {e : Error} (h : rejection? s.settings.thread.maxSegmentChars segments = none)
    (hpersist : persist (draftOf topic segments s) { s with idsTaken := s.idsTaken + 1 }
      = (.ok (.error e), s')) :
    publishAbout topic segments s
      = (.ok (.rejected ("Failed to save draft: " ++ e.message) segments), s') := by
  have hid : freshId s = (.ok (s.ids s.idsTaken), { s with idsTaken := s.idsTaken + 1 }) := rfl
  have hnow : now { s with idsTaken := s.idsTaken + 1 }
      = (.ok s.now, { s with idsTaken := s.idsTaken + 1 }) := rfl
  unfold publishAbout
  rw [bind_ok (get_eq s), h]
  simp only [bind_ok hid, bind_ok hnow]
  exact bind_ok hpersist

/-- The record of a draft cannot be begun, and a view of the session is kept. -/
def Withheld (view : Session → γ) (d : Draft) (s : Session) : Prop :=
  ∃ e s', Run.persist d s = (.ok (.error e), s') ∧ view s' = view s

section fails

variable {topic : String} {s : Session}

/-- An attempt about a topic is idle, and does not succeed. -/
structure Fails (view : Session → γ) (topic : String) (s : Session) : Prop where
  idles : Idles view (generateAndPublish topic) s
  fails : ∀ p s', generateAndPublish topic s = (.ok p, s') → p.success = false

/-- An attempt that is rejected does not succeed. -/
theorem Fails.of_rejected {reason : String} {segments : List Segment} {s' : Session}
    (hpublish : generateAndPublish topic s = (.ok (.rejected reason segments), s'))
    (hkept : view s' = view s) : Fails view topic s := by
  refine ⟨.of_eq hpublish hkept nofun, ?_⟩
  intro p s' hp
  cases hpublish.symm.trans hp
  rfl

/-- **An attempt whose record cannot be begun**, if it comes to one at all, fails. -/
theorem publish_withheld (hv : Session.HidesAsking view)
    (h : ∀ segments s₁, (Input.about topic).content s = (.ok (.ok segments), s₁) → segments ≠ [] →
      (∀ x ∈ segments, x.charCount ≤ s₁.settings.thread.maxSegmentChars) →
      Withheld view (draftOf (some topic) segments s₁) { s₁ with idsTaken := s₁.idsTaken + 1 }) :
    Fails view topic s := by
  have hcontent := idles_content hv topic s
  have hcomes := (Input.about topic).publish_comes s
  generalize hpublish : (Input.about topic).publish s = result at hcomes
  -- There is no answer, no content, no thread within the limit, or no record: in this order.
  cases hcomes with
  | halted hrun =>
    obtain ⟨hkept, hstalls⟩ := hcontent.outcome hrun
    refine ⟨.of_eq hpublish hkept fun h => hstalls (by rw [Except.error.inj h]), ?_⟩
    intro p s' hp
    cases hp.symm.trans hpublish
  | unwritten hrun | refused hrun => exact .of_rejected hpublish (hcontent.kept.outcome hrun)
  | @made segments s₁ hrun haccepted =>
    obtain ⟨hne, hfits⟩ := rejection?_eq_none_iff.1 haccepted
    obtain ⟨e, s₂, hpersist, hleft⟩ := h segments s₁ hrun hne hfits
    exact .of_rejected (hpublish.trans (publishAbout_unsaved haccepted hpersist))
      ((hleft.trans (hv.idsTaken s₁ _)).trans (hcontent.kept.outcome hrun))

end fails

end Attempt

end PostingTerminal
