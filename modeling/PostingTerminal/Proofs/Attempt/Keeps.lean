import PostingTerminal.Proofs.Attempt.Course
import PostingTerminal.Proofs.Session.Keeps

/-!
# What an attempt leaves alone

* `Attempt.keeps_content` — having content written changes the generator and the waiting clock
  alone, and makes no call that acts.
* `Attempt.HidesStores`, `Attempt.HidesCalls`, `Attempt.Hides` — a view does not show what an
  attempt works on: the journal, the drafts and the memories; nor the platform and the waiting
  clock; nor what goes before its calls, the generator and the supply of ids.
* `Attempt.keeps_publish` — **an attempt changes nothing but what it works on**, step by step
  (`Step.keeps`) and so as a whole.
* `Attempt.notesOnly_publish` — **an attempt starts no cooldown**.
-/

namespace PostingTerminal

variable {γ : Type} {view : Session → γ}

namespace Attempt

open Run

section content

variable (hnote : ∀ (s : Session) (c : Call), c.acts = false → view (s.note c) = view s)
include hnote

/-- Reading the transcript for content makes a call that does not act. -/
theorem keeps_generationContext (s : Session) : Keeps view generationContext s := by
  unfold generationContext
  refine (keeps_get s).bind fun _ s _ => ?_
  refine (keeps_step (fun s => hnote s _ rfl) (fun _ => rfl) s).bind fun result s _ => ?_
  cases result <;> exact keeps_pure _ s

/-- Recalling memories for content makes a call that does not act. -/
theorem keeps_generationMemories (topic : String) (s : Session) :
    Keeps view (generationMemories topic) s := by
  unfold generationMemories
  refine (keeps_step (fun s => hnote s _ rfl) (fun _ => rfl) s).bind fun result s _ => ?_
  cases result <;> exact keeps_pure _ s

/-- **Having content written** changes the generator and the waiting clock alone, and makes no call
that acts. -/
theorem keeps_content
    (hgenerator : ∀ (s : Session) (g : Generator), view { s with generator := g } = view s)
    (helapsed : ∀ (s : Session) (time : Nat), view { s with elapsed := time } = view s)
    (input : Input) (s : Session) : Keeps view input.content s := by
  cases input with
  | given segments => exact keeps_pure _ s
  | about topic =>
    refine (keeps_generationContext hnote s).bind fun context s _ => ?_
    refine (keeps_generationMemories hnote topic s).bind fun memories s _ => ?_
    exact keeps_generate (fun s => hnote s _ rfl) hgenerator helapsed s

end content

/-- A view does not show what calls of the stores work on. -/
structure HidesStores (view : Session → γ) : Prop where
  note (s : Session) (c : Call) : view (s.note c) = view s
  drafts (s : Session) (drafts : Store.Drafts) : view { s with drafts := drafts } = view s
  knowledge (s : Session) (k : Store.Knowledge) : view { s with knowledge := k } = view s

/-- A view does not show what the calls of an attempt work on. -/
structure HidesCalls (view : Session → γ) : Prop extends HidesStores view where
  platform (s : Session) (p : Platform) : view { s with platform := p } = view s
  elapsed (s : Session) (time : Nat) : view { s with elapsed := time } = view s

/-- A view does not show what an attempt works on. -/
structure Hides (view : Session → γ) : Prop extends HidesCalls view where
  generator (s : Session) (g : Generator) : view { s with generator := g } = view s
  idsTaken (s : Session) (n : Nat) : view { s with idsTaken := n } = view s

/-- The platform is not one of the stores. -/
theorem hidesStores_platform : HidesStores Session.platform where
  note _ _ := rfl
  drafts _ _ := rfl
  knowledge _ _ := rfl

/-- A step that does not post keeps what does not show the stores. -/
theorem Step.keeps_stores (hv : HidesStores view) {m m' : Moment} {e : Event} (h : Step m e m')
    (hpost : e.post? = none) : view m'.session = view m.session := by
  have hdrafts {m : Method} {c : Call} (op : Timestamp → Store.Step Unit) (s : Session) :
      Keeps view (onDrafts m c op) s := keeps_step (fun s => hv.note s c) (fun s => hv.drafts s _) s
  cases h with
  | post => cases hpost
  | persist h => exact (hdrafts (fun _ => Store.Drafts.persist _) _).outcome h
  | update h => exact (hdrafts (Store.Drafts.updateStatus _ _) _).outcome h
  | record h => exact (hdrafts (Store.Drafts.recordId _ _) _).outcome h
  | finalize h => exact (hdrafts (Store.Drafts.finalize _) _).outcome h
  | remember h => exact (keeps_step (fun s => hv.note s _) (fun s => hv.knowledge s _) _).outcome h

/-- A step of an attempt keeps what does not show its work. -/
theorem Step.keeps (hv : HidesCalls view) {m m' : Moment} {e : Event} (h : Step m e m') :
    view m'.session = view m.session := by
  cases e with
  | posted p =>
    obtain ⟨paused, hask⟩ := h.asked
    obtain ⟨platform, time, hsession⟩ :=
      ask_session p.parent p.request { m.session with elapsed := paused }
    rw [hask] at hsession
    rw [show m'.session = _ from hsession]
    calc
      _ = view { ({ m.session with elapsed := paused }).note _ with platform := platform } :=
        hv.elapsed _ time
      _ = view (({ m.session with elapsed := paused }).note _) := hv.platform _ platform
      _ = view { m.session with elapsed := paused } := hv.note _ _
      _ = view m.session := hv.elapsed m.session paused
  | _ => exact h.keeps_stores hv.toHidesStores rfl

/-- The steps of an attempt keep what does not show its work. -/
theorem Reaches.keeps (hv : HidesCalls view) {start m : Moment} {events : List Event}
    (h : Reaches start events m) : view m.session = view start.session := by
  induction h with
  | here => rfl
  | step _ step ih => exact (step.keeps hv).trans ih

/-- Publishing segments keeps what does not show an attempt's work. -/
theorem keeps_publishAbout (hv : Hides view) (topic : Option String) (segments : List Segment)
    (s : Session) : Keeps view (publishAbout topic segments) s := by
  cases hrejection : rejection? s.settings.thread.maxSegmentChars segments with
  | some reason =>
    rw [Keeps, publishAbout_rejected hrejection]
  | none =>
    obtain ⟨events, hpath⟩ := publishAbout_reaches topic hrejection
    exact (hpath.keeps hv.toHidesCalls).trans (hv.idsTaken s _)

/-- **An attempt changes nothing but what it works on.** -/
theorem keeps_publish (hv : Hides view) (input : Input) (s : Session) :
    Keeps view input.publish s := by
  have hkept := keeps_content (fun s c _ => hv.note s c) hv.generator hv.elapsed input s
  have hcomes := input.publish_comes s
  unfold Keeps
  generalize input.publish s = result at hcomes ⊢
  cases hcomes with
  | halted hcontent | unwritten hcontent | refused hcontent => exact hkept.outcome hcontent
  | made hcontent =>
    exact (keeps_publishAbout hv input.topic? _ _).trans (hkept.outcome hcontent)

/-! ## Calls that are noted -/

variable {P : Call → Prop}

/-- Having content written makes no call that acts. -/
theorem notesOnly_content (hP : ∀ c : Call, c.acts = false → P c) (input : Input) (s : Session) :
    NotesOnly P input.content s := by
  cases input with
  | given segments => exact notesOnly_pure _ s
  | about topic =>
    unfold Input.content generationContext generationMemories
    refine NotesOnly.bind ?_ fun context s _ => NotesOnly.bind ?_ fun memories s _ => ?_
    · refine (notesOnly_get s).bind fun _ s _ => ?_
      refine (notesOnly_step (hP _ rfl) .refl s).bind fun result s _ => ?_
      cases result <;> exact notesOnly_pure _ s
    · refine (notesOnly_step (hP _ rfl) .refl s).bind fun result s _ => ?_
      cases result <;> exact notesOnly_pure _ s
    · exact notesOnly_generate (hP _ rfl) s

/-- The calls of an attempt's events start no cooldown. -/
theorem Event.isMark_call (e : Event) : e.call.isMark = false := by
  cases e <;> rfl

/-- **An attempt starts no cooldown**: none of the calls that it notes does. -/
theorem notesOnly_publish (hP : ∀ c : Call, c.isMark = false → P c) (input : Input) (s : Session) :
    NotesOnly P input.publish s := by
  obtain ⟨calls, hnotes, hcalls⟩ :=
    notesOnly_content (fun c hc => hP c (Call.isMark_of_not_acts hc)) input s
  have hcomes := input.publish_comes s
  unfold NotesOnly
  generalize input.publish s = result at hcomes ⊢
  cases hcomes with
  | halted hcontent | unwritten hcontent | refused hcontent =>
    rw [hcontent] at hnotes
    exact ⟨calls, hnotes, hcalls⟩
  | made hcontent haccepted =>
    rw [hcontent] at hnotes
    obtain ⟨events, hpath⟩ := publishAbout_reaches input.topic? haccepted
    refine ⟨_, hnotes.trans hpath.notes_first, List.forall_mem_append.2 ⟨hcalls, ?_⟩⟩
    intro c hc
    obtain ⟨e, -, rfl⟩ := List.mem_map.1 hc
    exact hP _ e.isMark_call

end Attempt

end PostingTerminal
