import PostingTerminal.Proofs.Session.Calls

/-!
# What runs leave alone

A view shows a part of a session, and what a run leaves alone is what views of it show.

* `Run.Keeps` — a run leaves what a view shows as it was.  Runs that do so can be put one after
  the other (`Run.Keeps.bind`).
* `Run.keeps_step`, `Run.keeps_generate` — a call of a store keeps a view that does not show it in
  the journal, if its step does, and asking for content one that shows neither the generator nor the
  waiting clock.
* `Call.acts` — which calls a view has to show that is to show what is done.
* `Run.NotesOnly` — a run notes calls of a kind only, and sets neither the settings nor the clock
  nor which calls fail.  Such runs can be put one after the other, too (`Run.NotesOnly.bind`).
-/

namespace PostingTerminal

/-- Whether a call is there to change something.  The call that begins the record of a draft does
not count as such: it is the last one that may be refused before anything is done. -/
def Call.acts : Call → Bool
  | .update _ _ | .record _ _ | .finalize _ | .remember _ _ | .append _ | .cooldownMark _
  | .post _ _ _ => true
  | .persist _ | .fetch _ | .relevant _ | .recent _ | .cooldownStatus _ | .generate _ _ _ => false

/-- Whether a call starts the cooldown of a class. -/
def Call.isMark : Call → Bool
  | .cooldownMark _ => true
  | _ => false

/-- A call that does not act starts no cooldown. -/
theorem Call.isMark_of_not_acts {c : Call} (h : c.acts = false) : c.isMark = false := by
  cases c <;> first | rfl | cases h

variable {γ : Type} {view : Session → γ}

namespace Run

variable {α β : Type} {x : Run α} {f : α → Run β} {s : Session}

/-- **A run leaves what a view shows** of a session. -/
def Keeps (view : Session → γ) (x : Run α) (s : Session) : Prop := view (x s).2 = view s

/-- What a run that keeps a view has left. -/
theorem Keeps.outcome {outcome : Except Halt α} {s' : Session} (h : Keeps view x s)
    (hrun : x s = (outcome, s')) : view s' = view s := by
  rw [Keeps, hrun] at h
  exact h

/-- A value is given without a change. -/
theorem keeps_pure (a : α) (s : Session) : Keeps view (pure a) s := rfl

/-- A session is read without a change. -/
theorem keeps_get (s : Session) : Keeps view get s := rfl

/-- **Runs that keep a view can be put one after the other.** -/
theorem Keeps.bind (hx : Keeps view x s)
    (hf : ∀ a s', x s = (.ok a, s') → Keeps view (f a) s') : Keeps view (x >>= f) s := by
  rcases hrun : x s with ⟨halt | a, s'⟩
  · rw [Keeps, bind_error hrun]
    exact hx.outcome hrun
  · rw [Keeps, bind_ok hrun]
    exact (hf a s' hrun).trans (hx.outcome hrun)

/-- A call of a store keeps a view that does not show it in the journal, if its step does. -/
theorem keeps_step {c : Call} (hnote : ∀ s : Session, view (s.note c) = view s) {m : Method}
    {f : SessionStep α} (hf : ∀ s, view (f s).2 = view s) (s : Session) :
    Keeps view (step (Session.call m c f)) s := by
  obtain ⟨answer, s', hcall, hmakes⟩ := step_call m c f s
  rw [Keeps, hcall]
  cases hmakes with
  | made | lost => exact (hf _).trans (hnote s)
  | failed => exact hnote s

/-- Asking for content keeps a view that shows neither that in the journal nor the generator nor
the waiting clock. -/
theorem keeps_generate {topic context memories : String}
    (hnote : ∀ s : Session, view (s.note (.generate topic context memories)) = view s)
    (hgenerator : ∀ (s : Session) (g : Generator), view { s with generator := g } = view s)
    (helapsed : ∀ (s : Session) (time : Nat), view { s with elapsed := time } = view s)
    (s : Session) : Keeps view (generate topic context memories) s := by
  obtain ⟨outcome, generator, time, hrun⟩ := generate_session topic context memories s
  rw [Keeps, hrun]
  calc
    _ = view { s.note (.generate topic context memories) with generator := generator } :=
      helapsed _ time
    _ = view (s.note (.generate topic context memories)) := hgenerator _ generator
    _ = view s := hnote s

/-! ## Calls that are noted -/

variable {P : Call → Prop}

/-- **A run notes calls of a kind only.** -/
def NotesOnly (P : Call → Prop) (x : Run α) (s : Session) : Prop :=
  ∃ calls, s.Notes (x s).2 calls ∧ ∀ c ∈ calls, P c

/-- A run that notes no call. -/
theorem NotesOnly.of_refl (h : (x s).2 = s) : NotesOnly P x s := by
  refine ⟨[], ?_, nofun⟩
  rw [h]
  exact .refl s

/-- A value is given without a call. -/
theorem notesOnly_pure (a : α) (s : Session) : NotesOnly P (pure a) s := .of_refl rfl

/-- A session is read without a call. -/
theorem notesOnly_get (s : Session) : NotesOnly P get s := .of_refl rfl

/-- A run that has noted calls may be followed by one that notes more. -/
theorem NotesOnly.after {a : α} {s' : Session} {calls : List Call} (h : x s = (.ok a, s'))
    (hnotes : s.Notes s' calls) (hf : NotesOnly P (f a) s') :
    ∃ calls', s.Notes ((x >>= f) s).2 (calls ++ calls') ∧ ∀ c ∈ calls', P c := by
  obtain ⟨calls', hnotes', hcalls'⟩ := hf
  rw [bind_ok h]
  exact ⟨calls', hnotes.trans hnotes', hcalls'⟩

/-- **Runs that note calls of a kind only can be put one after the other.** -/
theorem NotesOnly.bind (hx : NotesOnly P x s)
    (hf : ∀ a s', x s = (.ok a, s') → NotesOnly P (f a) s') : NotesOnly P (x >>= f) s := by
  obtain ⟨calls, hnotes, hcalls⟩ := hx
  rcases hrun : x s with ⟨halt | a, s'⟩
  all_goals rw [hrun] at hnotes
  · refine ⟨calls, ?_, hcalls⟩
    rw [bind_error hrun]
    exact hnotes
  · obtain ⟨calls', hnotes', hcalls'⟩ := after hrun hnotes (hf a s' hrun)
    exact ⟨calls ++ calls', hnotes', List.forall_mem_append.2 ⟨hcalls, hcalls'⟩⟩

/-- A call of a store is noted, if its step notes nothing. -/
theorem notesOnly_step {m : Method} {c : Call} (hc : P c) {f : SessionStep α}
    (hf : ∀ s : Session, s.Notes (f s).2 []) (s : Session) :
    NotesOnly P (step (Session.call m c f)) s := by
  obtain ⟨answer, s', hcall, hmakes⟩ := step_call m c f s
  have hnoted : s.Notes (s.note c) [c] := ⟨rfl, rfl, rfl, rfl⟩
  refine ⟨[c], ?_, List.forall_mem_singleton.2 hc⟩
  rw [hcall]
  cases hmakes with
  | made | lost => exact hnoted.trans (hf _)
  | failed => exact hnoted

/-- Asking for content is noted. -/
theorem notesOnly_generate {topic context memories : String}
    (hc : P (.generate topic context memories)) (s : Session) :
    NotesOnly P (generate topic context memories) s := by
  obtain ⟨outcome, generator, time, hrun⟩ := generate_session topic context memories s
  refine ⟨[.generate topic context memories], ?_, List.forall_mem_singleton.2 hc⟩
  rw [hrun]
  exact ⟨rfl, rfl, rfl, rfl⟩

end Run

end PostingTerminal
