import PostingTerminal.Proofs.Store.Mirror

/-!
# What a request does to the files of a directory

A request about an id reads the file of that id and makes a draft of what it finds, or none.  The
draft that it makes is written to a temporary file, which then takes the place of the one that may
be there.  Any of these accesses may fail.

* `Request.Makes` — what a request makes of the draft that it reads.
* `rewrites_answer` — **all that a request does to a directory**, whatever its files hold and
  whichever accesses fail: it changes no file, or it writes the draft that it makes.
* `refused_frame` — a request that is refused changes no file but a temporary one.
* `whole_after` — **a draft is never found half written**: over any run, and with failures at any
  point of it, the file of an id is the one from the beginning or the whole text of a draft with
  that id.
-/

namespace PostingTerminal

/-- No status may move to itself. -/
theorem DraftStatus.ne_of_canMoveTo {status next : DraftStatus}
    (h : status.canMoveTo next = true) : status ≠ next := by
  rintro rfl
  cases status <;> cases h

namespace Store

/-! ## What a request makes -/

namespace Request

variable {now : Timestamp} {r : Request} {previous : Option Draft} {d d' old new : Draft}

/-- What a request makes of the draft that it reads: the draft to begin where there is none, or
what the change leaves of the one that is there. -/
inductive Makes (now : Timestamp) : Request → Option Draft → Draft → Prop
  | begun (d : Draft) : Makes now (.persist d) none d
  | changed {r : Request} {change : Change} {old new : Draft} (asks : r.change? = some change)
      (allowed : change old now = .ok new) : Makes now r (some old) new

/-- A request makes one draft only. -/
theorem Makes.deterministic (h : r.Makes now previous d) (h' : r.Makes now previous d') :
    d = d' := by
  cases h with
  | begun d => cases h'; rfl
  | changed asks allowed =>
    obtain _ | ⟨asks', allowed'⟩ := h'
    obtain rfl := Option.some.inj (asks.symm.trans asks')
    exact Except.ok.inj (allowed.symm.trans allowed')

/-- A draft that a request begins carries the id that the request is about. -/
theorem Makes.id_of_none (h : r.Makes now none d) : d.id = r.target := by
  cases h
  rfl

/-- A draft that a request changes keeps its id. -/
theorem Makes.id_of_some (h : r.Makes now (some old) new) : new.id = old.id := by
  obtain _ | ⟨asks, allowed⟩ := h
  exact ((faithful_of_change? asks).sameThread allowed).id

/-- A draft that a request changes is another one then. -/
theorem Makes.ne (h : r.Makes now (some old) new) : new ≠ old := by
  obtain _ | ⟨asks, allowed⟩ := h
  rintro rfl
  have hstatus {next : DraftStatus} (hcan : new.status.canMoveTo next = true) (d : Draft)
      (hnew : new = d) (hd : d.status = next) : False :=
    DraftStatus.ne_of_canMoveTo hcan ((congrArg Draft.status hnew).trans hd)
  cases r with
  | persist d => cases asks
  | fetch id => cases asks
  | update id status =>
    cases asks
    obtain ⟨hcan, hnew⟩ := Draft.moveTo_eq_ok_iff.1 allowed
    exact hstatus hcan _ hnew rfl
  | finalize d =>
    cases asks
    obtain ⟨-, hcan, hnew⟩ := Draft.finishAs_eq_ok_iff.1 allowed
    exact hstatus hcan _ hnew rfl
  | record id message =>
    cases asks
    obtain ⟨-, -, hnew⟩ := Draft.appendId_eq_ok_iff.1 allowed
    have hlength := congrArg (fun d => d.messageIds.length) hnew
    simp at hlength

/-- The times of a draft that a request makes have 64 bits, if those of the drafts that it is
given have. -/
theorem Makes.fitsWord (h : r.Makes now previous d) (hfits : (Event.request r now).Fits)
    (hprevious : ∀ old, previous = some old → old.FitsWord) : d.FitsWord := by
  cases h with
  | begun d => exact hfits.1 d rfl
  | changed asks allowed =>
    have hfaithful := faithful_of_change? asks
    refine (hfaithful.sameThread allowed).fitsWord (hprevious _ rfl) ?_
    rw [hfaithful.stamped allowed]
    exact hfits.2

end Request

/-! ## What a request does to a directory -/

namespace Drafts

variable {failures : Failures} {dir : Directory} {now : Timestamp} {r : Request}

/-- A request turns what it reads in a directory into a draft. -/
structure Turns (failures : Failures) (dir : Directory) (now : Timestamp) (r : Request)
    (previous : Option Draft) (new : Draft) : Prop where
  found : (FileDrafts.fetch failures r.target dir).1 = .ok previous
  makes : r.Makes now previous new

/-- A request turns what it reads into one draft only. -/
theorem Turns.deterministic {previous previous' : Option Draft} {new new' : Draft}
    (h : Turns failures dir now r previous new) (h' : Turns failures dir now r previous' new') :
    previous = previous' ∧ new = new' := by
  obtain rfl := Except.ok.inj (h.found.symm.trans h'.found)
  exact ⟨rfl, h.makes.deterministic h'.makes⟩

/-- The draft that a request makes can be written again. -/
theorem Turns.fitsWord {previous : Option Draft} {new : Draft}
    (h : Turns failures dir now r previous new) (hfits : (Event.request r now).Fits) :
    new.FitsWord := by
  refine h.makes.fitsWord hfits fun old hold => ?_
  rw [hold] at h
  exact FileDrafts.fitsWord_of_fetch h.found

end Drafts

namespace FileDrafts

open Drafts (Turns)

variable {failures : Failures} {dir dir' : Directory} {now : Timestamp} {r : Request}

/-- What a request does to a directory: it makes no draft, is not granted and changes no file, or
it writes the draft that it makes. -/
def Rewrites (failures : Failures) (dir : Directory) (now : Timestamp) (r : Request)
    (outcome : Reply × Directory) : Prop :=
  (∃ reply dir', outcome = (reply, dir') ∧ reply ≠ .done ∧ dir'.files = dir.files ∧
      ∀ previous new, ¬ Turns failures dir now r previous new) ∨
    ∃ previous new dir', Turns failures dir now r previous new ∧ dir'.files = dir.files ∧
      outcome = (save failures new dir').map Reply.ofWrite id

/-- A request that is refused before it makes a draft rewrites. -/
theorem Rewrites.of_refused {cause : Error} (hfiles : dir'.files = dir.files)
    (hmakes : ∀ previous new, (fetch failures r.target dir).1 = .ok previous →
      ¬ r.Makes now previous new) :
    Rewrites failures dir now r (.ofWrite (.error cause), dir') := by
  refine .inl ⟨_, dir', rfl, ?_, hfiles, fun previous new h => hmakes previous new h.found h.makes⟩
  rintro ⟨⟩

/-- A request for a change rewrites. -/
theorem rewrites_of_change {change : Change} (hasks : r.change? = some change)
    (dir : Directory) : Rewrites failures dir now r (answer failures dir now r) := by
  have hfiles := files_fetch failures r.target dir
  rw [answer_of_change? hasks, modify]
  rcases hfetch : fetch failures r.target dir with ⟨e | _ | old, dir'⟩ <;> rw [hfetch] at hfiles
  · refine .of_refused hfiles fun previous new hfound hmakes => ?_
    rw [hfetch] at hfound
    cases hfound
  · refine .of_refused hfiles fun previous new hfound hmakes => ?_
    rw [hfetch] at hfound
    cases hfound
    cases hmakes
    cases hasks
  · cases hchange : change old now with
    | error e =>
      simp only [hchange]
      refine .of_refused hfiles fun previous new hfound hmakes => ?_
      rw [hfetch] at hfound
      cases hfound
      obtain _ | ⟨asks, allowed⟩ := hmakes
      obtain rfl := Option.some.inj (hasks.symm.trans asks)
      rw [hchange] at allowed
      cases allowed
    | ok new =>
      refine .inr ⟨some old, new, dir', ⟨congrArg Prod.fst hfetch, .changed hasks hchange⟩,
        hfiles, ?_⟩
      simp only [hchange, (Request.faithful_of_change? hasks).restamp hchange]

/-- **Every request rewrites**, whatever the files of the directory hold and whichever accesses
fail. -/
theorem rewrites_answer (failures : Failures) (dir : Directory) (now : Timestamp) (r : Request) :
    Rewrites failures dir now r (answer failures dir now r) := by
  cases r with
  | persist d =>
    have hfiles := files_fetch failures d.id dir
    rw [answer, persist]
    rcases hfetch : fetch failures d.id dir with ⟨e | _ | old, dir'⟩ <;> rw [hfetch] at hfiles
    · refine .of_refused hfiles fun previous new hfound hmakes => ?_
      rw [Request.target, hfetch] at hfound
      cases hfound
    · exact .inr ⟨none, d, dir', ⟨congrArg Prod.fst hfetch, .begun d⟩, hfiles, rfl⟩
    · refine .of_refused hfiles fun previous new hfound hmakes => ?_
      rw [Request.target, hfetch] at hfound
      cases hfound
      obtain _ | ⟨asks, -⟩ := hmakes
      cases asks
  | update id status => exact rewrites_of_change rfl dir
  | record id message => exact rewrites_of_change rfl dir
  | finalize d => exact rewrites_of_change rfl dir
  | fetch id =>
    refine .inl ⟨_, _, rfl, ?_, files_fetch failures id dir, ?_⟩
    · show Reply.ofRead (fetch failures id dir).1 ≠ .done
      rcases (fetch failures id dir).1 with e | record <;> rintro ⟨⟩
    · rintro previous new ⟨-, _ | ⟨asks, -⟩⟩
      cases asks

/-! ## While accesses fail -/

/-- **A request that is refused changes no file but a temporary one**, whichever accesses fail. -/
theorem refused_frame {cause : Error} (h : (answer failures dir now r).1 = .refused cause)
    {name : String} (hname : ∀ id, name ≠ temporaryName id) :
    (answer failures dir now r).2.file? name = dir.file? name := by
  obtain ⟨_, dir', hanswer, -, hfiles, -⟩ | ⟨_, new, dir', -, hfiles, hanswer⟩ :=
    rewrites_answer failures dir now r
  · rw [hanswer]
    exact Directory.file?_congr hfiles name
  · rw [hanswer] at h ⊢
    have hsaved := saved_save failures new dir'
    rcases hsave : save failures new dir' with ⟨answer, dir''⟩
    rw [hsave] at h hsaved
    cases hsaved with
    | written admitted written => cases h
    | broken e frame => exact (frame name (hname new.id)).trans (Directory.file?_congr hfiles name)

/-- The file of an id is as it was, or the whole text of a draft with that id. -/
def Whole (dir dir' : Directory) (id : DraftId) : Prop :=
  dir'.file? (fileName id) = dir.file? (fileName id) ∨
    ∃ d : Draft, d.id = id ∧ dir'.file? (fileName id) = some (.text d.toJson.prettyText)

/-- A request leaves the file of every id whole. -/
theorem whole_answer (failures : Failures) (dir : Directory) (now : Timestamp) (r : Request)
    (id : DraftId) : Whole dir (answer failures dir now r).2 id := by
  obtain ⟨_, dir', hanswer, -, hfiles, -⟩ | ⟨_, new, dir', -, hfiles, hanswer⟩ :=
    rewrites_answer failures dir now r
  · rw [hanswer]
    exact .inl (Directory.file?_congr hfiles _)
  · have hsaved := saved_save failures new dir'
    rw [hanswer]
    rcases hsave : save failures new dir' with ⟨answer, dir''⟩
    rw [hsave] at hsaved
    cases hsaved with
    | written admitted written =>
      by_cases hid : id = new.id
      · exact .inr ⟨new, hid.symm, (written.file?_fileName id).trans (if_pos hid)⟩
      · exact .inl ((written.file?_fileName id).trans
          ((if_neg hid).trans (Directory.file?_congr hfiles _)))
    | broken e frame =>
      exact .inl ((frame _ (fileName_ne_temporaryName id new.id)).trans
        (Directory.file?_congr hfiles _))

/-- **A draft is never found half written.**  Over any run, with failures at any point of it, the
file of every id is the one from the beginning or the whole text of a draft with that id. -/
theorem whole_after (dir : Directory) (tries : List Try) (id : DraftId) :
    Whole dir (after dir tries) id := by
  induction tries generalizing dir with
  | nil => exact .inl rfl
  | cons t tries ih =>
    obtain hkept | hwritten := ih (answer t.failures dir t.now t.request).2
    · -- the later requests have left what the first one has
      obtain hfirst | ⟨d, hid, hfile⟩ := whole_answer t.failures dir t.now t.request id
      · exact .inl (hkept.trans hfirst)
      · exact .inr ⟨d, hid, hkept.trans hfile⟩
    · exact .inr hwritten

end FileDrafts

end Store

end PostingTerminal
