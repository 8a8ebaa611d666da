import PostingTerminal.Proofs.Store.Granted

/-!
# Requests about different drafts do not interfere

Two series of requests about different ids are made at one store, in any order that keeps the
order of each.  Each request is answered as if the other series were not there, and what the store
holds in the end does not depend on the order.

* `AgreeOn` — two stores hold the same at the places of some ids.  A request about one of them is
  answered alike by both (`AgreeOn.reply_eq`), and they agree afterwards (`AgreeOn.next`).
* `OwnIds.holding_next` — a request changes no place of another id, if each draft that a store
  gives back carries the id that it is found under.
* `InStepWith.after` — while two series are made at a store, it agrees with the stores that only one
  of them is made at.
* `order_immaterial` — **requests in any order** are answered as if each series had been made alone,
  and leave the same in the store.
-/

namespace PostingTerminal.Store

/-- The third list is made of the other two, each in its own order. -/
inductive Interleaves {α : Type} : List α → List α → List α → Prop
  | nil : Interleaves [] [] []
  | left {x : α} {xs ys zs : List α} (h : Interleaves xs ys zs) :
      Interleaves (x :: xs) ys (x :: zs)
  | right {y : α} {xs ys zs : List α} (h : Interleaves xs ys zs) :
      Interleaves xs (y :: ys) (y :: zs)

/-- One list behind the other is one way. -/
theorem interleaves_append {α : Type} (xs ys : List α) : Interleaves xs ys (xs ++ ys) := by
  induction xs with
  | cons x xs ih => exact .left ih
  | nil =>
    induction ys with
    | nil => exact .nil
    | cons y ys ih => exact .right ih

/-- Each member comes from one of the two lists. -/
theorem Interleaves.mem_or_mem {α : Type} {xs ys zs : List α} (h : Interleaves xs ys zs) {z : α}
    (hz : z ∈ zs) : z ∈ xs ∨ z ∈ ys := by
  induction h with
  | nil => exact .inl hz
  | left _ ih =>
    obtain rfl | hz := List.mem_cons.1 hz
    · exact .inl List.mem_cons_self
    · exact (ih hz).imp_left (List.mem_cons_of_mem _)
  | right _ ih =>
    obtain rfl | hz := List.mem_cons.1 hz
    · exact .inr List.mem_cons_self
    · exact (ih hz).imp_right (List.mem_cons_of_mem _)

/-- An event is about an id. -/
def Event.IsAbout : Event → DraftId → Prop
  | .request r _, id => r.target = id
  | .reopen, _ => False

namespace Drafts

/-- A store answers the events: each request with its reply. -/
def exchanges (store : Drafts) : List Event → List (Event × Reply)
  | [] => []
  | .request r now :: events =>
    (.request r now, (store.answer now r).1) :: exchanges (store.answer now r).2 events
  | .reopen :: events => exchanges store.reopen events

/-- Each file of an id that holds a draft holds one that carries this id.  In memory it is so by
itself. -/
def OwnIds : Drafts → Prop
  | .memory _ => True
  | .files dir => ∀ id text d, dir.file? (fileName id) = some (.text text) →
      Draft.ofText text = .ok d → d.id = id

/-- Two stores hold the same at the places of some ids. -/
def AgreeOn (ids : DraftId → Prop) (store store' : Drafts) : Prop :=
  ∀ p id, ids id → p.BelongsTo id → store.holding p = store'.holding p

variable {store store' : Drafts} {ids : DraftId → Prop} {now : Timestamp} {r : Request}
  {d new : Draft}

/-- Opening a store again leaves what it holds. -/
theorem holding_reopen (store : Drafts) (p : Place) : store.reopen.holding p = store.holding p := by
  cases store <;> cases p <;> rfl

/-! ## Stores that agree -/

/-- Stores that agree on an id are of one kind. -/
theorem AgreeOn.kind (h : store.AgreeOn ids store') {id : DraftId} (hid : ids id) :
    (∃ s s', store = .memory s ∧ store' = .memory s') ∨
      ∃ dir dir', store = .files dir ∧ store' = .files dir' := by
  have hrecord := h (.record id) id hid (.inl rfl)
  cases store with
  | memory s =>
    cases store' with
    | memory s' => exact .inl ⟨s, s', rfl, rfl⟩
    | files dir' => cases hrecord
  | files dir =>
    cases store' with
    | memory s' => cases hrecord
    | files dir' => exact .inr ⟨dir, dir', rfl, rfl⟩

/-- Under an id on which two stores agree they give the same back. -/
theorem AgreeOn.fetch_eq (h : store.AgreeOn ids store') {id : DraftId} (hid : ids id) :
    (fetch id store).1 = (fetch id store').1 := by
  obtain ⟨s, s', rfl, rfl⟩ | ⟨dir, dir', rfl, rfl⟩ := h.kind hid
  · exact congrArg Except.ok (Holding.record.inj (h (.record id) id hid (.inl rfl)))
  · have hfile := Holding.file.inj (h (.file (fileName id)) id hid (.inr (.inl rfl)))
    exact FileDrafts.fetch_congr hfile

/-- A record that one of the stores begins is begun by the other. -/
theorem AgreeOn.persist_eq (h : store.AgreeOn ids store') (hid : ids d.id) :
    (persist d store).1 = (persist d store').1 := by
  have hfetch := h.fetch_eq hid
  obtain ⟨s, s', rfl, rfl⟩ | ⟨dir, dir', rfl, rfl⟩ := h.kind hid
  · have hfound : s.fetch d.id = s'.fetch d.id := Except.ok.inj hfetch
    rw [persist_memory, persist_memory, MemoryDrafts.persist, MemoryDrafts.persist, hfound]
    split <;> rfl
  · exact FileDrafts.persist_congr hfetch

/-- A record that one of the stores changes is changed by the other. -/
theorem AgreeOn.modify_eq (h : store.AgreeOn ids store') {id : DraftId} (hid : ids id)
    (change : Change) (now : Timestamp) :
    (modify id change now store).1 = (modify id change now store').1 := by
  have hfetch := h.fetch_eq hid
  obtain ⟨s, s', rfl, rfl⟩ | ⟨dir, dir', rfl, rfl⟩ := h.kind hid
  · have hfound : s.fetch id = s'.fetch id := Except.ok.inj hfetch
    rw [modify_memory, modify_memory, MemoryDrafts.modify, MemoryDrafts.modify, hfound]
    cases s'.fetch id with
    | none => rfl
    | some old => simp only; cases change old now <;> rfl
  · exact FileDrafts.modify_congr hfetch

/-- **A request about an id on which two stores agree is answered alike by both.** -/
theorem AgreeOn.reply_eq (h : store.AgreeOn ids store') (hid : ids r.target) :
    (store.answer now r).1 = (store'.answer now r).1 := by
  cases r with
  | persist d => exact congrArg Reply.ofWrite (h.persist_eq hid)
  | update id status => exact congrArg Reply.ofWrite (h.modify_eq hid _ _)
  | record id message => exact congrArg Reply.ofWrite (h.modify_eq hid _ _)
  | finalize d => exact congrArg Reply.ofWrite (h.modify_eq hid _ _)
  | fetch id => exact congrArg Reply.ofRead (h.fetch_eq hid)

/-- A request is granted by both, and makes the same draft. -/
theorem AgreeOn.grants (h : store.AgreeOn ids store') (hid : ids r.target)
    (hgrants : store.Grants now r new) : store'.Grants now r new := by
  obtain ⟨⟨previous, hfound, hmakes⟩, haccepted⟩ := hgrants
  refine ⟨⟨previous, (h.fetch_eq hid).symm.trans hfound, hmakes⟩, ?_⟩
  obtain ⟨s, s', rfl, rfl⟩ | ⟨dir, dir', rfl, rfl⟩ := h.kind hid <;> exact haccepted

/-- A request is granted with one draft only. -/
theorem Grants.deterministic {new' : Draft} (h : store.Grants now r new)
    (h' : store.Grants now r new') : new = new' := by
  obtain ⟨⟨previous, hfound, hmakes⟩, -⟩ := h
  obtain ⟨⟨previous', hfound', hmakes'⟩, -⟩ := h'
  obtain rfl := Except.ok.inj (hfound.symm.trans hfound')
  exact hmakes.deterministic hmakes'

/-- Stores agree with each other. -/
theorem AgreeOn.symm (h : store.AgreeOn ids store') : store'.AgreeOn ids store :=
  fun p id hid hp => (h p id hid hp).symm

/-- Stores that agree hold the same where a draft has been put in both. -/
theorem AgreeOn.written_eq (h : store.AgreeOn ids store') {id : DraftId} (hid : ids id)
    (d : Draft) (p : Place) : store.written d p = store'.written d p := by
  obtain ⟨s, s', rfl, rfl⟩ | ⟨dir, dir', rfl, rfl⟩ := h.kind hid <;> cases p <;> rfl

/-- Stores agree after a request that they have agreed on. -/
theorem AgreeOn.answer (h : store.AgreeOn ids store') (hid : ids r.target) :
    (store.answer now r).2.AgreeOn ids (store'.answer now r).2 := by
  intro p id hp howner
  obtain ⟨new, hgrants, -, hputs⟩ | ⟨hno, -, hcontents⟩ := answer_cases store now r
  · obtain ⟨new', hgrants', -, hputs'⟩ | ⟨hno', -⟩ := answer_cases store' now r
    · obtain rfl := (h.grants hid hgrants).deterministic hgrants'
      rw [hputs p, hputs' p, h.written_eq hid, h p id hp howner]
    · exact absurd (h.grants hid hgrants) (hno' new)
  · obtain ⟨new', hgrants', -⟩ | ⟨-, -, hcontents'⟩ := answer_cases store' now r
    · exact absurd (h.symm.grants hid hgrants') (hno new')
    · rw [holding_of_contents hcontents, holding_of_contents hcontents', h p id hp howner]

/-- **Stores agree after an event** about ids that they have agreed on. -/
theorem AgreeOn.next (h : store.AgreeOn ids store') {e : Event} (he : ∀ id, e.IsAbout id → ids id) :
    (store.next e).AgreeOn ids (store'.next e) := by
  cases e with
  | request r now => exact h.answer (he r.target rfl)
  | reopen =>
    intro p id hid howner
    rw [Drafts.next, Drafts.next, holding_reopen, holding_reopen, h p id hid howner]

/-! ## Other ids -/

/-- What is given back under an id carries it. -/
theorem OwnIds.id_of_fetch (h : store.OwnIds) {id : DraftId}
    (hfetch : (fetch id store).1 = .ok (some d)) : d.id = id := by
  cases store with
  | memory s => exact MemoryDrafts.id_of_fetch (Except.ok.inj hfetch)
  | files dir =>
    obtain ⟨text, htext, hparse⟩ := FileDrafts.text_of_fetch hfetch
    exact h id text d htext hparse

/-- The draft that a request makes is put under the id that the request is about. -/
theorem OwnIds.id_of_grants (h : store.OwnIds) (hgrants : store.Grants now r new) :
    new.id = r.target := by
  obtain ⟨⟨previous, hfound, hmakes⟩, -⟩ := hgrants
  cases previous with
  | none => exact hmakes.id_of_none
  | some old => exact hmakes.id_of_some.trans (h.id_of_fetch hfound)

/-- **An event changes no place of an id that it is not about.** -/
theorem OwnIds.holding_next (h : store.OwnIds) {e : Event} {p : Place}
    (hp : ∀ id, e.IsAbout id → ¬ p.BelongsTo id) : (store.next e).holding p = store.holding p := by
  cases e with
  | reopen => exact holding_reopen store p
  | request r now =>
    obtain ⟨new, hgrants, -, hputs⟩ | ⟨-, -, hcontents⟩ := answer_cases store now r
    · have hother : ¬ p.BelongsTo new.id := by
        rw [h.id_of_grants hgrants]
        exact hp r.target rfl
      exact (hputs p).trans (if_neg hother)
    · exact holding_of_contents hcontents p

/-- Only the files of a directory matter. -/
theorem OwnIds.of_files {dir dir' : Directory} (h : (Drafts.files dir).OwnIds)
    (hfiles : dir'.files = dir.files) : (Drafts.files dir').OwnIds := by
  intro id text d htext
  rw [Directory.file?_congr hfiles] at htext
  exact h id text d htext

/-- A draft that is written goes under the id that it carries. -/
theorem OwnIds.save {dir : Directory} (h : (Drafts.files dir).OwnIds) (hfits : new.FitsWord) :
    (Drafts.files (FileDrafts.save .none new dir).2).OwnIds := by
  by_cases hadmitted : Admitted new.id
  · obtain ⟨-, hwritten⟩ := FileDrafts.written_of_save (FileDrafts.save_admitted dir hadmitted)
    intro id text d htext hparse
    rw [hwritten.file?_fileName] at htext
    split at htext
    · rename_i hid
      cases htext
      rw [ofText_prettyText hfits] at hparse
      cases hparse
      exact hid.symm
    · exact h id text d htext hparse
  · obtain ⟨e, dir', hsave, hfiles⟩ := FileDrafts.save_not_admitted .none dir hadmitted
    rw [hsave]
    exact h.of_files hfiles

/-- **Drafts stay under the ids that they carry.** -/
theorem OwnIds.next (h : store.OwnIds) {e : Event} (hfits : e.Fits) : (store.next e).OwnIds := by
  cases store with
  | memory s =>
    cases e with
    | reopen => trivial
    | request r now =>
      obtain ⟨reply, s', hanswer, -⟩ := effect_memory s now r
      rw [Drafts.next, hanswer]
      trivial
  | files dir =>
    cases e with
    | reopen => exact h.of_files rfl
    | request r now =>
      obtain ⟨_, dir', hanswer, -, hfiles, -⟩ | ⟨_, new, dir', hturns, hfiles, hanswer⟩ :=
        FileDrafts.rewrites_answer .none dir now r
      all_goals rw [Drafts.next, answer_files_eq, hanswer]
      · exact h.of_files hfiles
      · exact (h.of_files hfiles).save (hturns.fitsWord hfits)

/-- What no event is about stays as it is. -/
theorem OwnIds.holding_after (h : store.OwnIds) {events : List Event} (hfits : ∀ e ∈ events, e.Fits)
    {p : Place} (hp : ∀ e ∈ events, ∀ id, e.IsAbout id → ¬ p.BelongsTo id) :
    (store.after events).holding p = store.holding p := by
  induction events generalizing store with
  | nil => rfl
  | cons e events ih =>
    rw [after_cons, ih (h.next (hfits e List.mem_cons_self))
      (fun e' he' => hfits e' (List.mem_cons_of_mem e he'))
      (fun e' he' => hp e' (List.mem_cons_of_mem e he'))]
    exact h.holding_next (hp e List.mem_cons_self)

/-! ## Two series of events -/

/-- An event about no id of a series leaves what the series has to do with. -/
theorem AgreeOn.next_of_other (h : store.AgreeOn ids store') (hown : store.OwnIds) {e : Event}
    (he : ∀ id, e.IsAbout id → ¬ ids id) : (store.next e).AgreeOn ids store' := by
  intro p id hid howner
  rw [hown.holding_next fun id' hid' howner' => he id' hid' (howner'.eq howner ▸ hid)]
  exact h p id hid howner

/-- Two series of events are about different ids, each about some of its own. -/
structure Apart (ids ids' : DraftId → Prop) (xs ys : List Event) : Prop where
  left : ∀ x ∈ xs, x.Fits ∧ ∀ id, x.IsAbout id → ids id
  right : ∀ y ∈ ys, y.Fits ∧ ∀ id, y.IsAbout id → ids' id
  disjoint : ∀ id, ids id → ¬ ids' id

/-- A store that two series are made at is, for each of them, in step with a store that only this
one is made at. -/
structure InStepWith (ids ids' : DraftId → Prop) (store first second : Drafts) : Prop where
  own : store.OwnIds
  left : store.AgreeOn ids first
  right : store.AgreeOn ids' second

section series

variable {ids ids' : DraftId → Prop} {first second : Drafts} {x y : Event} {xs ys zs : List Event}

/-- The next event of the first series keeps the stores in step. -/
theorem InStepWith.next_left (h : InStepWith ids ids' store first second)
    (hapart : Apart ids ids' (x :: xs) ys) :
    InStepWith ids ids' (store.next x) (first.next x) second := by
  obtain ⟨hfits, habout⟩ := hapart.left x List.mem_cons_self
  exact ⟨h.own.next hfits, h.left.next habout,
    h.right.next_of_other h.own fun id hid => hapart.disjoint id (habout id hid)⟩

/-- The next event of the second series keeps the stores in step. -/
theorem InStepWith.next_right (h : InStepWith ids ids' store first second)
    (hapart : Apart ids ids' xs (y :: ys)) :
    InStepWith ids ids' (store.next y) first (second.next y) := by
  obtain ⟨hfits, habout⟩ := hapart.right y List.mem_cons_self
  exact ⟨h.own.next hfits,
    h.left.next_of_other h.own fun id hid hids => hapart.disjoint id hids (habout id hid),
    h.right.next habout⟩

/-- The rest of the first series is apart from the second. -/
theorem Apart.tail_left (h : Apart ids ids' (x :: xs) ys) : Apart ids ids' xs ys :=
  ⟨fun x' hx => h.left x' (List.mem_cons_of_mem x hx), h.right, h.disjoint⟩

/-- The first series is apart from the rest of the second. -/
theorem Apart.tail_right (h : Apart ids ids' xs (y :: ys)) : Apart ids ids' xs ys :=
  ⟨h.left, fun y' hy => h.right y' (List.mem_cons_of_mem y hy), h.disjoint⟩

/-- **In any order the stores stay in step.** -/
theorem InStepWith.after (h : Interleaves xs ys zs) (hapart : Apart ids ids' xs ys)
    (hstep : InStepWith ids ids' store first second) :
    InStepWith ids ids' (store.after zs) (first.after xs) (second.after ys) := by
  induction h generalizing store first second with
  | nil => exact hstep
  | left _ ih => exact ih hapart.tail_left (hstep.next_left hapart)
  | right _ ih => exact ih hapart.tail_right (hstep.next_right hapart)

/-- **In any order each request is answered** as in its own series. -/
theorem InStepWith.exchanges (h : Interleaves xs ys zs) (hapart : Apart ids ids' xs ys)
    (hstep : InStepWith ids ids' store first second) :
    Interleaves (first.exchanges xs) (second.exchanges ys) (store.exchanges zs) := by
  induction h generalizing store first second with
  | nil => exact .nil
  | @left x xs ys zs _ ih =>
    have hrest := ih hapart.tail_left (hstep.next_left hapart)
    cases x with
    | reopen => exact hrest
    | request r now =>
      have hids := (hapart.left _ List.mem_cons_self).2 r.target rfl
      simp only [Drafts.exchanges, hstep.left.reply_eq hids]
      exact .left hrest
  | @right y xs ys zs _ ih =>
    have hrest := ih hapart.tail_right (hstep.next_right hapart)
    cases y with
    | reopen => exact hrest
    | request r now =>
      have hids := (hapart.right _ List.mem_cons_self).2 r.target rfl
      simp only [Drafts.exchanges, hstep.right.reply_eq hids]
      exact .right hrest

/-- **In any order a store holds the same in the end.** -/
theorem InStepWith.holding_after_eq (h : Interleaves xs ys zs) (hapart : Apart ids ids' xs ys)
    {zs' : List Event} (h' : Interleaves xs ys zs')
    (hstep : InStepWith ids ids' store first second) (p : Place) :
    (store.after zs).holding p = (store.after zs').holding p := by
  have hafter := hstep.after h hapart
  have hafter' := hstep.after h' hapart
  by_cases hleft : ∃ id, ids id ∧ p.BelongsTo id
  · obtain ⟨id, hid, howner⟩ := hleft
    exact (hafter.left p id hid howner).trans (hafter'.left p id hid howner).symm
  by_cases hright : ∃ id, ids' id ∧ p.BelongsTo id
  · obtain ⟨id, hid, howner⟩ := hright
    exact (hafter.right p id hid howner).trans (hafter'.right p id hid howner).symm
  -- the place belongs to no id of either series
  have hkept {zs : List Event} (h : Interleaves xs ys zs) :
      (store.after zs).holding p = store.holding p := by
    have hevents : ∀ z ∈ zs, z.Fits ∧ ∀ id, z.IsAbout id → ¬ p.BelongsTo id := by
      intro z hz
      obtain hx | hy := h.mem_or_mem hz
      · obtain ⟨hfits, habout⟩ := hapart.left z hx
        exact ⟨hfits, fun id hid howner => hleft ⟨id, habout id hid, howner⟩⟩
      · obtain ⟨hfits, habout⟩ := hapart.right z hy
        exact ⟨hfits, fun id hid howner => hright ⟨id, habout id hid, howner⟩⟩
    exact hstep.own.holding_after (fun z hz => (hevents z hz).1) fun z hz => (hevents z hz).2
  exact (hkept h).trans (hkept h').symm

end series

/-- **Requests about different drafts do not interfere.**  Two series of requests are about
different ids, with times that can be written; in between, the store may be opened again.  Made at
one store in any order that keeps the order of each, every request gets the answer that it gets
if its series is made alone, and the store holds what it holds after the one series and then the
other: the same records, or the same files. -/
theorem order_immaterial {store : Drafts} (hown : store.OwnIds) {xs ys zs : List Event}
    (hfits : ∀ e ∈ xs ++ ys, e.Fits)
    (hdisjoint : ∀ x ∈ xs, ∀ y ∈ ys, ∀ id, x.IsAbout id → ¬ y.IsAbout id)
    (h : Interleaves xs ys zs) :
    Interleaves (store.exchanges xs) (store.exchanges ys) (store.exchanges zs) ∧
      ∀ p, (store.after zs).holding p = (store.after (xs ++ ys)).holding p := by
  have hapart : Apart (fun id => ∃ x ∈ xs, x.IsAbout id) (fun id => ∃ y ∈ ys, y.IsAbout id) xs ys :=
    { left := fun x hx => ⟨hfits x (List.mem_append_left ys hx), fun id hid => ⟨x, hx, hid⟩⟩
      right := fun y hy => ⟨hfits y (List.mem_append_right xs hy), fun id hid => ⟨y, hy, hid⟩⟩
      disjoint := by
        rintro id ⟨x, hx, hid⟩ ⟨y, hy, hid'⟩
        exact hdisjoint x hx y hy id hid hid' }
  have hstep : InStepWith (fun id => ∃ x ∈ xs, x.IsAbout id) (fun id => ∃ y ∈ ys, y.IsAbout id)
      store store store := ⟨hown, fun _ _ _ _ => rfl, fun _ _ _ _ => rfl⟩
  exact ⟨hstep.exchanges h hapart, hstep.holding_after_eq h hapart (interleaves_append xs ys)⟩

/-- Two drafts are begun, and the first is begun once more before the second is read. -/
theorem order_immaterial_two :
    Interleaves
        ((Drafts.files .empty).exchanges
          [.request (.persist quotedDraft) 5, .request (.persist quotedDraft) 7])
        ((Drafts.files .empty).exchanges
          [.request (.persist { quotedDraft with id := ⟨"draft_2"⟩ }) 6, .reopen,
            .request (.fetch ⟨"draft_2"⟩) 8])
        ((Drafts.files .empty).exchanges
          [.request (.persist quotedDraft) 5,
            .request (.persist { quotedDraft with id := ⟨"draft_2"⟩ }) 6,
            .request (.persist quotedDraft) 7, .reopen, .request (.fetch ⟨"draft_2"⟩) 8]) := by
  have hfits {d : Draft} (now : Timestamp) (hd : d.FitsWord) (hnow : now ≤ Json.maxWord) :
      (Event.request (.persist d) now).Fits := ⟨fun d' hd' => (by cases hd'; exact hd), hnow⟩
  have hown : (Drafts.files .empty).OwnIds := by
    intro id text d htext
    cases htext
  refine (order_immaterial hown ?_ ?_ (.left (.right (.left (.right (.right .nil)))))).1
  · intro e he
    simp only [List.cons_append, List.nil_append, List.mem_cons, List.not_mem_nil, or_false] at he
    rcases he with rfl | rfl | rfl | rfl | rfl
    · exact hfits 5 ⟨by decide, by decide⟩ (by decide)
    · exact hfits 7 ⟨by decide, by decide⟩ (by decide)
    · exact hfits 6 ⟨by decide, by decide⟩ (by decide)
    · trivial
    · exact ⟨fun d hd => (by cases hd), by decide⟩
  · intro x hx y hy id hxid hyid
    simp only [List.mem_cons, List.not_mem_nil, or_false] at hx hy
    obtain rfl : quotedDraft.id = id := by rcases hx with rfl | rfl <;> exact hxid
    have hother : (⟨"draft_2"⟩ : DraftId) ≠ quotedDraft.id := by decide
    rcases hy with rfl | rfl | rfl
    · exact hother hyid
    · exact hyid
    · exact hother hyid

end Drafts

end PostingTerminal.Store
