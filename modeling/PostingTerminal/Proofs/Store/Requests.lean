import PostingTerminal.Proofs.Draft.Changes
import PostingTerminal.Proofs.Store.Records
import PostingTerminal.Session.Places

/-!
# Requests to a store of drafts

A store of drafts is used through five requests.  One of them begins a record, three of them
change the record that is there, and one reads it.  Between two requests a store of files may
be opened again on its directory.

* `Drafts.answer` — what a store answers to a request, and what it is afterwards.
* `Drafts.after`, `Drafts.replies` — the same for everything that happens to a store.
* `FileDrafts.answer`, `FileDrafts.after` — the same for a directory whose accesses may fail.
* `Effect` — **all that a request can do** to the records in memory: nothing, or one record is
  put under the id that the request is about, and only where it may be.  What holds of every
  run is derived from it, and no later proof opens an operation again.
-/

namespace PostingTerminal.Store

/-! ## Requests and replies -/

/-- A request to a store of drafts. -/
inductive Request where
  | persist (draft : Draft)
  | update (id : DraftId) (status : DraftStatus)
  | record (id : DraftId) (message : MessageId)
  | finalize (draft : Draft)
  | fetch (id : DraftId)

namespace Request

/-- The id of the record that a request is about. -/
def target : Request → DraftId
  | .persist d => d.id
  | .update id _ => id
  | .record id _ => id
  | .finalize d => d.id
  | .fetch id => id

/-- Whether a request may change a record. -/
def isWrite : Request → Bool
  | .fetch _ => false
  | _ => true

/-- The draft that a request hands to the store. -/
def draft? : Request → Option Draft
  | .persist d => some d
  | .finalize d => some d
  | _ => none

/-- The change that a request asks for of a record that has been begun. -/
def change? : Request → Option Change
  | .update _ status => some (.moveTo status)
  | .record _ message => some (.appendId message)
  | .finalize d => some (.finishAs d)
  | _ => none

/-- Every change that a request asks for is faithful. -/
theorem faithful_of_change? {r : Request} {change : Change} (h : r.change? = some change) :
    change.Faithful := by
  cases r with
  | persist d => cases h
  | update id status => cases h; exact Change.faithful_moveTo status
  | record id message => cases h; exact Change.faithful_appendId message
  | finalize d => cases h; exact Change.faithful_finishAs d
  | fetch id => cases h

end Request

/-- What a store answers. -/
inductive Reply where
  | done
  | refused (cause : Error)
  | found (record : Option Draft)

/-- The reply to a request that may change a record. -/
def Reply.ofWrite : Except Error Unit → Reply
  | .error e => .refused e
  | .ok () => .done

/-- The reply to a request that reads a record. -/
def Reply.ofRead : Except Error (Option Draft) → Reply
  | .error e => .refused e
  | .ok record => .found record

/-- What a directory of drafts answers to a request at a time, and what it is afterwards, whichever
accesses fail. -/
def FileDrafts.answer (failures : Failures) (dir : Directory) (now : Timestamp) :
    Request → Reply × Directory
  | .persist d => (persist failures d dir).map Reply.ofWrite id
  | .update target status => (modify failures target (.moveTo status) now dir).map Reply.ofWrite id
  | .record target message =>
    (modify failures target (.appendId message) now dir).map Reply.ofWrite id
  | .finalize d => (modify failures d.id (.finishAs d) now dir).map Reply.ofWrite id
  | .fetch target => (fetch failures target dir).map Reply.ofRead id

/-- A request to a directory at a time, and what fails of it. -/
structure Try where
  failures : Failures
  now : Timestamp
  request : Request

/-- A directory after requests, whichever accesses fail. -/
def FileDrafts.after (dir : Directory) (tries : List Try) : Directory :=
  tries.foldl (fun dir t => (answer t.failures dir t.now t.request).2) dir

/-- A request that asks for a change of a record in a directory makes it. -/
theorem FileDrafts.answer_of_change? {failures : Failures} {dir : Directory} {now : Timestamp}
    {r : Request} {change : Change} (h : r.change? = some change) :
    answer failures dir now r = (modify failures r.target change now dir).map Reply.ofWrite id := by
  cases r with
  | persist d => cases h
  | update id status => cases h; rfl
  | record id message => cases h; rfl
  | finalize d => cases h; rfl
  | fetch id => cases h

namespace Drafts

/-- Makes an operation that may change a record. -/
def write (store : Drafts) (step : Step Unit) : Reply × Drafts :=
  (.ofWrite (step store).1, (step store).2)

/-- Makes an operation that reads a record. -/
def read (store : Drafts) (step : Step (Option Draft)) : Reply × Drafts :=
  (.ofRead (step store).1, (step store).2)

/-- What a store answers to a request at a time, and what it is afterwards. -/
def answer (store : Drafts) (now : Timestamp) : Request → Reply × Drafts
  | .persist d => store.write (persist d)
  | .update id status => store.write (updateStatus id status now)
  | .record id message => store.write (recordId id message now)
  | .finalize d => store.write (finalize d now)
  | .fetch id => store.read (fetch id)

/-- A request that asks for a change makes it. -/
theorem answer_of_change? {store : Drafts} {now : Timestamp} {r : Request} {change : Change}
    (h : r.change? = some change) :
    store.answer now r = store.write (modify r.target change now) := by
  cases r with
  | persist d => cases h
  | update id status => cases h; rfl
  | record id message => cases h; rfl
  | finalize d => cases h; rfl
  | fetch id => cases h

/-- A directory of drafts answers as what it is a store of, while no access fails. -/
theorem answer_files_eq (dir : Directory) (now : Timestamp) (r : Request) :
    (Drafts.files dir).answer now r
      = ((FileDrafts.answer .none dir now r).1, .files (FileDrafts.answer .none dir now r).2) := by
  cases r <;> rfl

/-- The store that is opened at the place where a store has been kept.  Records in memory stay
where they are; of a directory its files are found again, and nothing else. -/
def reopen (store : Drafts) : Drafts :=
  match store with
  | .memory s => .memory s
  | .files dir =>
    let places : Places :=
      ⟨fun _ => .ok { Directory.empty with files := dir.files }, fun _ => .missing⟩
    match places.openDrafts (some "drafts") with
    | .ok opened => opened
    | .error _ => store

end Drafts

/-- What can happen to a store of drafts. -/
inductive Event where
  | request (r : Request) (now : Timestamp)
  | reopen

/-- Whether an event is a request. -/
def Event.isRequest : Event → Bool
  | .request _ _ => true
  | .reopen => false

namespace Drafts

/-- A store after an event. -/
def next (store : Drafts) : Event → Drafts
  | .request r now => (store.answer now r).2
  | .reopen => store.reopen

/-- A store after events. -/
def after (store : Drafts) (events : List Event) : Drafts := events.foldl next store

/-- What a store answers to the requests among events. -/
def replies (store : Drafts) : List Event → List Reply
  | [] => []
  | .request r now :: events => (store.answer now r).1 :: replies (store.answer now r).2 events
  | .reopen :: events => replies store.reopen events

/-- The first event happens first. -/
theorem after_cons (store : Drafts) (e : Event) (events : List Event) :
    store.after (e :: events) = (store.next e).after events := rfl

/-- Two series of events happen one after the other. -/
theorem after_append (store : Drafts) (events events' : List Event) :
    store.after (events ++ events') = (store.after events).after events' :=
  List.foldl_append

/-- The last event happens to what the others have left. -/
theorem after_concat (store : Drafts) (events : List Event) (e : Event) :
    store.after (events ++ [e]) = (store.after events).next e :=
  after_append store events [e]

end Drafts

/-! ## What a request does to records in memory -/

namespace MemoryDrafts

variable {s s' : MemoryDrafts} {r old : Draft} {id : DraftId}

/-- The records are the same but for the one under the id of a draft, which is that draft. -/
def Puts (s : MemoryDrafts) (d : Draft) (s' : MemoryDrafts) : Prop :=
  ∀ id, s'.fetch id = if id = d.id then some d else s.fetch id

/-- A record is found under the id it carries. -/
theorem id_of_fetch (h : s.fetch id = some r) : r.id = id := by
  simpa using List.find?_some h

/-- A record that takes the place of another one leaves those under other ids. -/
theorem find?_replace_ne (records : List Draft) {other : DraftId} (hid : r.id = id)
    (hother : other ≠ id) :
    (records.map fun old => if old.id == id then r else old).find? (·.id == other)
      = records.find? (·.id == other) := by
  induction records with
  | nil => rfl
  | cons old rest ih =>
    rw [List.map_cons]
    by_cases hold : old.id = id
    · rw [if_pos (by simpa using hold),
        List.find?_cons_of_neg (by simpa [hid] using hother.symm),
        List.find?_cons_of_neg (by simpa [hold] using hother.symm)]
      exact ih
    · rw [if_neg (by simpa using hold), List.find?_cons, List.find?_cons, ih]

/-- A record is begun exactly where there is none, and put there. -/
theorem puts_persist (h : s.persist r = .ok s') : s.fetch r.id = none ∧ s.Puts r s' := by
  have hfound := fetch_persist h
  unfold persist at h
  split at h
  · cases h
  · rename_i hfresh
    have hnone : s.fetch r.id = none := by simpa using hfresh
    cases h
    refine ⟨hnone, fun id => ?_⟩
    by_cases hid : id = r.id
    · rw [if_pos hid, hid]
      exact hfound
    · rw [if_neg hid, fetch, List.find?_append,
        List.find?_cons_of_neg (by simpa using Ne.symm hid)]
      exact Option.or_none

/-- A record is changed where there is one, and what the change leaves is put there. -/
theorem puts_modify {change : Change} {now : Timestamp} (hfaithful : change.Faithful)
    (h : s.modify id change now = .ok s') :
    ∃ old new, s.fetch id = some old ∧ change old now = .ok new ∧ s.Puts new s' := by
  unfold modify at h
  split at h
  · cases h
  · rename_i old hold
    split at h
    · cases h
    · rename_i new hnew
      cases h
      have hid : new.id = id := (hfaithful.sameThread hnew).id.trans (id_of_fetch hold)
      refine ⟨old, new, hold, hnew, fun other => ?_⟩
      rw [hid]
      by_cases hother : other = id
      · rw [if_pos hother, hother]
        exact find?_replace s.drafts hold hid
      · rw [if_neg hother]
        exact find?_replace_ne s.drafts hid hother

end MemoryDrafts

/-- What a change that a request asks for leaves is under the id that the request is about. -/
theorem Request.id_of_change {s : MemoryDrafts} {r : Request} {change : Change}
    {old new : Draft} {now : Timestamp} (hasks : r.change? = some change)
    (hfound : s.fetch r.target = some old) (hallowed : change old now = .ok new) :
    new.id = r.target :=
  ((faithful_of_change? hasks).sameThread hallowed).id.trans (MemoryDrafts.id_of_fetch hfound)

/-- What a request can do to records in memory, and what is answered then. -/
inductive Effect (now : Timestamp) (s : MemoryDrafts) :
    Request → Reply → MemoryDrafts → Prop
  /-- A record is read. -/
  | read (id : DraftId) : Effect now s (.fetch id) (.found (s.fetch id)) s
  /-- The request is refused. -/
  | refused (r : Request) (cause : Error) : Effect now s r (.refused cause) s
  /-- A record is begun. -/
  | begun {d : Draft} {s' : MemoryDrafts} (fresh : s.fetch d.id = none) (puts : s.Puts d s') :
      Effect now s (.persist d) .done s'
  /-- A record is changed. -/
  | changed {r : Request} {change : Change} {old new : Draft} {s' : MemoryDrafts}
      (asks : r.change? = some change) (found : s.fetch r.target = some old)
      (allowed : change old now = .ok new) (puts : s.Puts new s') : Effect now s r .done s'

namespace Drafts

variable {s : MemoryDrafts} {now : Timestamp}

/-- The outcome of an operation on records in memory, as one of a store. -/
def ofMemory (s : MemoryDrafts) : Except Error MemoryDrafts → Except Error Unit × Drafts
  | .error e => (.error e, .memory s)
  | .ok s' => (.ok (), .memory s')

/-- Beginning a record in memory. -/
theorem persist_memory (s : MemoryDrafts) (d : Draft) :
    persist d (.memory s) = ofMemory s (s.persist d) := by
  rw [persist]
  cases s.persist d <;> rfl

/-- Changing a record in memory. -/
theorem modify_memory (s : MemoryDrafts) (id : DraftId) (change : Change) (now : Timestamp) :
    modify id change now (.memory s) = ofMemory s (s.modify id change now) := by
  rw [modify]
  cases s.modify id change now <;> rfl

/-- A change in memory has the effect of a request that asks for it. -/
theorem effect_of_change {r : Request} {change : Change} (h : r.change? = some change) :
    ∃ reply s', (Drafts.memory s).answer now r = (reply, .memory s') ∧
      Effect now s r reply s' := by
  rw [answer_of_change? h, write, modify_memory]
  cases hmodify : s.modify r.target change now with
  | error e => exact ⟨_, s, rfl, .refused r e⟩
  | ok s' =>
    obtain ⟨old, new, hold, hnew, hputs⟩ :=
      MemoryDrafts.puts_modify (Request.faithful_of_change? h) hmodify
    exact ⟨_, s', rfl, .changed h hold hnew hputs⟩

/-- **Every request to records in memory has one of the effects.** -/
theorem effect_memory (s : MemoryDrafts) (now : Timestamp) (r : Request) :
    ∃ reply s', (Drafts.memory s).answer now r = (reply, .memory s') ∧
      Effect now s r reply s' := by
  cases r with
  | persist d =>
    rw [answer, write, persist_memory]
    cases hpersist : s.persist d with
    | error e => exact ⟨_, s, rfl, .refused _ e⟩
    | ok s' =>
      obtain ⟨hfresh, hputs⟩ := MemoryDrafts.puts_persist hpersist
      exact ⟨_, s', rfl, .begun hfresh hputs⟩
  | update id status => exact effect_of_change rfl
  | record id message => exact effect_of_change rfl
  | finalize d => exact effect_of_change rfl
  | fetch id => exact ⟨_, s, rfl, .read id⟩

end Drafts

end PostingTerminal.Store
