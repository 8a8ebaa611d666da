import PostingTerminal.Proofs.Store.EntryLines

/-!
# A transcript in a file answers like one in memory

A transcript is asked for two things: to append an entry, and for its last entries.

* `Transcript.Records` — the entries that a transcript holds, in whichever form it is kept.  A
  file holds entries only while it has no unfinished line.
* `Records.answer` — **one request**: the answer depends on the entries alone, and the entries
  after it are those before it with what was appended.
* `Transcript.Course` — a run of requests, between which lines that are no entries may be put
  between the whole lines of a file.
* `Course.replies_eq` — **a whole run**: the answers are those of the entries alone
  (`due`), so a file and a list in memory cannot be told apart
  (`Transcript.file_answers_like_memory`).
-/

namespace PostingTerminal.Store.Transcript

open Entry (Stray ofText endsLine_line endsLine_stray ofText_append_line ofText_insert)
open Text (EndsLine endsLine_nil)

/-! ## Requests and replies -/

/-- A request to a transcript. -/
inductive Request where
  | append (e : Entry)
  | recent (limit : Nat)

/-- What a transcript answers. -/
inductive Reply where
  | appended (result : Except Error Unit)
  | entries (result : Except Error (List Entry))

/-- The entry that a request hands over. -/
def Request.entry? : Request → Option Entry
  | .append e => some e
  | .recent _ => none

/-- The entries that requests hand over, in their order. -/
def appended (requests : List Request) : List Entry := requests.filterMap Request.entry?

/-- What a transcript answers to a request, and what it is afterwards. -/
def answer (t : Transcript) : Request → Reply × Transcript
  | .append e => (.appended (t.append e).1, (t.append e).2)
  | .recent limit => (.entries (t.recent limit), t)

/-- What a transcript answers to requests in turn. -/
def replies (t : Transcript) : List Request → List Reply
  | [] => []
  | r :: requests => (t.answer r).1 :: (t.answer r).2.replies requests

/-- What becomes of a transcript under requests in turn. -/
def after (t : Transcript) : List Request → Transcript
  | [] => t
  | r :: requests => (t.answer r).2.after requests

/-- The answer that is due to a request when some entries have been appended: an append is
made, and the last entries are the limit's worth of them, in their order. -/
def Request.due (es : List Entry) : Request → Reply
  | .append _ => .appended (.ok ())
  | .recent limit => .entries (.ok (es.drop (es.length - limit)))

/-- The answers that are due to requests in turn. -/
def due (es : List Entry) : List Request → List Reply
  | [] => []
  | r :: requests => r.due es :: due (es ++ r.entry?.toList) requests

/-- The entry of the first request comes before those of the others. -/
theorem appended_cons (r : Request) (requests : List Request) :
    appended (r :: requests) = r.entry?.toList ++ appended requests := by
  cases r <;> rfl

/-- The answer due to a request depends on the entries handed over before it. -/
theorem due_getElem? (es : List Entry) (before : List Request) (r : Request)
    (later : List Request) :
    (due es (before ++ r :: later))[before.length]? = some (r.due (es ++ appended before)) := by
  induction before generalizing es with
  | nil => simp [due, appended]
  | cons b before ih =>
    rw [appended_cons, ← List.append_assoc]
    exact ih (es ++ b.entry?.toList)

/-! ## Runs -/

/-- **A run of requests**, from a transcript to what it is afterwards, with the replies.
Between two requests a line that is no entry may be put between the whole lines of a file.  Such a
line is a text: a file with bytes that are not UTF-8 has no lines, and none of its entries can be
read then, nor can any that is appended behind them. -/
inductive Course : Transcript → List Request → List Reply → Transcript → Prop
  | done (t : Transcript) : Course t [] [] t
  | ask {t t' : Transcript} {r : Request} {requests : List Request} {later : List Reply} :
      Course (t.answer r).2 requests later t' →
      Course t (r :: requests) ((t.answer r).1 :: later) t'
  | insert {t' : Transcript} {requests : List Request} {later : List Reply} {a raw b : String} :
      EndsLine a.toList → Stray raw →
      Course (.file (.text (a ++ (raw ++ "\n" ++ b)))) requests later t' →
      Course (.file (.text (a ++ b))) requests later t'

/-- The requests alone are a run. -/
theorem course_replies (t : Transcript) (requests : List Request) :
    Course t requests (t.replies requests) (t.after requests) := by
  induction requests generalizing t with
  | nil => exact .done t
  | cons r requests ih => exact .ask (ih (t.answer r).2)

/-! ## The entries that a transcript holds -/

/-- **A transcript holds entries**, and a file that holds them has no unfinished line. -/
inductive Records : List Entry → Transcript → Prop
  | memory (es : List Entry) : Records es (.memory es)
  | missing : Records [] (.file .missing)
  | text {content : String} :
      EndsLine content.toList → Records (ofText content) (.file (.text content))

/-- A request for the last entries is answered from the entries alone. -/
theorem Records.recent {es : List Entry} {t : Transcript} (h : Records es t) (limit : Nat) :
    t.recent limit = .ok (es.drop (es.length - limit)) := by
  cases h with
  | memory => rfl
  | missing => rfl
  | text => rfl

/-- An append is made, and adds its entry to those that are held. -/
theorem Records.append {es : List Entry} {t : Transcript} (h : Records es t) {e : Entry}
    (he : e.FitsWord) : (t.append e).1 = .ok () ∧ Records (es ++ [e]) (t.append e).2 := by
  cases h with
  | memory => exact ⟨rfl, .memory (es ++ [e])⟩
  | missing =>
    refine ⟨rfl, ?_⟩
    rw [List.nil_append, ← Entry.ofText_line he]
    exact .text (endsLine_line e)
  | @text content hends =>
    refine ⟨rfl, ?_⟩
    rw [← ofText_append_line hends he]
    apply Records.text
    rw [String.toList_append]
    exact hends.append (endsLine_line e)

/-- **One request**: its answer is the one that is due to the entries held, and it adds to them
what it hands over. -/
theorem Records.answer {es : List Entry} {t : Transcript} (h : Records es t) {r : Request}
    (hr : ∀ e ∈ r.entry?, e.FitsWord) :
    (t.answer r).1 = r.due es ∧ Records (es ++ r.entry?.toList) (t.answer r).2 := by
  cases r with
  | append e =>
    obtain ⟨hresult, hheld⟩ := h.append (hr e rfl)
    exact ⟨congrArg Reply.appended hresult, hheld⟩
  | recent limit =>
    refine ⟨congrArg Reply.entries (h.recent limit), ?_⟩
    simpa [Request.entry?, Transcript.answer] using h

/-- A line that is no entry changes no entry of a file. -/
theorem Records.insert {es : List Entry} {a raw b : String}
    (h : Records es (.file (.text (a ++ b)))) (ha : EndsLine a.toList) (hraw : Stray raw) :
    Records es (.file (.text (a ++ (raw ++ "\n" ++ b)))) := by
  cases h with
  | text hends =>
    rw [← ofText_insert ha hraw b]
    apply Records.text
    rw [String.toList_append] at hends
    rw [String.toList_append, String.toList_append]
    exact ha.append ((endsLine_stray raw).append hends.of_append)

/-- **A whole run**: the answers are those that are due to the entries, whatever lines have been
put in between. -/
theorem Course.replies_eq {t t' : Transcript} {requests : List Request} {rs : List Reply}
    (h : Course t requests rs t') {es : List Entry} (ht : Records es t)
    (hfit : ∀ e ∈ appended requests, e.FitsWord) :
    rs = due es requests ∧ Records (es ++ appended requests) t' := by
  induction h generalizing es with
  | done t =>
    refine ⟨rfl, ?_⟩
    simpa [appended] using ht
  | @ask t t' r requests later _ ih =>
    rw [appended_cons] at hfit ⊢
    obtain ⟨hreply, hheld⟩ := ht.answer fun e he =>
      hfit e (List.mem_append_left _ (Option.mem_toList.2 he))
    obtain ⟨hlater, hend⟩ := ih hheld fun e he => hfit e (List.mem_append_right _ he)
    refine ⟨?_, ?_⟩
    · rw [hreply, hlater, due]
    · rwa [← List.append_assoc]
  | insert ha hraw _ ih => exact ih (ht.insert ha hraw) hfit

/-- **A transcript in a file answers like one in memory.**  From a missing file on, whatever
requests are made, it answers each of them as the list in memory does; a request for the last
entries gets those of the entries appended so far, in their order, as many as there are up to
the limit.  Lines that are no entries, put between the whole lines of the file, change no
answer. -/
theorem file_answers_like_memory (requests : List Request)
    (hfit : ∀ e ∈ appended requests, e.FitsWord) :
    (file .missing).replies requests = (memory []).replies requests ∧
    (∀ before limit later, requests = before ++ .recent limit :: later →
      ((memory []).replies requests)[before.length]? = some (.entries (.ok
        ((appended before).drop ((appended before).length - limit))))) ∧
    (∀ before e later, requests = before ++ .append e :: later →
      ((memory []).replies requests)[before.length]? = some (.appended (.ok ()))) ∧
    ∀ rs t, Course (file .missing) requests rs t → rs = (memory []).replies requests := by
  have hmemory : (memory []).replies requests = due [] requests :=
    ((course_replies _ requests).replies_eq (.memory []) hfit).1
  have hfile : ∀ rs t, Course (file .missing) requests rs t → rs = due [] requests :=
    fun rs t h => (h.replies_eq .missing hfit).1
  rw [hmemory]
  refine ⟨hfile _ _ (course_replies _ requests), ?_, ?_, hfile⟩
  · rintro before limit later rfl
    exact due_getElem? [] before (.recent limit) later
  · rintro before e later rfl
    exact due_getElem? [] before (.append e) later

/-- The later of two entries whose texts hold line ends, quotes and backslashes. -/
theorem file_answers_of_two_entries :
    let first : Entry := ⟨"a\n\"b\"\r", "\u2028\n", Json.maxWord⟩
    let second : Entry := ⟨"\r\n", "\\", 0⟩
    (file .missing).replies [.append first, .append second, .recent 1]
      = [.appended (.ok ()), .appended (.ok ()), .entries (.ok [second])] := by
  intro first second
  have hfit : ∀ e ∈ appended [.append first, .append second, .recent 1], e.FitsWord := by
    simp [appended, Request.entry?, Entry.FitsWord, first, second, Json.maxWord]
  exact (file_answers_like_memory _ hfit).1.trans rfl

end PostingTerminal.Store.Transcript
