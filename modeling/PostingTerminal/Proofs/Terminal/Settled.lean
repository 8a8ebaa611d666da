import PostingTerminal.Proofs.Draft.FreshIds
import PostingTerminal.Proofs.Terminal.Deeds

/-!
# What becomes of drafts at a terminal

An agent begins without records, over records in memory that never fail.  What it says of a draft
when it is asked is what the attempt that has begun the draft has come to, and remains so.

* `threadStatus_reports` — **a record is reported as it is**, by its id.
* `drafts_settled` — **every record of an attempt that has given a result is settled**, and its
  status is reported from then on as the result has it.

An attempt is cut short where the platform crashes or never answers.  Its record then says for
ever that it is being published (`drafts_unsettled`).
-/

namespace PostingTerminal.Terminal

open Store (Drafts MemoryDrafts)
open Attempt (Agrees)

/-! ## What is reported of a record -/

section report

variable {s : Session} {store : MemoryDrafts} {id : DraftId} {r : Draft}

/-- The line that asks what has become of the draft with a fresh id names the command for it. -/
theorem names_threadStatus (hshape : id.isFreshShape = true) :
    Names builtins ("thread-status " ++ id.text) ("thread-status " ++ id.text)
      threadStatusCommand ⟨[("draft_id", .string id.text)]⟩ := by
  have hline : "thread-status " ++ id.text = "thread-status" ++ " " ++ id.text := rfl
  obtain ⟨hne, hplain⟩ := plain_of_isFreshShape hshape
  have hword : "thread-status".toList.all CommandLine.isPlain = true := by decide
  have hnonempty : "thread-status".toList ≠ [] := by decide
  obtain ⟨htrimmed, htokens⟩ := CommandLine.tokens_two_words hnonempty hne
    (List.all_eq_true.1 hword) hplain
  have hrequest : isRequest ("thread-status " ++ id.text) = false := by
    unfold isRequest
    rw [String.toList_append, Text.trimStart_eq_self]
    · rfl
    · rintro c ⟨⟩
      rfl
  rw [← hline] at htrimmed htokens
  refine @Names.intro builtins _ _ threadStatusCommand [id.text] _ ⟨?_, htokens⟩ rfl rfl
  unfold lineOf
  rw [hrequest, if_neg Bool.false_ne_true, Except.map, htrimmed]

/-- **A record is reported as it is**, by its fresh id. -/
theorem threadStatus_reports (hstore : s.drafts = .memory store) (hfaults : s.faults = .none)
    (hfetch : store.fetch id = some r) (hshape : id.isFreshShape = true) :
    (execute builtins ("thread-status " ++ id.text) s).1
      = .ok ⟨"thread-status " ++ id.text, statusReport r, false, some r.toJson⟩ := by
  have hrun : threadStatusCommand.action.run builtins ⟨[("draft_id", .string id.text)]⟩ s
      = (.ok (.ok (.success (statusReport r) (some r.toJson))), s.note (.fetch id)) := by
    have hread := fetch_inMemory hstore hfaults id
    rw [hfetch] at hread
    show threadStatus _ s = _
    unfold threadStatus
    exact Run.bind_ok hread
  have hcontained :=
    contained_eq (threadStatusCommand.action.run builtins ⟨[("draft_id", .string id.text)]⟩) s
  rw [hrun] at hcontained
  rw [execute_eq, (logged_session _ s).1, runInput_of_names (names_threadStatus hshape)]
  unfold perform
  rw [Run.bind_ok hcontained]
  rfl

end report

/-- How the result of an attempt about a topic is reported, given the status in it. -/
def resultReport (id : DraftId) (status : DraftStatus) (p : Publication) (topic : Option String) :
    String :=
  let ids :=
    if p.messageIds.isEmpty then "none" else ", ".intercalate (p.messageIds.map (·.text))
  "Draft " ++ id.text ++ "\nStatus: " ++ status.name
    ++ "\nPosted: " ++ toString p.messageIds.length ++ "/" ++ toString p.segments.length
    ++ "\nTweet IDs: " ++ ids ++ optionalLine "Topic" topic

/-- A record is reported as a result that agrees with it. -/
theorem statusReport_of_agrees {p : Publication} {r : Draft} (h : Agrees p r) :
    statusReport r = resultReport r.id r.status p r.topic := by
  unfold statusReport resultReport
  rw [h.messageIds, h.segments]

/-- **Every record of an attempt that has given a result is settled, for good.**  An agent that
has begun without records, over records in memory that never fail, is given inputs and segments to
publish.  Whatever record there is then comes from one of these attempts.  If the attempt has given
a result, the record has segments and a final status, which is that of a published thread exactly
if every segment has an id, and of a failed one exactly if some have none; and whatever is done
from then on, its status, its ids and its topic are reported as the result and the attempt have
them.  Every attempt has given a result unless there are posts that the platform does not answer;
where the attempt has not, the record is still being published. -/
theorem drafts_settled {s : Session} (hstore : s.drafts = .memory .empty)
    (hfaults : s.faults = .none) (hids : ∀ n, (s.ids n).isFreshShape = true) (deeds : List Deed)
    {id : DraftId} {r : Draft}
    (hr : (Drafts.fetch id (after s deeds).drafts).1 = .ok (some r)) :
    ∃ earlier deed later topic outcome, deeds = earlier ++ deed :: later ∧
      Attempts (after s earlier) deed topic outcome ∧
      match outcome with
      | .ok p => r.Settled ∧ p.draftId = some id ∧ ∃ status, p.status = some status ∧
          ∀ further, ∃ data, (execute builtins ("thread-status " ++ id.text)
              (after s (deeds ++ further))).1
            = .ok ⟨"thread-status " ++ id.text, resultReport id status p topic, false, data⟩
      | .error _ => ¬ s.Answered ∧ r.status = .publishing ∧
          r.messageIds.length < r.segments.length := by
  obtain ⟨store, hsteady, hall⟩ := comesFrom_of_fetch hstore hfaults deeds
  have hfetch : store.fetch id = some r := by
    rw [hsteady.drafts] at hr
    exact Except.ok.inj hr
  obtain ⟨rfl, earlier, deed, outcome, ⟨later, hdeeds⟩, attempts, ⟨n, hn⟩, leaves⟩ :=
    hall id r hfetch
  refine ⟨earlier, deed, later, r.topic, outcome, hdeeds, attempts, ?_⟩
  cases outcome with
  | error halt => exact leaves
  | ok p =>
    obtain ⟨hsettled, hagrees⟩ := leaves
    refine ⟨hsettled, hagrees.draftId, r.status, hagrees.status, ?_⟩
    intro further
    obtain ⟨store', hsteady', hfetch'⟩ := hsteady.after hfetch further
    have hshape : r.id.isFreshShape = true := by
      rw [hn]
      exact hids n
    rw [after_append]
    refine ⟨some r.toJson, ?_⟩
    rw [threadStatus_reports hsteady'.drafts hsteady'.faults hfetch' hshape,
      statusReport_of_agrees hagrees]

/-- A session without records in which threads of two segments are written, on a platform. -/
def writingSession (script : Platform.Script) : Session :=
  { Attempt.emptySession (.scripted script) .none with
    generator := .scripted fun _ => .answer 0 (.ok [.ofText "a", .ofText "b"])
    ids := .from 0 }

/-- The ids there are fresh ones. -/
theorem isFreshShape_writingSession (script : Platform.Script) (n : Nat) :
    ((writingSession script).ids n).isFreshShape = true := by
  show (DraftId.ofNumber (0 + n)).isFreshShape = true
  exact isFreshShape_ofNumber (0 + n)

/-- The record of the first thread that is created there. -/
def writtenDraft (status : DraftStatus) (ids : List MessageId) : Draft :=
  ⟨.ofNumber 0, some "x", [.ofText "a", .ofText "b"], status, ids, 0, 0⟩

/-- The answer to a call for the record that creating a thread leaves there. -/
def written (script : Platform.Script) : Except Error (Option Draft) :=
  (Drafts.fetch (.ofNumber 0)
    (after (writingSession script) [.enter "create-thread x"]).drafts).1

/-- The answer is known once what is read has been computed. -/
theorem written_eq_ok {script : Platform.Script} {r : Draft}
    (h : (written script).toOption = some (some r)) : written script = .ok (some r) := by
  cases hwritten : written script with
  | error e =>
    rw [hwritten] at h
    cases h
  | ok r' =>
    rw [hwritten] at h
    rw [Option.some.inj h]

/-- A thread that has been created and posted stays published. -/
theorem drafts_settled_published :
    written .posting = .ok (some (writtenDraft .published [⟨"msg_0"⟩, ⟨"msg_1"⟩])) ∧
      ∃ earlier deed later topic outcome, [.enter "create-thread x"] = earlier ++ deed :: later ∧
        Attempts (after (writingSession .posting) earlier) deed topic outcome ∧
        match outcome with
        | .ok p => (writtenDraft .published [⟨"msg_0"⟩, ⟨"msg_1"⟩]).Settled ∧
            p.draftId = some (.ofNumber 0) ∧ ∃ status, p.status = some status ∧
            ∀ further, ∃ data, (execute builtins ("thread-status " ++ (DraftId.ofNumber 0).text)
                (after (writingSession .posting) ([.enter "create-thread x"] ++ further))).1
              = .ok ⟨"thread-status " ++ (DraftId.ofNumber 0).text,
                resultReport (.ofNumber 0) status p topic, false, data⟩
        | .error _ => ¬ (writingSession .posting).Answered ∧
            (writtenDraft .published [⟨"msg_0"⟩, ⟨"msg_1"⟩]).status = .publishing ∧
            (writtenDraft .published [⟨"msg_0"⟩, ⟨"msg_1"⟩]).messageIds.length
              < (writtenDraft .published [⟨"msg_0"⟩, ⟨"msg_1"⟩]).segments.length := by
  have hwritten : written .posting
      = .ok (some (writtenDraft .published [⟨"msg_0"⟩, ⟨"msg_1"⟩])) :=
    written_eq_ok (by decide +kernel)
  exact ⟨hwritten, drafts_settled rfl rfl (isFreshShape_writingSession .posting) _ hwritten⟩

/-- The platform that posts at the top, and crashes when it is asked for a reply. -/
def crashingScript : Platform.Script :=
  { Platform.Script.posting with reply := fun _ => .crash 0 }

/-- A deed comes to its end in a session: it gives an answer. -/
def Deed.Completes : Deed → Session → Prop
  | .enter raw, s => (execute builtins raw s).1.isOk = true
  | .publish input, s => (input.publish s).1.isOk = true
  | .pass _, _ => True

/-- **A record is not always settled** when every deed has come to its end.  Where the platform
crashes, the command that creates a thread is reported as failed, and the thread is still being
published. -/
theorem drafts_unsettled :
    ¬ ∀ (s : Session) (deeds : List Deed), s.drafts = .memory .empty → s.faults = .none →
      (∀ n, (s.ids n).isFreshShape = true) →
      (∀ earlier deed later, deeds = earlier ++ deed :: later →
        deed.Completes (after s earlier)) →
      ∀ id r, (Drafts.fetch id (after s deeds).drafts).1 = .ok (some r) → r.Settled := by
  intro h
  have hcompletes (earlier : List Deed) (deed : Deed) (later : List Deed)
      (hdeeds : [.enter "create-thread x"] = earlier ++ deed :: later) :
      deed.Completes (after (writingSession crashingScript) earlier) := by
    cases earlier with
    | nil =>
      cases hdeeds
      show (execute builtins "create-thread x" (writingSession crashingScript)).1.isOk = true
      decide +kernel
    | cons first earlier => simp at hdeeds
  have hwritten : written crashingScript = .ok (some (writtenDraft .publishing [⟨"msg_0"⟩])) :=
    written_eq_ok (by decide +kernel)
  have hsettled := h (writingSession crashingScript) _ rfl rfl
    (isFreshShape_writingSession crashingScript) hcompletes _ _ hwritten
  cases hsettled.isTerminal

end PostingTerminal.Terminal
