import PostingTerminal.Proofs.Attempt.Asking
import PostingTerminal.Proofs.Llm.Threads

/-!
# Generated threads

A thread that a language model has written is read out of a text inside an answer inside a reply,
and published.

* `generateAndPublish_of_written`, `generateAndPublish_of_unwritten`, `generateAndPublish_of_halted`
  — what becomes of content once it is there, or is known not to come, or never comes.
* `publishAbout_message` — an attempt with segments that leaves no draft says so in other words than
  one without segments.
* `generated_threads` — **a writer with consistent settings decodes every thread that it is
  answered, and never gives a number of segments outside its bounds**; so content that it gives is
  never reported as missing.
-/

namespace PostingTerminal.Llm

open Run Attempt

/-! ## Content and what becomes of it -/

variable {topic : String} {s s' : Session}

/-- Content that has been written is published. -/
theorem generateAndPublish_of_written {segments : List Segment}
    (h : (Input.about topic).content s = (.ok (.ok segments), s')) (hsegments : segments ≠ []) :
    generateAndPublish topic s = publishAbout (some topic) segments s' := by
  have hpublish := (Input.about topic).publish_eq s
  rw [h] at hpublish
  exact hpublish.resolve_right fun hnone => hsegments hnone.1

/-- Content that does not come is reported with the cause. -/
theorem generateAndPublish_of_unwritten {e : Error}
    (h : (Input.about topic).content s = (.ok (.error e), s')) :
    generateAndPublish topic s
      = (.ok (.rejected ("Failed to generate thread content: " ++ e.message) []), s') := by
  obtain ⟨context, s₁, hcontext⟩ := generationContext_ok s
  obtain ⟨memories, s₂, hmemories⟩ := generationMemories_ok topic s₁
  have hgenerate : generate topic context memories s₂ = (.ok (.error e), s') := by
    unfold Input.content at h
    simpa only [bind_ok hcontext, bind_ok hmemories] using h
  unfold generateAndPublish
  simp only [bind_ok hcontext, bind_ok hmemories]
  exact bind_ok hgenerate

/-- Content that never comes leaves an attempt without an end. -/
theorem generateAndPublish_of_halted {halt : Halt}
    (h : (Input.about topic).content s = (.error halt, s')) :
    generateAndPublish topic s = (.error halt, s') := by
  have hpublish := (Input.about topic).publish_eq s
  rw [h] at hpublish
  exact hpublish

/-- The message of an attempt that was given no segments. -/
def noSegmentsMessage : String := "content generation produced no segments"

/-- A message that starts with another character than the one of missing segments. -/
def StartsApart (message : String) : Prop := ∃ c cs, message.toList = c :: cs ∧ c ≠ 'c'

/-- It does so with anything behind it. -/
theorem StartsApart.append {front : String} (h : StartsApart front) (rest : String) :
    StartsApart (front ++ rest) := by
  obtain ⟨c, cs, hfront, hc⟩ := h
  exact ⟨c, cs ++ rest.toList, by rw [String.toList_append, hfront, List.cons_append], hc⟩

/-- A message that starts apart is not the one about missing segments. -/
theorem StartsApart.ne {message : String} (h : StartsApart message) :
    message ≠ noSegmentsMessage := by
  rintro rfl
  obtain ⟨c, cs, hlist, hc⟩ := h
  exact hc (List.cons.inj (show 'c' :: _ = c :: cs from hlist)).1.symm

/-- A rejection starts so, whatever it is. -/
theorem startsApart_rejection (reason : Rejection) : StartsApart reason.message := by
  cases reason with
  | noContent => exact ⟨_, _, rfl, by decide⟩
  | tooLong position count limit =>
    have hfront : StartsApart "Tweet content exceeds character limit: segment " :=
      ⟨_, _, rfl, by decide⟩
    exact (((((hfront.append _).append _).append _).append _).append _).append _

/-- **An attempt with segments that leaves no draft** says why in words of its own. -/
theorem publishAbout_message {segments : List Segment} {p : Publication}
    (h : publishAbout (some topic) segments s = (.ok p, s')) (hdraft : p.draftId = none) :
    p.message ≠ noSegmentsMessage := by
  cases hrejected : rejection? s.settings.thread.maxSegmentChars segments with
  | some reason =>
    rw [publishAbout_rejected hrejected] at h
    cases h
    exact (startsApart_rejection reason).ne
  | none =>
    obtain ⟨events, hreaches⟩ := publishAbout_reaches (some topic) hrejected
    have hcourse := course_of_reaches hreaches
    rw [h] at hcourse
    cases hcourse with
    | unsaved e =>
      have hfront : StartsApart "Failed to save draft: " := ⟨_, _, rfl, by decide⟩
      exact (hfront.append _).ne
    | finished => cases hdraft

/-! ## A writer with consistent settings -/

/-- Consistent settings ask for a segment at least. -/
theorem minSegments_pos {settings : Settings} (h : settings.validate = .ok ()) :
    0 < settings.thread.minSegments := by
  unfold Settings.validate at h
  dsimp only at h
  split at h
  · cases h
  split at h
  · cases h
  · omega

/-- An attempt over a model never comes to an end without segments. -/
theorem generateAndPublish_message {writer : Writer} {service : Service} {p : Publication}
    (hleast : 0 < writer.minSegments) (hgenerator : s.generator = .model writer service)
    (h : generateAndPublish topic s = (.ok p, s')) (hdraft : p.draftId = none) :
    p.message ≠ noSegmentsMessage := by
  obtain ⟨context, memories, s₁, hcontent, hkept⟩ := content_about topic s
  have hasked : (s₁.generator.ask topic context memories s₁.generateCount).1
      = (writer.write topic context memories service).1 := by
    rw [hkept, hgenerator]
    rfl
  rw [generate_eq, hasked] at hcontent
  rcases hwrite : (writer.write topic context memories service).1 with
    ⟨delay, e | segments⟩ | delay | _
  all_goals rw [hwrite] at hcontent
  · rw [generateAndPublish_of_unwritten hcontent] at h
    cases h
    have hfront : StartsApart "Failed to generate thread content: " := ⟨_, _, rfl, by decide⟩
    exact (hfront.append _).ne
  · have hsegments : segments ≠ [] := by
      rintro rfl
      have hnone : writer.minSegments ≤ 0 := (write_within hwrite).1
      omega
    rw [generateAndPublish_of_written hcontent hsegments] at h
    exact publishAbout_message h hdraft
  · cases h.symm.trans (generateAndPublish_of_halted hcontent)
  · cases h.symm.trans (generateAndPublish_of_halted hcontent)

/-- **Generated threads are decoded exactly and bounded.**  Let a writer have settings that are
consistent.

* If the service replies with status 200 and an object of its format whose first text holds a thread
  between other texts, the writer gives the segments of the thread, in order, as soon as the reply
  is there: their contents without the blanks at the ends, their marks for media, and no media.  If
  their number is outside the bounds of the settings, it gives an error of the language model.
* Whatever comes of the request, a reply of whatever status or none, the number of segments that the
  writer gives is within the bounds.
* So no attempt to have a thread written and to publish it ends in the message that there were no
  segments.  (An attempt that leaves a draft may pass on what the platform says, in any words.) -/
theorem generated_threads {settings : Settings} (hvalid : settings.validate = .ok ())
    (client : Client) (agentName : String) :
    (∀ topic context memories service delay answer tweets, client.Answered service delay answer →
      IsAnswer answer tweets →
        if settings.thread.minSegments ≤ tweets.length ∧
            tweets.length ≤ settings.thread.maxSegments then
          ((Writer.new client agentName settings.thread).write topic context memories service).1
            = .answer delay
              (.ok (tweets.map fun t => ⟨Text.trimmed t.content, t.mediaIncluded, []⟩))
        else ∃ cause,
          ((Writer.new client agentName settings.thread).write topic context memories service).1
            = .answer delay (.error (.llm cause))) ∧
      (∀ topic context memories service delay segments,
        ((Writer.new client agentName settings.thread).write topic context memories service).1
            = .answer delay (.ok segments) →
          settings.thread.minSegments ≤ segments.length ∧
            segments.length ≤ settings.thread.maxSegments) ∧
      ∀ topic service s p s',
        s.generator = .model (Writer.new client agentName settings.thread) service →
          generateAndPublish topic s = (.ok p, s') → p.draftId = none →
            p.message ≠ "content generation produced no segments" := by
  refine ⟨?_, ?_, ?_⟩
  · intro topic context memories service delay answer tweets hanswered hanswer
    have hsegments := segmentsOf_of_isAnswer hanswer (.new client agentName settings.thread)
    rw [write_of_answered hanswered, hsegments]
    split
    · next h =>
      have hadmits : (Writer.new client agentName settings.thread).Admits tweets.length := h
      rw [if_pos hadmits]
      rfl
    · next h =>
      have hrefused : ¬ (Writer.new client agentName settings.thread).Admits tweets.length := h
      rw [if_neg hrefused]
      exact ⟨_, rfl⟩
  · intro topic context memories service delay segments h
    exact write_within h
  · intro topic service s p s' hgenerator h hdraft
    exact generateAndPublish_message (minSegments_pos hvalid) hgenerator h hdraft

/-- Segments with quotes, a backslash and braces of their own, and blanks around them. -/
def bracedTweets : List Written :=
  [⟨" \x7b\"a\": \\\x7d ", true⟩, ⟨"\n😀\x7d", false⟩]

/-- An answer with the thread of these segments between texts that hold braces too. -/
def bracedAnswer : String :=
  String.ofList ("\x7d Sure: ".toList ++ ((threadJson bracedTweets).pretty 0 ++ " \x7b".toList))

/-- A service that replies with the answer and another text, after a second. -/
def bracedService : Service :=
  .new fun _ =>
    .answer 1000 (.ok ⟨200, (Format.openAI.replyJson [bracedAnswer, "more"]).compactText⟩)

/-- The answer with a brace in its tweets is an answer. -/
theorem isAnswer_bracedAnswer : IsAnswer bracedAnswer bracedTweets :=
  ⟨_, _, _, by decide, by decide, isThread_layout .pretty bracedTweets, rfl⟩

/-- The service answers with it. -/
theorem answered_bracedService :
    (⟨"key", .openAI, "model"⟩ : Client).Answered bracedService 1000 bracedAnswer where
  sent := by decide
  reply := ⟨[], _, [], ["more"], Json.isGap_nil, Json.isGap_nil,
    isReply_layout .compact .openAI [bracedAnswer, "more"], by
      rw [List.nil_append, List.append_nil]
      rfl⟩

/-- The segments of such an answer are given as they were written. -/
theorem generated_threads_braced :
    Settings.default.validate = .ok () ∧
      ((Writer.new ⟨"key", .openAI, "model"⟩ "agent" Settings.default.thread).write "topic" "" ""
        bracedService).1
        = .answer 1000
          (.ok [⟨"\x7b\"a\": \\\x7d", true, []⟩, ⟨"😀\x7d", false, []⟩]) := by
  have hvalid : Settings.default.validate = .ok () := rfl
  refine ⟨hvalid, ?_⟩
  have hwrite := (generated_threads hvalid ⟨"key", .openAI, "model"⟩ "agent").1 "topic" "" "" _ _ _ _
    answered_bracedService isAnswer_bracedAnswer
  rw [if_pos (by decide)] at hwrite
  exact hwrite

end PostingTerminal.Llm
