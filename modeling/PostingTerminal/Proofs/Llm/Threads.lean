import PostingTerminal.Llm.Thread
import PostingTerminal.Proofs.Llm.Replies

/-!
# Threads in an answer

* `IsTweet` and `IsThread` — the texts of a written segment and of a thread, in any form and with
  any other members.
* `bracedPart_eq` — **a thread is found between texts around it**, whatever braces it holds itself.
* `IsAnswer` — an answer in which a thread stands between such texts.
* `segmentsOf_of_isAnswer` — the segments of such an answer are those of the thread, if their number
  is within the bounds.
* `segmentsOf_within` — the segments of any answer are within the bounds.
-/

namespace PostingTerminal.Llm

open Json

/-! ## The texts of a thread -/

/-- The members of a written segment.  The mark for media may be left out where it is not set. -/
structure TweetMembers (members : List (String × List Char)) (t : Written) : Prop where
  content : ∃ text, valuesOf "content" members = [text] ∧ Quotes text t.content
  media : valuesOf "media_included" members = [Value.compact (.bool t.mediaIncluded)] ∨
    valuesOf "media_included" members = [] ∧ t.mediaIncluded = false
  others : ∀ m ∈ members, m.1 ∉ ["content", "media_included"] → IsJson m.2

/-- **A text of a written segment.** -/
def IsTweet (text : List Char) (t : Written) : Prop :=
  ∃ members, IsObject text members ∧ TweetMembers members t

/-- The members of a thread.  Topic and main points may be left out. -/
structure ThreadMembers (members : List (String × List Char)) (tweets : List Written) : Prop where
  tweets : ∃ text, valuesOf "thread_tweets" members = [text] ∧ IsList IsTweet text tweets
  topic : valuesOf "topic" members = [] ∨ ∃ text, valuesOf "topic" members = [text] ∧
    (text = Value.compact .null ∨ ∃ topic, Quotes text topic)
  points : valuesOf "main_points" members = [] ∨ ∃ text points,
    valuesOf "main_points" members = [text] ∧ IsList Quotes text points
  others : ∀ m ∈ members, m.1 ∉ ["topic", "main_points", "thread_tweets"] → IsJson m.2

/-- **A text of a thread.** -/
def IsThread (text : List Char) (tweets : List Written) : Prop :=
  ∃ members, IsObject text members ∧ ThreadMembers members tweets

/-- **An answer with a thread in it**, behind a text without an opening brace and before a text
without a closing brace. -/
def IsAnswer (answer : String) (tweets : List Written) : Prop :=
  ∃ before thread behind, '{' ∉ before ∧ '}' ∉ behind ∧ IsThread thread tweets ∧
    answer = String.ofList (before ++ (thread ++ behind))

/-! ## Reading them -/

/-- What the value under a key makes of a segment whose values are those of another. -/
def Written.put (t : Written) (key : String) (u : Written) : Written :=
  if key = "content" then { u with content := t.content }
  else if key = "media_included" then { u with mediaIncluded := t.mediaIncluded }
  else u

/-- The content after a member has been put. -/
theorem Written.content_put (t : Written) (key : String) (u : Written) :
    (t.put key u).content = if key = "content" then t.content else u.content := by
  unfold put
  split_ifs <;> rfl

/-- The note about media after a member has been put. -/
theorem Written.mediaIncluded_put (t : Written) (key : String) (u : Written) :
    (t.put key u).mediaIncluded
      = if key = "media_included" then t.mediaIncluded else u.mediaIncluded := by
  unfold put
  split_ifs with hcontent hmedia
  · rw [hcontent] at hmedia
    exact absurd hmedia (by decide)
  · rfl
  · rfl
  · rfl

/-- Two written segments with the same members are the same. -/
theorem Written.eq_of {t u : Written} (hcontent : t.content = u.content)
    (hmedia : t.mediaIncluded = u.mediaIncluded) : t = u := by
  cases t
  cases u
  simp_all

/-- A written segment is read from every text of it. -/
theorem isTweet_reads {text : List Char} {t : Written} (h : IsTweet text t) :
    Written.record.decoder.Reads text t := by
  obtain ⟨members, hobject, ⟨content, hcontent, hquotes⟩, hmedia, hothers⟩ := h
  have hreads : Written.record.decoder.Reads text
      (members.foldl (fun u m => t.put m.1 u) Written.record.blank) := by
    apply record_reads_isObject hobject
    · simp only [Written.record, List.forall_mem_cons]
      refine ⟨?_, ?_, List.forall_mem_nil _⟩
      · exact supplies_required hcontent (string_reads_of_quotes hquotes)
      · rcases hmedia with hmedia | ⟨hmedia, -⟩
        · exact supplies_defaulted hmedia (flag_reads _)
        · exact .absent hmedia rfl
    · intro m hm hunknown
      have hunknown : m.1 ∉ ["content", "media_included"] := hunknown
      obtain ⟨hcontent, hmedia⟩ : m.1 ≠ "content" ∧ m.1 ≠ "media_included" := by
        simpa using hunknown
      refine ⟨hothers m hm hunknown, funext fun u => ?_⟩
      rw [Written.put, if_neg hcontent, if_neg hmedia]
      rfl
  have hcontents := foldl_put t.content_put members Written.record.blank
  have hmarks := foldl_put t.mediaIncluded_put members Written.record.blank
  rw [hcontent, if_neg (List.cons_ne_nil _ _)] at hcontents
  have hmarks : (members.foldl (fun u m => t.put m.1 u) Written.record.blank).mediaIncluded
      = t.mediaIncluded := by
    rcases hmedia with hmedia | ⟨hmedia, hnone⟩
    · rw [hmarks, hmedia, if_neg (List.cons_ne_nil _ _)]
    · rw [hmarks, hmedia, if_pos rfl, hnone]
      rfl
  have hresult : members.foldl (fun u m => t.put m.1 u) Written.record.blank = t :=
    Written.eq_of hcontents hmarks
  exact hresult ▸ hreads

/-- A written segment starts with its bracket. -/
theorem IsTweet.isItem {text : List Char} {t : Written} (h : IsTweet text t) : IsItem text := by
  obtain ⟨members, ⟨body, rfl, -⟩, -⟩ := h
  exact ⟨_, _, rfl, by decide, by decide⟩

/-- **A thread is read from every text of it**, with topic and main points or without. -/
theorem isThread_reads {text : List Char} {tweets : List Written} (h : IsThread text tweets) :
    threadRecord.decoder.Reads text tweets := by
  obtain ⟨members, hobject, ⟨value, hvalue, htweets⟩, htopic, hpoints, hothers⟩ := h
  have hreads : threadRecord.decoder.Reads text
      (members.foldl (fun ts m => decidedBy "thread_tweets" tweets m.1 ts)
        threadRecord.blank) := by
    apply record_reads_isObject hobject
    · simp only [threadRecord, List.forall_mem_cons]
      refine ⟨?_, ?_, ?_, List.forall_mem_nil _⟩
      · rcases htopic with htopic | ⟨text, htopic, rfl | ⟨topic, hquotes⟩⟩
        · exact .absent htopic rfl
        · exact supplies_defaulted htopic (optional_reads_null _)
        · exact supplies_defaulted htopic (optional_string_reads_of_quotes hquotes)
      · rcases hpoints with hpoints | ⟨text, points, hpoints, hlist⟩
        · exact .absent hpoints rfl
        · apply supplies_defaulted hpoints
          exact list_reads_isList hlist fun t s _ h => ⟨h.isItem, string_reads_of_quotes h⟩
      · apply supplies_required hvalue
        exact list_reads_isList htweets fun t tweet _ h => ⟨h.isItem, isTweet_reads h⟩
    · intro m hm hunknown
      have hunknown : m.1 ∉ ["topic", "main_points", "thread_tweets"] := hunknown
      refine ⟨hothers m hm hunknown, decidedBy_ne tweets ?_⟩
      intro heq
      exact hunknown (by simp [heq])
  rwa [foldl_decidedBy hvalue] at hreads

/-! ## Writing them -/

/-- A written segment as JSON. -/
def Written.toJson (t : Written) : Value :=
  .object [("content", .string t.content), ("media_included", .bool t.mediaIncluded)]

/-- A thread as JSON. -/
def threadJson (tweets : List Written) : Value :=
  .object [("topic", .null), ("thread_tweets", .list (tweets.map (·.toJson)))]

/-- **In every layout the object of a thread is a text of it**, whatever its segments are. -/
theorem isThread_layout (l : Layout) (tweets : List Written) :
    IsThread (l.text 0 (threadJson tweets)) tweets := by
  have htweet (t : Written) : IsTweet (l.text 2 t.toJson) t := by
    refine ⟨_, l.isObject 2 _, ⟨_, rfl, l.quotes 3 t.content⟩, .inl ?_, by simp⟩
    rw [valuesOf_map, ← l.text_bool 3]
    rfl
  exact ⟨_, l.isObject 0 _, ⟨_, rfl, l.isList 1 fun t _ => htweet t⟩,
    .inr ⟨_, rfl, .inl (l.text_null 1)⟩, .inl rfl, by simp⟩

/-! ## Finding the thread -/

/-- **A thread is found between texts around it**, whatever braces it holds itself. -/
theorem bracedPart_eq {before thread behind : List Char} {tweets : List Written}
    (hbefore : '{' ∉ before) (hbehind : '}' ∉ behind) (h : IsThread thread tweets) :
    bracedPart (before ++ (thread ++ behind)) = .ok thread := by
  obtain ⟨members, ⟨body, rfl, hrow⟩, -⟩ := h
  obtain ⟨front, hfront⟩ := hrow.eq_append
  have hopened : (before ++ ('{' :: body ++ behind)).dropWhile (· ≠ '{')
      = '{' :: body ++ behind := by
    rw [List.dropWhile_append_of_pos]
    · exact List.dropWhile_cons_of_neg (by decide)
    · intro c hc
      exact decide_eq_true fun h => hbefore (h ▸ hc)
  have hclosed : ('{' :: body ++ behind).reverse.dropWhile (· ≠ '}') = ('{' :: body).reverse := by
    rw [List.reverse_append, List.dropWhile_append_of_pos]
    · rw [hfront, List.reverse_cons, List.reverse_append]
      exact List.dropWhile_cons_of_neg (by decide)
    · intro c hc
      exact decide_eq_true fun h => hbehind (h ▸ List.mem_reverse.1 hc)
  unfold bracedPart
  rw [hopened]
  simp only [List.cons_append] at hclosed ⊢
  rw [hclosed]
  split
  · next heq => simp at heq
  · rw [List.reverse_reverse]

/-- How many segments a writer admits. -/
def Writer.Admits (w : Writer) (n : Nat) : Prop := w.minSegments ≤ n ∧ n ≤ w.maxSegments

instance (w : Writer) (n : Nat) : Decidable (w.Admits n) :=
  inferInstanceAs (Decidable (_ ∧ _))

/-- **The segments of an answer are those of the thread in it**, if their number is within the
bounds; otherwise the number is reported. -/
theorem segmentsOf_of_isAnswer {answer : String} {tweets : List Written}
    (h : IsAnswer answer tweets) (w : Writer) :
    w.segmentsOf answer
      = if w.Admits tweets.length then .ok (tweets.map (·.toSegment))
        else .error (.llm (.wrongCount w.minSegments w.maxSegments tweets.length)) := by
  obtain ⟨before, thread, behind, hbefore, hbehind, hthread, rfl⟩ := h
  have hread := (isThread_reads hthread).scanAll
  unfold Writer.segmentsOf
  rw [String.toList_ofList, bracedPart_eq hbefore hbehind hthread]
  simp only [Decoder.fromText, String.toList_ofList, hread]
  by_cases hadmits : w.Admits tweets.length
  · obtain ⟨hleast, hmost⟩ := hadmits
    rw [if_neg (by omega), if_pos ⟨hleast, hmost⟩]
  · rw [if_neg hadmits, if_pos]
    unfold Writer.Admits at hadmits
    omega

/-- **Whatever an answer is, the number of its segments is within the bounds.** -/
theorem segmentsOf_within {w : Writer} {answer : String} {segments : List Segment}
    (h : w.segmentsOf answer = .ok segments) : w.Admits segments.length := by
  unfold Writer.segmentsOf at h
  split at h
  · cases h
  split at h
  · cases h
  split at h
  · cases h
  · next written _ hbounds =>
    cases h
    rw [Writer.Admits, List.length_map]
    omega

/-- So it is whatever comes of the request. -/
theorem write_within {w : Writer} {topic context memories : String} {s : Service} {delay : Nat}
    {segments : List Segment}
    (h : (w.write topic context memories s).1 = .answer delay (.ok segments)) :
    w.Admits segments.length := by
  obtain ⟨completion, -, hresult⟩ := Response.map_eq_answer_iff.1 h
  cases completion with
  | error e => cases hresult
  | ok answer => exact segmentsOf_within hresult

/-- The segments that a writer gives are those of the answer in the reply. -/
theorem write_of_answered {w : Writer} {s : Service} {delay : Nat} {answer : String}
    (h : w.client.Answered s delay answer) (topic context memories : String) :
    (w.write topic context memories s).1 = .answer delay (w.segmentsOf answer) := by
  have hcomplete := complete_of_answered h (w.systemText context memories) (userText topic)
  unfold Writer.write
  simp only [hcomplete]
  rfl

end PostingTerminal.Llm
