import PostingTerminal.Proofs.Attempt.Course

/-!
# The reply chain

The posts of an attempt whose record has been begun and marked form a chain: the first is at
the top, every other replies to the id that the one before it has yielded, and each carries
the segment of its own position under a key of its own.  The chain goes on exactly as long as
ids are yielded and segments are left.

* `Chained` — the shape of such a chain, post by post.
* `Posted` — the invariant behind it: which ids the posts have yielded and which of them each
  post replies to.
* `reply_chain` — **the posts of every attempt are chained**, and its result has exactly the
  ids that were yielded.

Nothing here depends on whether an id could be recorded or a text remembered.
-/

namespace PostingTerminal.Attempt

/-- Posts that chain the segments of a draft. -/
structure Chained (id : DraftId) (segments : List Segment) (posts : List Post) : Prop where
  /-- There is a first post. -/
  begun : posts ≠ []
  /-- A post carries the segment at its position, and a key made from it. -/
  carries : ∀ (i : Nat) (p : Post), posts[i]? = some p → ∃ x, segments[i]? = some x ∧
    p.request.text = x.content ∧ p.request.mediaUrls = x.mediaUrls ∧
      p.request.key = id.text ++ ":" ++ toString i
  /-- The first post is at the top. -/
  top : ∀ p : Post, posts[0]? = some p → p.parent = none
  /-- Every other post replies to the id that the one before it has yielded. -/
  replies : ∀ (i : Nat) (p q : Post), posts[i]? = some p → posts[i + 1]? = some q →
    ∃ message, p.answer.id? = some message ∧ q.parent = some message
  /-- Another post follows exactly if an id was yielded and a segment is left. -/
  continues : ∀ (i : Nat) (p : Post), posts[i]? = some p →
    (i + 1 < posts.length ↔ p.answer.id?.isSome = true ∧ i + 1 < segments.length)

/-! ## Posts in line -/

/-- Posts that carry the leading segments, each with the last of the ids before it. -/
def InLine (id : DraftId) (segments : List Segment) (ids : List MessageId) (posts : List Post) :
    Prop :=
  ∀ (i : Nat) (p : Post), posts[i]? = some p → p.parent = (ids.take i).getLast? ∧
    ∃ x, segments[i]? = some x ∧ p.request = postRequest id i x

/-- A post is put in line after posts that have all yielded an id. -/
theorem InLine.snoc {id : DraftId} {posted rest : List Segment} {ids more : List MessageId}
    {posts : List Post} {p : Post} {x : Segment} (h : InLine id posted ids posts)
    (hposts : posts.length = ids.length) (hids : ids.length = posted.length)
    (hparent : p.parent = ids.getLast?) (hrequest : p.request = postRequest id posted.length x) :
    InLine id (posted ++ x :: rest) (ids ++ more) (posts ++ [p]) := by
  intro i q hq
  rcases Nat.lt_or_ge i posts.length with hi | hi
  · rw [List.getElem?_append_left hi] at hq
    obtain ⟨hqparent, y, hy, hqrequest⟩ := h i q hq
    refine ⟨?_, y, ?_, hqrequest⟩
    · rw [hqparent, List.take_append_of_le_length (by omega)]
    · rw [List.getElem?_append_left (by omega), hy]
  · have hlast : i = posted.length := by
      have hshort := (List.getElem?_eq_some_iff.1 hq).1
      rw [List.length_append, List.length_singleton] at hshort
      omega
    subst hlast
    rw [← hids, ← hposts, List.getElem?_concat_length] at hq
    cases hq
    refine ⟨?_, x, ?_, hrequest⟩
    · rw [hparent, ← hids, List.take_left]
    · rw [List.getElem?_append_right (Nat.le_refl _), Nat.sub_self]
      rfl

/-- Every post of rounds has yielded its id. -/
theorem Rounds.answers {id : DraftId} {posted : List Segment} {ids : List MessageId}
    {events : List Event} (h : Rounds id posted ids events) :
    (postsOf events).map (·.answer.id?) = ids.map some := by
  induction h with
  | start => rfl
  | @round posted ids events x message time answer recorded remembered before yields ih =>
    rw [postsOf_append, List.map_append, List.map_append, ih]
    show _ ++ [answer.id?] = _
    rw [yields]
    rfl

/-- There is a post for every id. -/
theorem Rounds.posts_length {id : DraftId} {posted : List Segment} {ids : List MessageId}
    {events : List Event} (h : Rounds id posted ids events) :
    (postsOf events).length = ids.length := by
  have hlength := congrArg List.length h.answers
  rwa [List.length_map, List.length_map] at hlength

/-- The posts of rounds are in line. -/
theorem Rounds.inLine {id : DraftId} {posted : List Segment} {ids : List MessageId}
    {events : List Event} (h : Rounds id posted ids events) :
    InLine id posted ids (postsOf events) := by
  induction h with
  | start =>
    intro i p hp
    have hnone : (postsOf [])[i]? = none := List.getElem?_nil
    rw [hnone] at hp
    cases hp
  | round before yields ih =>
    rw [postsOf_append]
    exact ih.snoc before.posts_length before.length_eq rfl rfl

/-- The posts of an attempt: in line, each with the id that it has yielded, and one more
without an id unless every segment has got one. -/
structure Posted (id : DraftId) (segments : List Segment) (ids : List MessageId)
    (posts : List Post) : Prop where
  line : InLine id segments ids posts
  answers : posts.map (·.answer.id?) = ids.map some ++
    (if ids.length = segments.length then [] else [none])
  within : ids.length ≤ segments.length

section posted

variable {id : DraftId} {segments posted rest : List Segment} {ids : List MessageId}
  {posts : List Post} {events : List Event} {x : Segment}

/-- Rounds that leave no segment. -/
theorem Rounds.posted_all (h : Rounds id segments ids events) :
    Posted id segments ids (postsOf events) := by
  refine ⟨h.inLine, ?_, Nat.le_of_eq h.length_eq⟩
  rw [h.answers, if_pos h.length_eq, List.append_nil]

/-- Rounds and a last post without an id. -/
theorem Rounds.posted_last (h : Rounds id posted ids events) {p : Post}
    (hleft : segments = posted ++ x :: rest) (hparent : p.parent = ids.getLast?)
    (hrequest : p.request = postRequest id posted.length x) (hid : p.answer.id? = none) :
    Posted id segments ids (postsOf events ++ [p]) := by
  have hshort := h.length_lt hleft
  refine ⟨?_, ?_, Nat.le_of_lt hshort⟩
  · rw [hleft, ← List.append_nil ids]
    exact h.inLine.snoc h.posts_length h.length_eq hparent hrequest
  · rw [List.map_append, h.answers, if_neg (Nat.ne_of_lt hshort)]
    show _ ++ [p.answer.id?] = _
    rw [hid]

namespace Posted

variable (h : Posted id segments ids posts)
include h

/-- A post has yielded the id at its position, if there is one. -/
theorem id?_eq {i : Nat} {p : Post} (hp : posts[i]? = some p) : p.answer.id? = ids[i]? := by
  have hanswer : (posts.map (·.answer.id?))[i]? = some p.answer.id? := by
    rw [List.getElem?_map, hp]
    rfl
  rw [h.answers] at hanswer
  rcases Nat.lt_or_ge i ids.length with hi | hi
  · rw [List.getElem?_append_left (by simpa using hi)] at hanswer
    rw [List.getElem?_eq_getElem hi]
    simpa [List.getElem?_eq_getElem hi] using hanswer.symm
  · rw [List.getElem?_append_right (by simpa using hi)] at hanswer
    rw [List.getElem?_eq_none hi]
    split at hanswer
    · simp at hanswer
    · have hmem := List.mem_of_getElem? hanswer
      simpa using hmem

/-- There is a post for every id, and one more if a segment is left. -/
theorem length_eq :
    posts.length = if ids.length = segments.length then ids.length else ids.length + 1 := by
  have hlength := congrArg List.length h.answers
  rw [List.length_map, List.length_append, List.length_map] at hlength
  rw [hlength]
  split <;> rfl

/-- **The posts of an attempt are chained.** -/
theorem chained (hsegments : segments ≠ []) : Chained id segments posts := by
  have hpositive : 0 < segments.length := List.length_pos_iff.2 hsegments
  have hlength := h.length_eq
  have hwithin := h.within
  refine ⟨?_, ?_, ?_, ?_, ?_⟩
  · rintro rfl
    simp only [List.length_nil] at hlength
    split at hlength <;> omega
  · intro i p hp
    obtain ⟨-, x, hx, hrequest⟩ := h.line i p hp
    rw [hrequest]
    exact ⟨x, hx, rfl, rfl, rfl⟩
  · intro p hp
    exact (h.line 0 p hp).1
  · intro i p q hp hq
    have hi : i + 1 < posts.length := (List.getElem?_eq_some_iff.1 hq).1
    have hids : i < ids.length := by split at hlength <;> omega
    refine ⟨ids[i], ?_, ?_⟩
    · rw [h.id?_eq hp, List.getElem?_eq_getElem hids]
    · rw [(h.line (i + 1) q hq).1, List.getLast?_take, if_neg (Nat.succ_ne_zero i),
        Nat.add_sub_cancel, List.getElem?_eq_getElem hids]
      rfl
  · intro i p hp
    have hi : i < posts.length := (List.getElem?_eq_some_iff.1 hp).1
    have hsome : ids[i]?.isSome = true ↔ i < ids.length := by simp
    rw [h.id?_eq hp, hsome]
    split at hlength <;> omega

end Posted

end posted

/-! ## The posts of a run -/

section run

variable {topic : Option String} {segments : List Segment} {s s₁ s₂ : Session}

/-- An attempt whose record has been begun and marked has these two calls behind it. -/
theorem begun_of_reaches {events : List Event} {result : Except Halt Publication × Session}
    (hpersist : Run.persist (draftOf topic segments s) (first topic segments s).session
      = (.ok (.ok ()), s₁))
    (hupdate : Run.updateStatus (draftOf topic segments s).id .publishing s₁
      = (.ok (.ok ()), s₂))
    (hpath : Reaches (first topic segments s) events (.ofResult result)) :
    ∃ rest, events = begun (draftOf topic segments s) ++ rest := by
  obtain ⟨rest, hrest, rfl⟩ :=
    hpath.of_step (.persist hpersist) (course_of_reaches hpath).ne_nil
  have hne : rest ≠ [] := by
    intro hnil
    have hended := hrest.eq_of_nil hnil
    cases hended
  obtain ⟨rest, -, rfl⟩ := hrest.of_step (.update hupdate) hne
  exact ⟨rest, rfl⟩

/-- What the result of an attempt says about its posts. -/
def Tells (segments : List Segment) (events : List Event) : Except Halt Publication → Prop
  -- it has the ids that were yielded, and is a success if every segment has got one
  | .ok p => p.messageIds = yieldedOf events ∧ p.threadId = (yieldedOf events).head? ∧
      (p.success = true ↔ (yieldedOf events).length = segments.length)
  -- there is none only if the last post has never been answered
  | .error halt => ∃ p, (postsOf events).getLast? = some p ∧ p.answer = .lost halt

/-- What an attempt with its draft begun and marked does, whatever is answered. -/
theorem chained_of_course {d : Draft} {result : Except Halt Publication} {events rest : List Event}
    (hcourse : Course d result events) (hbegun : events = begun d ++ rest)
    (hsegments : d.segments ≠ []) :
    Chained d.id d.segments (postsOf events) ∧ Tells d.segments events result := by
  have hposts {rounds more : List Event} :
      postsOf (begun d ++ rounds ++ more) = postsOf rounds ++ postsOf more := by
    rw [postsOf_append, postsOf_append]
    rfl
  cases hcourse with
  | unsaved e => cases hbegun
  | @lost posted ids rounds x left time h hleft halt =>
    let p : Post := ⟨ids.getLast?, postRequest d.id posted.length x, time, .lost halt⟩
    have hposted : Posted d.id d.segments ids (postsOf rounds ++ [p]) :=
      h.posted_last hleft rfl rfl rfl
    refine ⟨?_, (Course.lost h hleft halt).lost_post⟩
    rw [hposts]
    exact hposted.chained hsegments
  | @finished status ids message events hconcluded time answer =>
    have hyielded := (Course.finished hconcluded time answer).yielded
    suffices hposted : (status = .published ↔ ids.length = d.segments.length) ∧
        Posted d.id d.segments ids (postsOf events) by
      rw [Tells, ← hyielded, postsOf_append]
      refine ⟨?_, rfl, rfl, ?_⟩
      · show Chained d.id d.segments (postsOf events ++ [])
        rw [List.append_nil]
        exact hposted.2.chained hsegments
      · show _ ↔ ids.length = d.segments.length
        rw [← hposted.1]
        exact decide_eq_true_iff
    cases hconcluded with
    | unstarted e => cases hbegun
    | published h =>
      rw [postsOf_append]
      exact ⟨iff_of_true rfl h.length_eq, h.posted_all⟩
    | @stopped posted ids rounds x left time answer e h hleft hanswer =>
      rw [hposts]
      exact ⟨iff_of_false nofun (Nat.ne_of_lt (h.length_lt hleft)),
        h.posted_last hleft rfl rfl (Answer.id?_eq_none hanswer)⟩

/-- What the posts of an attempt that leaves a session with a result are. -/
structure ReplyChain (topic : Option String) (segments : List Segment) (s : Session)
    (result : Except Halt Publication × Session) (events : List Event) : Prop where
  /-- They are those that its calls make on the way to its end. -/
  path : Reaches (first topic segments s) events (.ofResult result)
  /-- The platform is called for them and for nothing else. -/
  calls : result.2.journal.filter Call.isPost
    = s.journal.filter Call.isPost ++ (postsOf events).map Post.call
  /-- They chain the segments. -/
  chained : Chained (draftOf topic segments s).id segments (postsOf events)
  /-- The result tells what they have yielded. -/
  tells : Tells segments events result.1

/-- The posts among the calls of events are the calls of the posts. -/
theorem filter_isPost_call (events : List Event) :
    (events.map Event.call).filter Call.isPost = (postsOf events).map Post.call := by
  induction events with
  | nil => rfl
  | cons e rest ih =>
    cases e with
    | posted p => exact congrArg (p.call :: ·) ih
    | _ => exact ih

/-- The posts of a path are those that the platform has had more. -/
theorem Reaches.postCount {start m : Moment} {events : List Event}
    (h : Reaches start events m) :
    m.session.postCount = start.session.postCount + (postsOf events).length := by
  rw [Session.postCount, h.notes.journal, List.filter_append, filter_isPost_call,
    List.length_append, List.length_map]
  rfl

/-- **The posts of an attempt form a reply chain.**  If there are segments, all of them within
the limit, and the record of the draft has been begun and marked as being published, then
the platform is called for the segments in order, each call but the first replying to the id
that the one before it has yielded, for as long as ids are yielded; and the result has
exactly these ids. -/
theorem reply_chain (hsegments : segments ≠ [])
    (hlimit : ∀ x ∈ segments, x.charCount ≤ s.settings.thread.maxSegmentChars)
    (hpersist : Run.persist (draftOf topic segments s) (first topic segments s).session
      = (.ok (.ok ()), s₁))
    (hupdate : Run.updateStatus (draftOf topic segments s).id .publishing s₁
      = (.ok (.ok ()), s₂)) :
    ∃ events, ReplyChain topic segments s (publishAbout topic segments s) events := by
  have haccepted := rejection?_eq_none_iff.2 ⟨hsegments, hlimit⟩
  obtain ⟨events, hpath⟩ := publishAbout_reaches topic haccepted
  obtain ⟨rest, hbegun⟩ := begun_of_reaches hpersist hupdate hpath
  obtain ⟨hchained, htells⟩ := chained_of_course (course_of_reaches hpath) hbegun hsegments
  refine ⟨events, hpath, ?_, hchained, htells⟩
  have hjournal := hpath.notes_first.journal
  change (publishAbout topic segments s).2.journal = _ at hjournal
  rw [hjournal, List.filter_append, filter_isPost_call]

/-- A session in which the first id cannot be written. -/
def unrecordedSession : Session :=
  emptySession (.scripted .posting) fun m n =>
    if m = .record ∧ n = 0 then some ⟨false, .handler "full"⟩ else none

/-- Two segments are chained there. -/
theorem reply_chain_pair :
    ∃ events, ReplyChain none [.ofText "a", .ofText "b"] unrecordedSession
      (publishAbout none [.ofText "a", .ofText "b"] unrecordedSession) events :=
  reply_chain (by simp) (by decide) rfl rfl

end run

end PostingTerminal.Attempt
