import PostingTerminal.Proofs.Attempt.Keeps
import PostingTerminal.Proofs.Attempt.ReplyChain
import PostingTerminal.Proofs.Platform.DryRun

/-!
# An attempt on a dry run

A dry run answers every post, so an attempt that comes to post its segments posts all of them.
What they become is given in full by the segments and the ids of the messages.

* `thread` — the messages of a thread: the first has no parent, every other replies to the one
  before it.
* `Served` — posts that a dry run has answered, one after the other, and the dry run that is left
  by them.  The posts on every path of an attempt are served (`Reaches.served`).
* `Rounds.served` — rounds under keys that are not known add a thread to the messages, and their
  keys to those that are known.
* `Launches` — an attempt comes to post segments.  The posts of its path are then a whole thread,
  and otherwise there are none (`Course.served`).
* `publish_dryRun` — **an attempt under an id of its own that comes to post succeeds and adds its
  thread**; any other leaves the messages as they were.  Either way every post has become a message.
-/

namespace PostingTerminal

open Platform (DryRun Posted Request)

/-! ## Keys -/

/-- The digits of a number have no colon among them. -/
theorem colon_not_mem_toString (n : Nat) : ':' ∉ (toString n).toList := by
  rw [Nat.toString_eq_ofList_toDigits, String.toList_ofList]
  intro h
  exact absurd (Nat.isDigit_of_mem_toDigits (by decide) (by decide) h) (by decide)

/-- What stands before the last colon is known from the whole. -/
theorem append_colon_inj {cs ds front back : List Char} (hfront : ':' ∉ front) (hback : ':' ∉ back)
    (h : cs ++ ':' :: front = ds ++ ':' :: back) : cs = ds ∧ front = back := by
  rcases List.append_eq_append_iff.1 h with ⟨more, rfl, hmore⟩ | ⟨more, rfl, hmore⟩
  all_goals
    cases more with
    | nil =>
      cases hmore
      exact ⟨by simp, rfl⟩
    | cons c more =>
      cases hmore
      simp at hfront hback

/-- **Segments of different drafts, or at different positions, have different keys.** -/
theorem postKey_inj {id id' : DraftId} {i j : Nat} (h : postKey id i = postKey id' j) :
    id = id' ∧ i = j := by
  have hlists := congrArg String.toList h
  unfold postKey at hlists
  simp only [String.toList_append, List.append_assoc] at hlists
  obtain ⟨htext, hindex⟩ :=
    append_colon_inj (colon_not_mem_toString i) (colon_not_mem_toString j) hlists
  exact ⟨congrArg DraftId.mk (String.toList_inj.1 htext),
    eq_of_toString_eq (String.toList_inj.1 hindex)⟩

/-! ## Threads -/

/-- The messages of a thread with the ids that they are given: each has the text of its segment,
and each but the first replies to the one before it. -/
def thread (parent : Option MessageId) : List Segment → List MessageId → List Posted
  | x :: rest, id :: ids => ⟨id, parent, x.content⟩ :: thread (some id) rest ids
  | _, _ => []

section thread

variable {segments : List Segment} {ids : List MessageId}

/-- There is a message for every segment. -/
theorem length_thread (parent : Option MessageId) (h : ids.length = segments.length) :
    (thread parent segments ids).length = segments.length := by
  induction segments generalizing parent ids with
  | nil => cases ids <;> rfl
  | cons x rest ih =>
    cases ids with
    | nil => cases h
    | cons id ids => exact congrArg (· + 1) (ih (some id) (Nat.succ.inj h))

/-- A thread goes on with a reply to its last message, or begins. -/
theorem thread_concat (parent : Option MessageId) (h : ids.length = segments.length) (x : Segment)
    (id : MessageId) : thread parent (segments ++ [x]) (ids ++ [id])
      = thread parent segments ids ++ [⟨id, ids.getLast?.or parent, x.content⟩] := by
  induction segments generalizing parent ids with
  | nil =>
    cases ids with
    | nil => rfl
    | cons => cases h
  | cons y rest ih =>
    cases ids with
    | nil => cases h
    | cons first ids =>
      have hlast : ids.getLast?.or (some first) = (first :: ids).getLast?.or parent := by
        rw [List.getLast?_cons]
        cases ids.getLast? <;> rfl
      show _ :: thread (some first) (rest ++ [x]) (ids ++ [id]) = _
      rw [ih (some first) (Nat.succ.inj h), hlast]
      rfl

end thread

namespace Attempt

/-! ## Posts that are served -/

/-- Posts that a dry run has answered, one after the other, and the dry run that is left. -/
inductive Served (p : DryRun) : List Post → DryRun → Prop
  | start : Served p [] p
  | post {posts q} (before : Served p posts q) (post : Post)
      (answer : post.answer.id? = some (q.post post.parent post.request).1) :
      Served p (posts ++ [post]) (q.post post.parent post.request).2

section served

variable {p q : DryRun} {posts : List Post}

/-- Where nothing is posted, the dry run is left as it was. -/
theorem Served.eq_of_nil (h : Served p posts q) (hnil : posts = []) : q = p := by
  cases h with
  | start => rfl
  | post => simp at hnil

/-- The last of the posts is answered by what those before it have left. -/
theorem Served.last {post : Post} (h : Served p (posts ++ [post]) q) :
    ∃ q', Served p posts q' ∧ post.answer.id? = some (q'.post post.parent post.request).1 ∧
      q = (q'.post post.parent post.request).2 := by
  generalize heq : posts ++ [post] = all at h
  cases h with
  | start => simp at heq
  | post before post answer =>
    obtain ⟨rfl, hlast⟩ := List.append_inj' heq rfl
    cases hlast
    exact ⟨_, before, answer, rfl⟩

/-- Posts leave the messages numbered. -/
theorem Served.numbered (h : Served p posts q) (hp : p.Numbered) : q.Numbered := by
  induction h with
  | start => exact hp
  | post _ post _ ih => exact ih.post post.parent post.request

/-- **A dry run answers** a post at once, with the id of a message. -/
theorem ask_dryRun {s : Session} (h : s.platform = .dryRun p) (parent : Option MessageId)
    (request : Request) :
    (ask parent request s).1.id? = some (p.post parent request).1 ∧
      (ask parent request s).2.platform = .dryRun (p.post parent request).2 := by
  cases parent with
  | none =>
    have hpost := Run.postTop_eq request s
    rw [h] at hpost
    rw [ask, settled, Run.bind_ok hpost, Run.await_now]
    exact ⟨rfl, rfl⟩
  | some parent =>
    have hpost := Run.postReply_eq parent request s
    rw [h] at hpost
    rw [ask, settled, Run.bind_ok hpost, Run.await_now]
    exact ⟨rfl, rfl⟩

/-- A step posts to the dry run, or leaves it as it was. -/
theorem Step.served {m m' : Moment} {e : Event} (h : Step m e m')
    (hserved : Served p posts q) (hq : m.session.platform = .dryRun q) :
    ∃ q', m'.session.platform = .dryRun q' ∧ Served p (posts ++ postsOf [e]) q' := by
  cases e with
  | posted p =>
    obtain ⟨paused, hask⟩ := h.asked
    obtain ⟨hid, hplatform⟩ :=
      ask_dryRun (s := { m.session with elapsed := paused }) hq p.parent p.request
    rw [hask] at hid hplatform
    exact ⟨_, hplatform, hserved.post p hid⟩
  | _ =>
    have hplatform := h.keeps_stores hidesStores_platform rfl
    refine ⟨q, hplatform.trans hq, ?_⟩
    rwa [← List.append_nil posts] at hserved

/-- **The posts of a path are served.** -/
theorem Reaches.served {start m : Moment} {events : List Event} (h : Reaches start events m)
    (hp : start.session.platform = .dryRun p) :
    ∃ q, m.session.platform = .dryRun q ∧ Served p (postsOf events) q := by
  induction h with
  | here => exact ⟨p, hp, .start⟩
  | step _ step ih =>
    obtain ⟨q, hq, hserved⟩ := ih
    rw [postsOf_append]
    exact step.served hserved hq

end served

section course

variable {id : DraftId} {posted : List Segment} {ids : List MessageId} {events : List Event}
  {p q : DryRun}

/-- **Rounds under keys that are not known** add a thread to the messages, and their keys to those
that are known. -/
theorem Rounds.served (h : Rounds id posted ids events) (hserved : Served p (postsOf events) q)
    (hfresh : ∀ i, ¬ p.Knows (postKey id i)) :
    q.posted = p.posted ++ thread none posted ids ∧
      ∀ key, q.Knows key ↔ p.Knows key ∨ ∃ i < posted.length, key = postKey id i := by
  induction h generalizing q with
  | start =>
    cases hserved.eq_of_nil rfl
    refine ⟨(List.append_nil _).symm, fun key => ⟨.inl, ?_⟩⟩
    rintro (hknown | ⟨i, hi, -⟩)
    · exact hknown
    · cases hi
  | @round posted ids events x message time answer recorded remembered before yields ih =>
    rw [postsOf_append] at hserved
    obtain ⟨q, hbefore, hid, rfl⟩ := Served.last hserved
    obtain ⟨hposted, hknown⟩ := ih hbefore
    -- No position before this one has had its key, nor has another draft.
    have hunknown : ¬ q.Knows (postRequest id posted.length x).key := by
      rw [hknown]
      rintro (h | ⟨i, hi, hkey⟩)
      · exact hfresh _ h
      · exact Nat.ne_of_gt hi (postKey_inj hkey).2
    have hmessage : message = Platform.DryRun.messageId q.next := by
      rw [Platform.DryRun.post_unknown hunknown, yields] at hid
      exact Option.some.inj hid
    refine ⟨?_, fun key => ?_⟩
    · rw [Platform.DryRun.post_unknown hunknown, thread_concat none before.length_eq, hmessage,
        Option.or_none, ← List.append_assoc, ← hposted]
      rfl
    · rw [Platform.DryRun.knows_post, hknown, or_assoc, List.length_append, List.length_singleton]
      refine or_congr_right ⟨?_, ?_⟩
      · rintro (⟨i, hi, hkey⟩ | hkey)
        · exact ⟨i, Nat.lt_succ_of_lt hi, hkey⟩
        · exact ⟨posted.length, Nat.lt_succ_self _, hkey⟩
      · rintro ⟨i, hi, hkey⟩
        rcases Nat.lt_succ_iff_lt_or_eq.1 hi with hi | rfl
        · exact .inl ⟨i, hi, hkey⟩
        · exact .inr hkey

/-- What an attempt does whose posts are served: all that it set out to do, or nothing. -/
inductive Done (d : Draft) (result : Except Halt Publication) (events : List Event) : Prop
  /-- The record of the draft has been begun and marked, and every segment has been posted. -/
  | posted {ids rounds time} (hbegun : begun d <+: events) (h : Rounds d.id d.segments ids rounds)
      (hposts : postsOf events = postsOf rounds)
      (hresult : result
        = .ok (.ofDraft (d.standing .published ids time) "Thread published successfully"))
  /-- It has not, and nothing has been posted. -/
  | idle (hunbegun : ¬ begun d <+: events) (hposts : postsOf events = [])

/-- An attempt whose posts are served posts its whole thread, or nothing. -/
theorem Course.served {d : Draft} {result : Except Halt Publication}
    (h : Course d result events) (hserved : Served p (postsOf events) q) :
    Done d result events := by
  have hfinished {calls : List Event} {answer : Except Error Unit} {d : Draft} :
      postsOf (calls ++ [.finalized d answer]) = postsOf calls := by
    rw [postsOf_append]
    exact List.append_nil _
  -- An attempt stops after a post that has not yielded an id.
  have hanswered {calls : List Event} {post : Post}
      (hposts : postsOf events = postsOf (calls ++ [.posted post])) : post.answer.id? ≠ none := by
    rw [hposts, postsOf_append] at hserved
    obtain ⟨q', -, hid, -⟩ := Served.last hserved
    rw [hid]
    nofun
  cases h with
  | unsaved e => exact .idle (by simp [begun]) rfl
  | lost h left halt => exact absurd rfl (hanswered rfl)
  | finished hconcluded time answer =>
    cases hconcluded with
    | unstarted e => exact .idle (by simp [begun]) rfl
    | stopped h left answered => exact absurd (Answer.id?_eq_none answered) (hanswered hfinished)
    | published h =>
      refine .posted ?_ h hfinished rfl
      rw [List.append_assoc]
      exact List.prefix_append _ _

end course

/-! ## Attempts that come to post -/

/-- The record of the draft of an attempt is begun and marked as being published. -/
def Opens (topic : Option String) (segments : List Segment) (s : Session) : Prop :=
  ∃ s₁ s₂, Run.persist (draftOf topic segments s) (first topic segments s).session
      = (.ok (.ok ()), s₁) ∧
    Run.updateStatus (draftOf topic segments s).id .publishing s₁ = (.ok (.ok ()), s₂)

/-- An attempt comes to post segments: they are its content, there are some, all of them are within
the limit, and the record of the draft is begun and marked as being published. -/
def Launches (input : Input) (segments : List Segment) (s : Session) : Prop :=
  ∃ s₀, input.content s = (.ok (.ok segments), s₀) ∧ segments ≠ [] ∧
    (∀ x ∈ segments, x.charCount ≤ s₀.settings.thread.maxSegmentChars) ∧
    Opens input.topic? segments s₀

section supply

variable {topic : Option String} {segments : List Segment} {s : Session}

/-- The calls that begin a record and mark it stand at the start of a path exactly if they are
answered without an error. -/
theorem begun_prefix_iff {events : List Event} {result : Except Halt Publication × Session}
    (hpath : Reaches (first topic segments s) events (.ofResult result)) :
    begun (draftOf topic segments s) <+: events ↔ Opens topic segments s := by
  constructor
  · intro hbegun
    obtain ⟨answer, s₁, hpersist, -⟩ := Run.onDrafts_stores .persist
      (.persist (draftOf topic segments s))
      (fun _ => Store.Drafts.persist (draftOf topic segments s)) (first topic segments s).session
    obtain ⟨rest, hrest, rfl⟩ :=
      hpath.of_step (.persist hpersist) (course_of_reaches hpath).ne_nil
    obtain ⟨hsaved, hmarked⟩ := List.cons_prefix_cons.1 hbegun
    cases hsaved
    obtain ⟨answer, s₂, hupdate, -⟩ := Run.onDrafts_stores .update
      (.update (draftOf topic segments s).id .publishing)
      (Store.Drafts.updateStatus (draftOf topic segments s).id .publishing) s₁
    obtain ⟨rest, -, rfl⟩ := hrest.of_step (.update hupdate) (hmarked.ne_nil nofun)
    obtain ⟨hmarked, -⟩ := List.cons_prefix_cons.1 hmarked
    cases hmarked
    exact ⟨s₁, s₂, hpersist, hupdate⟩
  · rintro ⟨s₁, s₂, hpersist, hupdate⟩
    obtain ⟨rest, rfl⟩ := begun_of_reaches hpersist hupdate hpath
    exact List.prefix_append _ _

/-- The supply of ids, and how many have been taken from it. -/
def supply (s : Session) : IdSupply × Nat := (s.ids, s.idsTaken)

/-- The supply of a session does not show its calls. -/
theorem hidesCalls_supply : HidesCalls supply where
  note _ _ := rfl
  drafts _ _ := rfl
  knowledge _ _ := rfl
  platform _ _ := rfl
  elapsed _ _ := rfl

/-- An attempt with accepted segments takes one id. -/
theorem publishAbout_supply (topic : Option String)
    (haccepted : rejection? s.settings.thread.maxSegmentChars segments = none) :
    (publishAbout topic segments s).2.ids = s.ids ∧
      (publishAbout topic segments s).2.idsTaken = s.idsTaken + 1 := by
  obtain ⟨events, hpath⟩ := publishAbout_reaches topic haccepted
  have hsupply : supply (publishAbout topic segments s).2 = (s.ids, s.idsTaken + 1) :=
    hpath.keeps hidesCalls_supply
  exact ⟨congrArg Prod.fst hsupply, congrArg Prod.snd hsupply⟩

end supply

/-! ## What an attempt leaves of a dry run -/

/-- What a session posts with: its platform, how many posts that has had, and the supply of ids. -/
structure Outlet where
  platform : Platform
  postCount : Nat
  ids : IdSupply
  idsTaken : Nat

/-- What a session posts with. -/
def outlet (s : Session) : Outlet := ⟨s.platform, s.postCount, s.ids, s.idsTaken⟩

/-- Having content written leaves what a session posts with. -/
theorem keeps_outlet (input : Input) (s : Session) : Run.Keeps outlet input.content s := by
  refine keeps_content (fun s c hacts => ?_) (fun _ _ => rfl) (fun _ _ => rfl) input s
  have hpost : c.isPost = false := by cases c <;> first | rfl | cases hacts
  have hcount := s.postCount_note c
  rw [hpost] at hcount
  unfold outlet
  rw [hcount]
  rfl

/-- An attempt posts nothing and takes no id, or it publishes its content. -/
theorem Input.publish_cases (input : Input) (s : Session) :
    ((∀ segments, ¬ Launches input segments s) ∧ outlet (input.publish s).2 = outlet s) ∨
      ∃ segments s₀, input.content s = (.ok (.ok segments), s₀) ∧ outlet s₀ = outlet s ∧
        rejection? s₀.settings.thread.maxSegmentChars segments = none ∧
        input.publish s = publishAbout input.topic? segments s₀ := by
  have hkept := keeps_outlet input s
  have hcomes := input.publish_comes s
  generalize input.publish s = result at hcomes ⊢
  cases hcomes with
  | halted hcontent | unwritten hcontent =>
    refine .inl ⟨?_, hkept.outcome hcontent⟩
    rintro segments ⟨_, hown, -⟩
    cases hcontent.symm.trans hown
  | refused hcontent hrefused =>
    refine .inl ⟨?_, hkept.outcome hcontent⟩
    rintro segments ⟨_, hown, hne, hfits, -⟩
    cases hcontent.symm.trans hown
    exact hrefused (rejection?_eq_none_iff.2 ⟨hne, hfits⟩)
  | made hcontent haccepted =>
    exact .inr ⟨_, _, hcontent, hkept.outcome hcontent, haccepted, rfl⟩

/-- An attempt has succeeded, and its segments have become a thread behind the messages that were
there before. -/
def Threads (segments : List Segment) (result : Except Halt Publication)
    (before after : List Platform.Posted) : Prop :=
  ∃ publication, result = .ok publication ∧ publication.success = true ∧
    publication.messageIds.length = segments.length ∧
    after = before ++ thread none segments publication.messageIds

/-- An attempt under the next id leads from one dry run to another. -/
structure Leads (before after : Outlet) (p q : DryRun) : Prop where
  platform : after.platform = .dryRun q
  numbered : p.Numbered → q.Numbered
  /-- Every post has become a message. -/
  postCount : after.postCount + p.posted.length = before.postCount + q.posted.length
  ids : after.ids = before.ids
  idsTaken : before.idsTaken ≤ after.idsTaken
  /-- A key that has not been known before is one of the next id, which has been taken. -/
  known : ∀ key, q.Knows key → p.Knows key ∨
    before.idsTaken < after.idsTaken ∧ ∃ i, key = postKey (before.ids before.idsTaken) i

section dryRun

variable {segments : List Segment} {s : Session} {p : DryRun}

/-- **An attempt with accepted segments** posts its whole thread to a dry run, or nothing. -/
theorem publishAbout_dryRun (topic : Option String)
    (haccepted : rejection? s.settings.thread.maxSegmentChars segments = none)
    (hp : s.platform = .dryRun p) (hfresh : ∀ i, ¬ p.Knows (postKey (s.ids s.idsTaken) i)) :
    ∃ q, Leads (outlet s) (outlet (publishAbout topic segments s).2) p q ∧
      (Opens topic segments s →
        Threads segments (publishAbout topic segments s).1 p.posted q.posted) ∧
      (¬ Opens topic segments s → q.posted = p.posted) := by
  obtain ⟨events, hpath⟩ := publishAbout_reaches topic haccepted
  obtain ⟨q, hq, hserved⟩ := hpath.served (p := p) hp
  obtain ⟨hids, htaken⟩ := publishAbout_supply topic haccepted
  have hposts : (publishAbout topic segments s).2.postCount
      = s.postCount + (postsOf events).length := hpath.postCount
  have htaken : s.idsTaken < (publishAbout topic segments s).2.idsTaken := by
    rw [htaken]
    exact Nat.lt_succ_self _
  rw [← begun_prefix_iff hpath]
  cases (course_of_reaches hpath).served hserved with
  | idle hunbegun hnone =>
    cases hserved.eq_of_nil hnone
    rw [hnone] at hposts
    have hcount := congrArg (· + p.posted.length) hposts
    exact ⟨p, ⟨hq, id, hcount, hids, Nat.le_of_lt htaken, fun _ => .inl⟩,
      fun h => absurd h hunbegun, fun _ => rfl⟩
  | @posted ids rounds time hbegun hrounds hall hresult =>
    rw [hall] at hserved hposts
    obtain ⟨hposted, hknown⟩ := hrounds.served hserved hfresh
    rw [hrounds.posts_length, hrounds.length_eq] at hposts
    have hlength := congrArg List.length hposted
    rw [List.length_append, length_thread none hrounds.length_eq] at hlength
    refine ⟨q, ⟨hq, hserved.numbered, ?_, hids, Nat.le_of_lt htaken, ?_⟩, fun _ => ?_,
      fun h => absurd hbegun h⟩
    · show (publishAbout topic segments s).2.postCount + p.posted.length
        = s.postCount + q.posted.length
      omega
    · intro key hkey
      refine ((hknown key).1 hkey).imp_right ?_
      rintro ⟨i, -, heq⟩
      exact ⟨htaken, i, heq⟩
    · exact ⟨_, hresult, rfl, hrounds.length_eq, hposted⟩

/-- **An attempt on a dry run** posts its whole thread, or nothing, provided that the keys of its
draft are not known. -/
theorem publish_dryRun (input : Input) (hp : s.platform = .dryRun p)
    (hfresh : s.idsTaken < (input.publish s).2.idsTaken →
      ∀ i, ¬ p.Knows (postKey (s.ids s.idsTaken) i)) :
    ∃ q, Leads (outlet s) (outlet (input.publish s).2) p q ∧
      (∀ segments, Launches input segments s →
        Threads segments (input.publish s).1 p.posted q.posted) ∧
      ((∀ segments, ¬ Launches input segments s) → q.posted = p.posted) := by
  rcases input.publish_cases s with ⟨hunlaunched, hkept⟩ |
    ⟨segments, s₀, hcontent, hkept, haccepted, hpublish⟩
  · refine ⟨p, ?_, fun segments h => absurd h (hunlaunched segments), fun _ => rfl⟩
    rw [hkept]
    exact ⟨hp, id, rfl, rfl, Nat.le_refl _, fun _ => .inl⟩
  · have htaken : s₀.idsTaken = s.idsTaken := congrArg Outlet.idsTaken hkept
    have hids : s₀.ids = s.ids := congrArg Outlet.ids hkept
    have hnext : s.idsTaken < (input.publish s).2.idsTaken := by
      rw [hpublish, (publishAbout_supply _ haccepted).2, htaken]
      exact Nat.lt_succ_self _
    obtain ⟨q, hleads, hthreads, hidle⟩ := publishAbout_dryRun input.topic? haccepted
      ((congrArg Outlet.platform hkept).trans hp) (by rw [hids, htaken]; exact hfresh hnext)
    rw [← hkept, hpublish]
    refine ⟨q, hleads, ?_, fun hunlaunched => hidle fun hopens => ?_⟩
    · rintro segments ⟨_, hown, -, -, hopens⟩
      cases hcontent.symm.trans hown
      exact hthreads hopens
    · obtain ⟨hne, hfits⟩ := rejection?_eq_none_iff.1 haccepted
      exact hunlaunched segments ⟨s₀, hcontent, hne, hfits, hopens⟩

end dryRun

end Attempt

end PostingTerminal
