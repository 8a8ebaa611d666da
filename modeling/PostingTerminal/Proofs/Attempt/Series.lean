import PostingTerminal.Proofs.Attempt.DryRun

/-!
# A series of attempts on a dry run

Attempts are made one after the other over one platform.  Between two of them anything may happen
to the session that does not post and takes no id.

* `Turn`, `series` — an attempt with what has happened before it, and such attempts in a row.
* `Ready` — the invariant of a series: the messages are numbered, every post has become a message,
  and every key that is known belongs to an id that has been taken.  Attempts keep it
  (`Ready.leads`), and it leaves the keys of the next id unknown (`Ready.fresh`).
* `series_threads` — **every attempt of a series that comes to post adds its thread, and no other
  adds anything**.  No post is taken for a repetition, and no id is given to two messages.
-/

namespace PostingTerminal.Attempt

open Platform (DryRun)

/-! ## Series -/

/-- An attempt, and what has happened to the session before it. -/
structure Turn where
  input : Input
  meanwhile : Session → Session
  /-- Nothing has been posted, and no id has been taken. -/
  keeps : ∀ s, outlet (meanwhile s) = outlet s

/-- The session after a turn. -/
def Turn.run (turn : Turn) (s : Session) : Session := (turn.input.publish (turn.meanwhile s)).2

/-- The session after turns that are taken one after the other. -/
def series (s : Session) (turns : List Turn) : Session := turns.foldl (fun s turn => turn.run s) s

/-- What an attempt in a session does to the messages of its platform. -/
structure Extends (input : Input) (s : Session) : Prop where
  /-- If it comes to post segments, it succeeds and adds a thread of them. -/
  launched : ∀ segments, Launches input segments s → Threads segments (input.publish s).1
    s.platform.posted (input.publish s).2.platform.posted
  /-- If it does not, it leaves them as they were. -/
  idle : (∀ segments, ¬ Launches input segments s) →
    (input.publish s).2.platform.posted = s.platform.posted

/-- Ids are only ever taken. -/
theorem idsTaken_le_publish (input : Input) (s : Session) :
    s.idsTaken ≤ (input.publish s).2.idsTaken := by
  rcases input.publish_cases s with ⟨-, hkept⟩ | ⟨segments, s₀, -, hkept, haccepted, hpublish⟩
  · exact Nat.le_of_eq (congrArg Outlet.idsTaken hkept).symm
  · have htaken : s₀.idsTaken = s.idsTaken := congrArg Outlet.idsTaken hkept
    rw [hpublish, (publishAbout_supply _ haccepted).2, htaken]
    exact Nat.le_succ _

/-- A turn gives no id back. -/
theorem idsTaken_le_run (turn : Turn) (s : Session) : s.idsTaken ≤ (turn.run s).idsTaken := by
  have htaken : (turn.meanwhile s).idsTaken = s.idsTaken :=
    congrArg Outlet.idsTaken (turn.keeps s)
  rw [← htaken]
  exact idsTaken_le_publish turn.input (turn.meanwhile s)

/-- A series of turns gives no id back. -/
theorem idsTaken_le_series (turns : List Turn) (s : Session) :
    s.idsTaken ≤ (series s turns).idsTaken := by
  induction turns generalizing s with
  | nil => exact Nat.le_refl _
  | cons turn rest ih => exact Nat.le_trans (idsTaken_le_run turn s) (ih (turn.run s))

/-! ## The invariant of a series -/

/-- What a series has come to from where it has begun. -/
structure Ready (start now : Outlet) (q : DryRun) : Prop where
  platform : now.platform = .dryRun q
  numbered : q.Numbered
  /-- Every post has become a message. -/
  postCount : now.postCount = start.postCount + q.posted.length
  ids : now.ids = start.ids
  idsTaken : start.idsTaken ≤ now.idsTaken
  /-- A key that is known is one of an id that has been taken. -/
  known : ∀ key, q.Knows key → ∃ n, start.idsTaken ≤ n ∧ n < now.idsTaken ∧
    ∃ i, key = postKey (start.ids n) i

section ready

variable {start now next : Outlet} {q r : DryRun} {s : Session} {turns : List Turn}

/-- A series begins on a platform without messages. -/
theorem ready_empty (h : start.platform = .dryRun .empty) : Ready start start .empty :=
  ⟨h, Platform.DryRun.numbered_empty, rfl, rfl, Nat.le_refl _, fun _ hknown => nomatch hknown⟩

/-- **Attempts keep the invariant.** -/
theorem Ready.leads (h : Ready start now q) (hleads : Leads now next q r) : Ready start next r := by
  refine ⟨hleads.platform, hleads.numbered h.numbered, ?_, hleads.ids.trans h.ids,
    Nat.le_trans h.idsTaken hleads.idsTaken, ?_⟩
  · have hcount := hleads.postCount
    rw [h.postCount] at hcount
    omega
  · intro key hkey
    rcases hleads.known key hkey with hbefore | ⟨htaken, i, heq⟩
    · obtain ⟨n, hfrom, hto, hown⟩ := h.known key hbefore
      exact ⟨n, hfrom, Nat.lt_of_lt_of_le hto hleads.idsTaken, hown⟩
    · rw [h.ids] at heq
      exact ⟨now.idsTaken, h.idsTaken, htaken, i, heq⟩

/-- The keys of the next id are not known, if no id before it is the same. -/
theorem Ready.fresh (h : Ready start now q)
    (hdistinct : ∀ n, start.idsTaken ≤ n → n < now.idsTaken →
      start.ids n ≠ start.ids now.idsTaken) (i : Nat) :
    ¬ q.Knows (postKey (now.ids now.idsTaken) i) := by
  rw [h.ids]
  intro hknown
  obtain ⟨n, hfrom, hto, j, heq⟩ := h.known _ hknown
  exact hdistinct n hfrom hto (postKey_inj heq).1.symm

/-- **A series keeps the invariant**, and every attempt of it adds its thread or nothing. -/
theorem Ready.series (h : Ready start (outlet s) q)
    (hdistinct : ∀ m n, start.idsTaken ≤ m → m < n → n < (series s turns).idsTaken →
      start.ids m ≠ start.ids n) :
    (∀ earlier turn later, turns = earlier ++ turn :: later →
        Extends turn.input (turn.meanwhile (Attempt.series s earlier))) ∧
      ∃ r, Ready start (outlet (Attempt.series s turns)) r := by
  induction turns generalizing s q with
  | nil => exact ⟨by simp, q, h⟩
  | cons turn rest ih =>
    have hready : Ready start (outlet (turn.meanwhile s)) q := (turn.keeps s).symm ▸ h
    have hlast : (turn.run s).idsTaken ≤ (Attempt.series s (turn :: rest)).idsTaken :=
      idsTaken_le_series rest (turn.run s)
    obtain ⟨r, hleads, hthreads, hidle⟩ := publish_dryRun turn.input hready.platform
      fun htaken => hready.fresh fun n hfrom hto =>
        hdistinct n _ hfrom hto (Nat.lt_of_lt_of_le htaken hlast)
    have hextends : Extends turn.input (turn.meanwhile s) := by
      have hbefore : (turn.meanwhile s).platform.posted = q.posted := congrArg _ hready.platform
      have hafter : (turn.input.publish (turn.meanwhile s)).2.platform.posted = r.posted :=
        congrArg _ hleads.platform
      constructor
      · rw [hbefore, hafter]
        exact hthreads
      · rw [hbefore, hafter]
        exact hidle
    obtain ⟨hrest, hend⟩ := ih (hready.leads hleads) hdistinct
    refine ⟨?_, hend⟩
    rintro (_ | ⟨first, earlier⟩) turn' later heq
    · cases heq
      exact hextends
    · cases heq
      exact hrest earlier turn' later rfl

end ready

/-! ## The messages of a series -/

/-- **A series of attempts on a dry run.**  If the ids that are taken are distinct, every attempt
that comes to post succeeds and adds exactly its segments, as a thread; every other attempt leaves
the messages as they were.  Every post becomes a message, and no id is given to two messages. -/
theorem series_threads {s : Session} {turns : List Turn} (hempty : s.platform = .dryRun .empty)
    (hdistinct : ∀ m n, s.idsTaken ≤ m → m < n → n < (series s turns).idsTaken →
      s.ids m ≠ s.ids n) :
    (∀ earlier turn later, turns = earlier ++ turn :: later →
        Extends turn.input (turn.meanwhile (series s earlier))) ∧
      (series s turns).postCount = s.postCount + (series s turns).platform.posted.length ∧
      ((series s turns).platform.posted.map (·.id)).Nodup := by
  have hready : Ready (outlet s) (outlet s) .empty := ready_empty hempty
  obtain ⟨hextends, q, hend⟩ := hready.series hdistinct
  have hposted : (series s turns).platform.posted = q.posted := congrArg _ hend.platform
  rw [hposted]
  exact ⟨hextends, hend.postCount, hend.numbered.nodup_ids⟩

/-- A session on a dry run, with drafts that are numbered. -/
def dryRunSession : Session :=
  { emptySession (.dryRun .empty) .none with ids := fun n => ⟨"d" ++ toString n⟩ }

/-- Segments that are published a second later. -/
def Turn.later (segments : List Segment) : Turn where
  input := .given segments
  meanwhile s := { s with clock := fun n => s.clock n + 1000 }
  keeps _ := rfl

/-- Two threads with a text in common, and an attempt without segments between them. -/
def dryRunTurns : List Turn :=
  [.later [.ofText "a", .ofText "b"], .later [], .later [.ofText "a"]]

/-- An attempt that has succeeded has come to post. -/
theorem launches_of_success {segments : List Segment} {s : Session}
    (h : ((Input.given segments).publish s).1.toOption.map (·.success) = some true) :
    Launches (.given segments) segments s := by
  have hcomes := (Input.given segments).publish_comes s
  generalize hpublish : (Input.given segments).publish s = result at h hcomes
  cases hcomes with
  | halted | unwritten | refused => cases h
  | @made content s₀ hcontent haccepted =>
    cases hcontent
    obtain ⟨hne, hfits⟩ := rejection?_eq_none_iff.1 haccepted
    obtain ⟨events, hpath⟩ := publishAbout_reaches none haccepted
    refine ⟨s, rfl, hne, hfits, (begun_prefix_iff hpath).1 ?_⟩
    have hcourse := course_of_reaches hpath
    change Option.map _ (publishAbout none segments s).1.toOption = _ at h
    generalize (publishAbout none segments s).1 = outcome at h hcourse
    cases hcourse with
    | unsaved | lost => cases h
    | finished hconcluded =>
      cases hconcluded with
      | unstarted | stopped => cases h
      | published =>
        rw [List.append_assoc]
        exact List.prefix_append _ _

/-- Both threads come to be posted, and the second one begins at the top again. -/
theorem series_threads_numbered :
    (∀ m n, m < n → dryRunSession.ids m ≠ dryRunSession.ids n) ∧
      Launches (.given [.ofText "a", .ofText "b"]) [.ofText "a", .ofText "b"]
        ((Turn.later [.ofText "a", .ofText "b"]).meanwhile dryRunSession) ∧
      Launches (.given [.ofText "a"]) [.ofText "a"]
        ((Turn.later [.ofText "a"]).meanwhile
          (series dryRunSession [.later [.ofText "a", .ofText "b"], .later []])) ∧
      (series dryRunSession dryRunTurns).platform.posted =
        [⟨⟨"dry_1"⟩, none, "a"⟩, ⟨⟨"dry_2"⟩, some ⟨"dry_1"⟩, "b"⟩, ⟨⟨"dry_3"⟩, none, "a"⟩] ∧
      (∀ earlier turn later, dryRunTurns = earlier ++ turn :: later →
        Extends turn.input (turn.meanwhile (series dryRunSession earlier))) ∧
      (series dryRunSession dryRunTurns).postCount
        = dryRunSession.postCount + (series dryRunSession dryRunTurns).platform.posted.length ∧
      ((series dryRunSession dryRunTurns).platform.posted.map (·.id)).Nodup := by
  have hdistinct (m n : Nat) (hlt : m < n) : dryRunSession.ids m ≠ dryRunSession.ids n := by
    intro heq
    exact Nat.ne_of_lt hlt
      (eq_of_toString_eq ((String.append_right_inj "d").1 (congrArg DraftId.text heq)))
  refine ⟨hdistinct, launches_of_success ?_, launches_of_success ?_, ?_,
    series_threads rfl fun m n _ hlt _ => hdistinct m n hlt⟩
  all_goals decide +kernel

end PostingTerminal.Attempt
