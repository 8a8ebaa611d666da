import PostingTerminal.Proofs.Attempt.Asking
import PostingTerminal.Proofs.Terminal.Deeds

/-!
# Inputs that do not act

An input acts if it asks for a thread, no cooldown makes it wait, segments within the limit are
written for it, and the record of its draft is begun.  Whether it does is known with the last of
these, and nothing has been changed until then.

* `Offers`, `Acts` — an input comes to the record of a draft, and begins it.
* `runInput_idles` — **running an input** whose record cannot be begun keeps all that is not there
  to be asked, and comes to its end unless the generator never answers.
* `LeftAlone` — what an execution leaves that does not act.  `Untouched` and `Stuck` — what becomes
  of its transcript, as it comes to its end or waits for the generator for ever.
* `untouched` — **an execution that does not act adds an entry to the transcript if it comes to its
  end, and changes nothing else**; where no content can be written none acts.

Calls of stores may fail on the way.  Where appending does, there is no entry; where a record fails
to be begun although it has been, there is a record (`not_always_untouched`).
-/

namespace PostingTerminal

open Store (Drafts Entry)

variable {γ : Type} {view : Session → γ}

namespace Terminal

open Attempt (Input Withheld draftOf publish_withheld)
open CommandLine (Args)
open Run (Idles)

/-! ## Inputs that act -/

/-- **An input comes to the record of a draft** in a session: it asks for a thread, no cooldown
makes it wait, and segments within the limit have been written for it. -/
inductive Offers (s : Session) (raw : String) : Draft → Session → Prop
  | intro {line values wait s₁ segments s₂}
      (names : Names builtins raw line createThreadCommand values)
      (asked : Run.cooldownStatus s.settings.thread.cooldownClass s = (.ok (.ok wait), s₁))
      (free : wait.isActive = false)
      (written : (Input.about (topicOf s values)).content s₁ = (.ok (.ok segments), s₂))
      (nonempty : segments ≠ [])
      (fits : ∀ x ∈ segments, x.charCount ≤ s.settings.thread.maxSegmentChars) :
      Offers s raw (draftOf (some (topicOf s values)) segments s₂)
        { s₂ with idsTaken := s₂.idsTaken + 1 }

/-- **An input acts**: it begins the record of a draft. -/
def Acts (s : Session) (raw : String) : Prop :=
  ∃ d s₁ s₂, Offers s raw d s₁ ∧ Run.persist d s₁ = (.ok (.ok ()), s₂)

/-! ## Running an input -/

section run

variable {s : Session} {raw : String} (hv : Session.HidesAsking view)
include hv

/-- Creating a thread whose record cannot be begun is idle. -/
theorem idles_createThread {line : String} {values : Args}
    (hnames : Names builtins raw line createThreadCommand values)
    (h : ∀ d s₁, Offers s raw d s₁ → Withheld view d s₁) : Idles view (createThread values) s := by
  unfold createThread
  refine (Run.idles_get s).bind fun settings s' hget => ?_
  cases hget
  refine (Run.idles_cooldownStatus hv _ s).bind fun answer s₁ hasked => ?_
  cases answer with
  | error e => exact Run.idles_pure _ s₁
  | ok wait =>
    cases hactive : wait.isActive with
    | true =>
      simp only [hactive, if_true]
      exact Run.idles_pure _ s₁
    | false =>
      -- The limit of the segments is the one that the input has begun with.
      have hasks : s₁.settings = s.settings :=
        (Run.idles_cooldownStatus hidesAsking_settings _ s).kept.outcome hasked
      have hpublish : Attempt.Fails view (topicOf s values) s₁ := by
        refine publish_withheld hv fun segments s₂ hwritten hne hfits => ?_
        have hwrites : s₂.settings = s₁.settings :=
          (Attempt.idles_content hidesAsking_settings _ s₁).kept.outcome hwritten
        rw [hwrites, hasks] at hfits
        exact h _ _ (.intro hnames hasked hactive hwritten hne hfits)
      simp only [hactive, Bool.false_eq_true, if_false]
      have hcreates : Idles view (createThreadAbout (topicOf s values)) s₁ := by
        unfold createThreadAbout
        refine hpublish.idles.bind fun p s₂ hp => ?_
        simp only [hpublish.fails p s₂ hp, Bool.false_eq_true, if_false]
        exact Run.idles_pure _ s₂
      exact hcreates.bind fun output s₂ _ => Run.idles_pure _ s₂

/-- Showing what has become of a draft is idle. -/
theorem idles_threadStatus (values : Args) (s : Session) : Idles view (threadStatus values) s := by
  unfold threadStatus
  refine (Run.idles_fetch hv _ s).bind fun answer s₁ _ => ?_
  obtain e | _ | d := answer <;> exact Run.idles_pure _ s₁

/-- **Running an input** whose record cannot be begun, if it comes to one at all, keeps the view,
and gives an answer unless the generator never does. -/
theorem runInput_idles (h : ∀ d s₁, Offers s raw d s₁ → Withheld view d s₁) :
    Idles view (runInput builtins raw) s ∧ (runInput builtins raw s).1 ≠ .error .crashed := by
  rcases runInput_cases builtins raw with ⟨executed, hrun⟩ | ⟨line, command, values, hnames⟩
  · rw [hrun]
    exact ⟨Run.idles_pure executed s, nofun⟩
  · have hidles : Idles view (command.action.run builtins values) s := by
      rcases hnames.command_cases with rfl | rfl | rfl
      · exact Run.idles_pure _ s
      · exact idles_createThread hv hnames h
      · exact idles_threadStatus hv values s
    have hperform := perform_eq builtins line command values s
    rw [runInput_of_names hnames]
    rcases hrun : command.action.run builtins values s with ⟨(_ | _) | result, s'⟩
    all_goals
      obtain ⟨hkept, hstalls⟩ := hidles.outcome hrun
      rw [hrun] at hperform
      refine ⟨?_, by rw [hperform]; nofun⟩
    · exact .of_eq hperform hkept nofun
    · exact .of_eq hperform hkept fun _ => hstalls rfl
    · exact .of_eq hperform hkept nofun

end run

/-! ## Executing an input -/

/-- What an execution leaves, drafts and transcript apart, that does not act. -/
structure LeftAlone (s s' : Session) : Prop where
  platform : s'.platform = s.platform
  knowledge : s'.knowledge = s.knowledge
  cooldowns : s'.cooldowns = s.cooldowns
  settings : s'.settings = s.settings

/-- An execution that does not act has come to its end: the only call that acts appends its entry
to the transcript, with the time that the clock shows then. -/
structure Untouched (s : Session) (entry : Entry) (s' : Session) : Prop extends LeftAlone s s' where
  calls : s'.journal.filter Call.acts = s.journal.filter Call.acts ++ [.append entry]
  stamped : Stamped s' entry
  /-- The entry is appended, unless that fails instead of being done. -/
  appended : (∀ fault, s.faults .append (s.callCount .append) = some fault →
    fault.afterCall = true) → s'.transcript = (s.transcript.append entry).2
  failed : ∀ fault, s.faults .append (s.callCount .append) = some fault →
    fault.afterCall = false → s'.transcript = s.transcript

/-- An execution that does not act waits for an answer of the generator that never comes.  No call
that acts has been made, and there is no entry in the transcript. -/
structure Stuck (s s' : Session) : Prop extends LeftAlone s s' where
  calls : s'.journal.filter Call.acts = s.journal.filter Call.acts
  transcript : s'.transcript = s.transcript
  unanswered : s'.Unanswered

/-- Drafts apart, an execution leaves everything else.  It comes to its end and adds an entry to the
transcript, unless the generator never answers. -/
inductive Leaves (s : Session) (raw : String) : Prop
  | done {executed s'} (ends : execute builtins raw s = (.ok executed, s')) (time : Timestamp)
      (untouched : Untouched s (executed.entry time) s')
  | waits {s'} (stalls : execute builtins raw s = (.error .stalled, s')) (stuck : Stuck s s')

/-- An execution leaves what the store of drafts holds. -/
def LeavesDrafts (s : Session) (raw : String) : Prop :=
  (execute builtins raw s).2.drafts.contents = s.drafts.contents

section execute

variable {s : Session} {raw : String}

/-- Where everything is kept, everything is left. -/
theorem LeftAlone.of_kept {s₁ : Session} (hkept : s₁.kept = s.kept) : LeftAlone s s₁ where
  platform := (congrArg Session.platform hkept :)
  knowledge := (congrArg Session.knowledge hkept :)
  cooldowns := (congrArg Session.cooldowns hkept :)
  settings := (congrArg Session.settings hkept :)

/-- Where everything is kept, no call that acts has been made. -/
theorem acts_of_kept {s₁ : Session} (hkept : s₁.kept = s.kept) :
    s₁.journal.filter Call.acts = s.journal.filter Call.acts := (congrArg Session.journal hkept :)

/-- Where everything is kept and an entry is appended, or cannot be, everything else is left. -/
theorem Untouched.of_kept {executed : Executed} {s₁ : Session} {transcript : Store.Transcript}
    (hkept : s₁.kept = s.kept)
    (happended : (∀ fault, s.faults .append (s.callCount .append) = some fault →
      fault.afterCall = true) → transcript = (s₁.transcript.append (executed.entry s₁.now)).2)
    (hfailed : ∀ fault, s.faults .append (s.callCount .append) = some fault →
      fault.afterCall = false → transcript = s₁.transcript) :
    Untouched s (executed.entry s₁.now)
      { s₁.note (.append (executed.entry s₁.now)) with transcript := transcript } := by
  have htranscript : s₁.transcript = s.transcript := (congrArg Session.transcript hkept :)
  obtain ⟨hplatform, hknowledge, hcooldowns, hsettings⟩ := LeftAlone.of_kept hkept
  refine ⟨⟨hplatform, hknowledge, hcooldowns, hsettings⟩, ?calls, ?stamped, ?appended, ?failed⟩
  case calls =>
    rw [← acts_of_kept hkept]
    exact List.filter_append ..
  case stamped => exact ⟨s₁.journal.length, List.getElem?_concat_length, rfl⟩
  case appended =>
    rw [← htranscript]
    exact happended
  case failed =>
    rw [← htranscript]
    exact hfailed

/-- An execution whose record cannot be begun, if it comes to one at all, leaves everything else. -/
theorem execute_leaves (h : ∀ d s₁, Offers s raw d s₁ → Withheld Session.kept d s₁) :
    Leaves s raw := by
  obtain ⟨hidles, hcrashed⟩ := runInput_idles hidesAsking_kept h
  rcases hrun : runInput builtins raw s with ⟨halt | executed, s₁⟩
  all_goals
    obtain ⟨hkept, hstalls⟩ := hidles.outcome hrun
    rw [hrun] at hcrashed
  · cases halt with
    | crashed => exact absurd rfl hcrashed
    | stalled =>
      exact .waits (Run.bind_error hrun) ⟨.of_kept hkept, acts_of_kept hkept,
        (congrArg Session.transcript hkept :), hstalls rfl⟩
  · obtain ⟨answer, s', hlogged, hmakes⟩ := logged_ok hrun
    refine .done hlogged s₁.now ?_
    -- Whether the append fails depends on how many have been made, and none has been since.
    have hfaults : s₁.faults = s.faults := (congrArg Session.faults hkept :)
    have hfault : s₁.faults .append (s₁.callCount .append)
        = s.faults .append (s.callCount .append) := by
      rw [hfaults, Session.appends_of_kept hkept]
    cases hmakes with
    | made hnone =>
      refine .of_kept hkept (fun _ => rfl) fun fault hsome => ?_
      rw [← hfault, hnone] at hsome
      cases hsome
    | failed hsome hbefore =>
      refine .of_kept hkept (fun hafter => ?_) fun _ _ _ => rfl
      rw [hafter _ (hfault.symm.trans hsome)] at hbefore
      cases hbefore
    | lost hsome hafter =>
      refine .of_kept hkept (fun _ => rfl) fun fault hfails hbefore => ?_
      rw [← hfault, hsome] at hfails
      cases hfails
      rw [hafter] at hbefore
      cases hbefore

/-- What the store of drafts holds is left, too, if it is where the record cannot be begun. -/
theorem execute_leavesDrafts
    (h : ∀ d s₁, Offers s raw d s₁ → Withheld (fun s => s.drafts.contents) d s₁) :
    LeavesDrafts s raw := by
  let held (s : Session) := s.drafts.contents
  have hlogged : _ ∧ held (execute builtins raw s).2 = held (runInput builtins raw s).2 :=
    logged_keeps (fun _ _ => rfl) (fun _ _ => rfl) (runInput builtins raw) s
  exact hlogged.2.trans (runInput_idles hidesAsking_contents h).1.kept

/-- Only an input that asks for a thread comes to the record of a draft. -/
theorem Offers.asks {d : Draft} {s₁ : Session} (h : Offers s raw d s₁) :
    ∃ line values, Names builtins raw line createThreadCommand values := by
  obtain ⟨names⟩ := h
  exact ⟨_, _, names⟩

/-- With a generator that is disabled no input comes to the record of a draft. -/
theorem not_offers_of_disabled {reason : String} (h : s.generator = .disabled reason) (d : Draft)
    (s₁ : Session) : ¬ Offers s raw d s₁ := by
  rintro ⟨names, asked, free, written, nonempty, fits⟩
  have hgenerator : _ = s.generator :=
    (Run.keeps_step (fun _ => rfl) (fun _ => rfl) s).outcome asked
  exact Attempt.content_of_disabled (hgenerator.trans h) written

/-- An input that comes to the record of a draft has left which calls fail. -/
theorem Offers.faults {d : Draft} {s₁ : Session} (h : Offers s raw d s₁) :
    s₁.faults = s.faults := by
  obtain ⟨names, asked, free, written, nonempty, fits⟩ := h
  have hasked := (Run.idles_cooldownStatus hidesAsking_kept _ s).kept.outcome asked
  have hwritten := (Attempt.idles_content hidesAsking_kept _ _).kept.outcome written
  exact (congrArg Session.faults (hwritten.trans hasked) :)

/-- An input that does not act cannot begin the record that it comes to. -/
theorem Offers.refused (hacts : ¬ Acts s raw) {d : Draft} {s₁ : Session} (h : Offers s raw d s₁) :
    ∃ e s₂, Run.persist d s₁ = (.ok (.error e), s₂) := by
  obtain ⟨answer, s₂, hpersist, -⟩ := Run.onDrafts_stores .persist (.persist d)
    (fun _ => Drafts.persist d) s₁
  have hpersist : Run.persist d s₁ = (.ok answer, s₂) := hpersist
  cases answer with
  | ok _ => exact absurd ⟨d, s₁, s₂, h, hpersist⟩ hacts
  | error e => exact ⟨e, s₂, hpersist⟩

end execute

/-- **An execution that does not act** gives an answer and adds an entry to the transcript, unless
the generator never answers, and it leaves everything else; the store of drafts is left, too, if a
record that fails to be begun has not been begun.  An input that does not even come to a record
leaves all of this however records fail: it asks for no thread, a cooldown makes it wait, or no
segments are written for it, or one that is too long.  So does an input that names another command
than that for threads, and where the generator is disabled every input. -/
theorem untouched (s : Session) :
    (∀ raw, ¬ Acts s raw → Leaves s raw ∧ (FailsCleanly s.faults → LeavesDrafts s raw)) ∧
      (∀ raw, (∀ d s₁, ¬ Offers s raw d s₁) → Leaves s raw ∧ LeavesDrafts s raw) ∧
      (∀ raw line command values, Names builtins raw line command values →
        command ≠ createThreadCommand → Leaves s raw ∧ LeavesDrafts s raw) ∧
      ∀ reason, s.generator = .disabled reason → ∀ raw, Leaves s raw ∧ LeavesDrafts s raw := by
  have hleaves (raw : String) (h : ∀ d s₁, ¬ Offers s raw d s₁) :
      Leaves s raw ∧ LeavesDrafts s raw :=
    ⟨execute_leaves fun d s₁ hoffers => absurd hoffers (h d s₁),
      execute_leavesDrafts fun d s₁ hoffers => absurd hoffers (h d s₁)⟩
  refine ⟨?_, hleaves, ?_, ?_⟩
  · intro raw hacts
    refine ⟨execute_leaves fun d s₁ h => ?_,
      fun hclean => execute_leavesDrafts fun d s₁ h => ?_⟩
    · obtain ⟨e, s₂, hpersist⟩ := h.refused hacts
      exact ⟨e, s₂, hpersist, (Run.keeps_persist d s₁).outcome hpersist⟩
    · obtain ⟨e, s₂, hpersist⟩ := h.refused hacts
      rw [← h.faults] at hclean
      exact ⟨e, s₂, hpersist, Run.contents_of_persist hclean hpersist⟩
  · intro raw line command values hnames hother
    refine hleaves raw fun d s₁ h => hother ?_
    obtain ⟨line', values', hasks⟩ := h.asks
    exact hnames.command_eq hasks
  · intro reason hdisabled raw
    exact hleaves raw (not_offers_of_disabled hdisabled)

/-- A session in which the same segments are written about every topic. -/
def dictatedSession (segments : List Segment) (faults : Faults) : Session :=
  { Attempt.emptySession (.scripted .posting) faults with
    generator := .scripted fun _ => .answer 0 (.ok segments) }

/-- An input comes to the record of a draft there only if every segment is within the limit. -/
theorem fits_dictatedSession {segments : List Segment} {faults : Faults} {raw : String} {d : Draft}
    {s₁ : Session} (h : Offers (dictatedSession segments faults) raw d s₁) :
    ∀ x ∈ segments, x.charCount ≤ 280 := by
  obtain ⟨names, asked, free, written, nonempty, fits⟩ := h
  have hgenerator : _ = (dictatedSession segments faults).generator :=
    (Run.keeps_step (fun _ => rfl) (fun _ => rfl) _).outcome asked
  obtain ⟨context, memories, s', hcontent, hgenerator'⟩ := Attempt.content_about _ _
  rw [hcontent, Run.generate_eq, hgenerator'.trans hgenerator] at written
  cases written
  exact fits

/-- A segment of one character more than the settings allow. -/
def longSegment : Segment := .ofText (String.ofList (List.replicate 281 'b'))

/-- It has one character more than there may be. -/
theorem charCount_longSegment : longSegment.charCount = 281 := by
  show (String.ofList (List.replicate 281 'b')).length = 281
  rw [String.length_ofList, List.length_replicate]

/-- A session in which no content ever comes. -/
def silentSession : Session :=
  { Attempt.emptySession (.scripted .posting) .none with generator := .scripted fun _ => .never }

/-- No input comes to the record of a draft there. -/
theorem not_offers_silentSession (raw : String) (d : Draft) (s₁ : Session) :
    ¬ Offers silentSession raw d s₁ := by
  rintro ⟨names, asked, free, written, nonempty, fits⟩
  have hgenerator : _ = silentSession.generator :=
    (Run.keeps_step (fun _ => rfl) (fun _ => rfl) _).outcome asked
  obtain ⟨context, memories, s', hcontent, hgenerator'⟩ := Attempt.content_about _ _
  rw [hcontent, Run.generate_eq, hgenerator'.trans hgenerator] at written
  cases written

/-- A line that asks for help. -/
theorem names_help : Names builtins "help" "help" helpCommand .empty :=
  @Names.intro builtins _ _ helpCommand [] _ ⟨rfl, rfl⟩ rfl rfl

/-- A segment that is too long keeps an input from acting, also behind one that is not.  So do
content that never comes, a line that asks for help, and a generator that is disabled. -/
theorem untouched_for_each_reason :
    (FailsCleanly Faults.none ∧
      ¬ Acts (dictatedSession [.ofText "a", longSegment] .none) "create-thread x" ∧
      Leaves (dictatedSession [.ofText "a", longSegment] .none) "create-thread x" ∧
      LeavesDrafts (dictatedSession [.ofText "a", longSegment] .none) "create-thread x") ∧
    ((∀ d s₁, ¬ Offers silentSession "create-thread x" d s₁) ∧
      Leaves silentSession "create-thread x" ∧ LeavesDrafts silentSession "create-thread x") ∧
    (Names builtins "help" "help" helpCommand .empty ∧ helpCommand ≠ createThreadCommand ∧
      Leaves silentSession "help" ∧ LeavesDrafts silentSession "help") ∧
    (Attempt.emptySession (.scripted .posting) .none).generator = .disabled "" ∧
      Leaves (Attempt.emptySession (.scripted .posting) .none) "create-thread x" ∧
      LeavesDrafts (Attempt.emptySession (.scripted .posting) .none) "create-thread x" := by
  have hclean : FailsCleanly Faults.none := by
    intro n fault hfault
    cases hfault
  have hacts : ¬ Acts (dictatedSession [.ofText "a", longSegment] .none) "create-thread x" := by
    rintro ⟨d, s₁, s₂, hoffers, -⟩
    have hfits := fits_dictatedSession hoffers _ (List.mem_cons_of_mem _ List.mem_cons_self)
    rw [charCount_longSegment] at hfits
    exact absurd hfits (by decide)
  have hother : helpCommand ≠ createThreadCommand := fun h =>
    absurd (congrArg CommandLine.Command.name h) (by decide)
  have hsilent := not_offers_silentSession "create-thread x"
  obtain ⟨hleaves, hdrafts⟩ := (untouched _).1 _ hacts
  exact ⟨⟨hclean, hacts, hleaves, hdrafts hclean⟩,
    ⟨hsilent, (untouched silentSession).2.1 _ hsilent⟩,
    ⟨names_help, hother, (untouched silentSession).2.2.1 _ _ _ _ names_help hother⟩,
    rfl, (untouched _).2.2.2 "" rfl _⟩

/-- The calls of a method fail. -/
def failing (m : Method) (fault : Fault) : Faults := fun m' _ => if m' = m then some fault else none

/-- Where the record of a draft always fails to be begun no input acts. -/
theorem not_acts_of_failing {s : Session} {raw : String} {fault : Fault}
    (hfaults : s.faults = failing .persist fault) : ¬ Acts s raw := by
  rintro ⟨d, s₁, s₂, hoffers, hpersist⟩
  obtain ⟨-, hstores⟩ := Run.stores_of_persist hpersist
  have hnone := hstores.of_ok.1
  rw [hoffers.faults, hfaults] at hnone
  cases hnone

/-- **Where calls fail or are not answered** an input that does not act may leave no entry in the
transcript, and where they fail the record of a draft. -/
theorem not_always_untouched :
    (¬ ∀ s raw, ¬ Acts s raw → ∀ prior, s.transcript = .memory prior →
        ∃ entry, (execute builtins raw s).2.transcript = .memory (prior ++ [entry])) ∧
      (¬ ∀ s raw, s.faults = .none → ¬ Acts s raw → ∀ prior, s.transcript = .memory prior →
        ∃ entry, (execute builtins raw s).2.transcript = .memory (prior ++ [entry])) ∧
      ¬ ∀ s raw, ¬ Acts s raw → LeavesDrafts s raw := by
  refine ⟨?_, ?_, ?_⟩
  · intro h
    let s := Attempt.emptySession (.scripted .posting) (failing .append ⟨false, .handler "full"⟩)
    have hacts : ¬ Acts s "help" := fun ⟨d, s₁, _, hoffers, _⟩ =>
      not_offers_of_disabled rfl d s₁ hoffers
    obtain ⟨entry, hentry⟩ := h s "help" hacts [] rfl
    cases hentry
  · intro h
    have hacts : ¬ Acts silentSession "create-thread x" := fun ⟨d, s₁, _, hoffers, _⟩ =>
      not_offers_silentSession _ d s₁ hoffers
    obtain ⟨entry, hentry⟩ := h silentSession "create-thread x" rfl hacts [] rfl
    have hlength : (((execute builtins "create-thread x" silentSession).2.transcript.recent
        1).toOption.map List.length) = some 0 := by decide +kernel
    rw [hentry] at hlength
    cases hlength
  · intro h
    have hsize := congrArg Drafts.size
      (h (dictatedSession [.ofText "a", .ofText "b"] (failing .persist ⟨true, .handler "full"⟩))
        "create-thread x" (not_acts_of_failing rfl))
    revert hsize
    decide +kernel

end Terminal

end PostingTerminal
