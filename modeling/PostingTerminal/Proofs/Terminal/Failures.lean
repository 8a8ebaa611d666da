import PostingTerminal.Proofs.CommandLine.Binding
import PostingTerminal.Proofs.Terminal.Dispatch
import PostingTerminal.Proofs.Terminal.Wording

/-!
# How failures are shown

* `Fails` — the exits at which an execution fails, before its command runs or in it.
* `runInput_of_fails` — a failure is answered with the wording of its error under a label.
* `failure_breaks` — its output breaks lines where what the error takes over does.  A request that
  cannot be read, a line that cannot be split, parameters that cannot be bound and a crash are
  shown in one line, whatever the input.
-/

namespace PostingTerminal.Terminal

open CommandLine
open Text

/-! ## The exits -/

/-- Where an execution fails. -/
inductive Exit where
  | reading
  | splitting
  | lookup
  | binding
  | handler
  | crash
  deriving DecidableEq

/-- **An execution of an input fails** in a session, at an exit and with an error. -/
inductive Fails (registry : Registry Action) (raw : String) (s : Session) : Exit → Error → Prop
  /-- The input is a request that cannot be read. -/
  | reading {e : Error} (read : lineOf raw = .error e) : Fails registry raw s .reading e
  /-- The line cannot be split. -/
  | splitting {line : String} {e : Error} (read : (lineOf raw).map trimmed = .ok line)
      (split : tokens line = .error e) : Fails registry raw s .splitting e
  /-- There is no command of the name. -/
  | lookup {line name : String} {args : List String} (reads : Reads raw line (name :: args))
      (absent : registry.lookup name = none) :
      Fails registry raw s .lookup (.unknownCommand name)
  /-- The parameters cannot be bound. -/
  | binding {line : String} {command : Command Action} {args : List String} {e : Error}
      (reads : Reads raw line (command.name :: args))
      (found : registry.lookup command.name = some command)
      (unbound : bind args command.params = .error e) : Fails registry raw s .binding e
  /-- The command fails. -/
  | handler {line : String} {command : Command Action} {values : Args} {e : Error}
      (names : Names registry raw line command values)
      (run : (command.action.run registry values s).1 = .ok (.error e)) :
      Fails registry raw s .handler e
  /-- The command crashes. -/
  | crash {line : String} {command : Command Action} {values : Args}
      (names : Names registry raw line command values)
      (run : (command.action.run registry values s).1 = .error .crashed) :
      Fails registry raw s .crash (.handler "handler panicked")

variable {registry : Registry Action} {raw : String} {s : Session} {exit : Exit} {e : Error}

/-! ## Requests that cannot be read -/

/-- What can be wrong with a request is told in one line. -/
theorem request_raises : requestRecord.decoder.Raises fun p => breaks p.spliced = [] := by
  have hkey : breaks "command" = [] := breaks_ofList (by decide)
  have hexpected : breaks ("struct " ++ "CommandRequest") = [] :=
    (breaks_label (by decide) _).trans (breaks_ofList (by decide))
  have hitems : breaks ("struct " ++ "CommandRequest" ++ " with 1 element") = [] :=
    (breaks_trailer (breaks_ofList (by decide)) _).trans hexpected
  have hstring : breaks "a string" = [] := breaks_ofList (by decide)
  apply Json.Record.raises
  · constructor
    · exact Json.breaks_of_shape
    · exact fun _ => hexpected
    · exact fun _ => hitems
    · exact List.forall_mem_singleton.2 hkey
    · exact List.forall_mem_singleton.2 hkey
  · intro m hm
    obtain rfl := List.mem_singleton.1 hm
    exact (Json.text_raises Json.breaks_of_shape fun _ => hstring).map _

/-- A request that cannot be read is reported in one line. -/
theorem breaks_of_lineOf (h : lineOf raw = .error e) : breaks e.spliced = [] := by
  unfold lineOf at h
  split at h
  · split at h
    · next decodeError hdecode =>
      cases h
      exact request_raises.fromText Json.breaks_of_shape hdecode
    · cases h
  · cases h

/-! ## Lines that cannot be split, and parameters that cannot be bound -/

/-- A line that cannot be split is reported in one line. -/
theorem breaks_of_tokens {line : String} (h : tokens line = .error e) : breaks e.spliced = [] := by
  unfold tokens at h
  split at h
  · cases h
    rfl
  · cases h

/-- The names of a command and of its parameters are unbroken. -/
def NamedPlainly (command : Command Action) : Prop :=
  breaks command.name = [] ∧ ∀ spec ∈ command.params, breaks spec.name = []

/-- So are those of the commands of the terminal. -/
theorem namedPlainly_builtins : ∀ command ∈ builtins.commands, NamedPlainly command := by
  intro command hcommand
  have hcases : command = helpCommand ∨ command = createThreadCommand
      ∨ command = threadStatusCommand := by
    simpa only [commands_builtins, List.mem_cons, List.not_mem_nil, or_false] using hcommand
  rcases hcases with rfl | rfl | rfl
  · exact ⟨breaks_ofList (by decide), List.forall_mem_nil _⟩
  · exact ⟨breaks_ofList (by decide), List.forall_mem_singleton.2 (breaks_ofList (by decide))⟩
  · exact ⟨breaks_ofList (by decide), List.forall_mem_singleton.2 (breaks_ofList (by decide))⟩

/-- Of a command with unbroken names parameters that cannot be bound are reported in one line. -/
theorem breaks_of_bind {command : Command Action} {args : List String}
    (hcommand : NamedPlainly command) (h : bind args command.params = .error e) :
    breaks e.spliced = [] := by
  obtain ⟨i, ⟨spec, hspec, hrefuses⟩, -⟩ := failsFirst_of_error h
  have hplain : breaks spec.name = [] := hcommand.2 spec (List.mem_of_getElem? hspec)
  rcases hrefuses.named with rfl | rfl
  · exact hplain
  · exact (breaks_trailer (breaks_ofList (by decide)) spec.name).trans hplain

/-! ## Reports -/

/-- What a failure is reported under. -/
inductive Label (registry : Registry Action) : String → Prop
  | none : Label registry ""
  | parsing : Label registry "Error parsing command: "
  | executing {command : Command Action} (hmem : command ∈ registry.commands) :
      Label registry ("Error executing command '" ++ command.name ++ "': ")

/-- The label of a failure is unbroken if the names of the commands are. -/
theorem Label.breaks {label : String} (h : Label registry label)
    (hregistry : ∀ command ∈ registry.commands, NamedPlainly command) : breaks label = [] := by
  cases h with
  | none => rfl
  | parsing => exact breaks_ofList (by decide)
  | executing hmem => exact (breaks_enclosed (by decide) (by decide) _).trans (hregistry _ hmem).1

/-- A command that an input names is one of the registry. -/
theorem Names.mem {line : String} {command : Command Action} {values : Args}
    (h : Names registry raw line command values) : command ∈ registry.commands := by
  obtain ⟨-, found, -⟩ := h
  exact (Registry.mem_of_lookup found).1

/-- An input that fails is answered with the wording of its error under a label. -/
theorem runInput_of_fails (h : Fails registry raw s exit e) :
    ∃ line label s', runInput registry raw s = (.ok (.failed line (label ++ e.message)), s') ∧
      Label registry label := by
  cases h with
  | reading read =>
    refine ⟨raw, _, s, ?_, .parsing⟩
    unfold runInput
    rw [read]
    rfl
  | @splitting line _ read split =>
    refine ⟨line, _, s, ?_, .parsing⟩
    have hempty : ¬line.isEmpty = true := by
      intro hempty
      obtain rfl : line = "" := by simpa using hempty
      cases split
    rw [runInput_of_line read, runLine, if_neg hempty, split]
    rfl
  | @lookup line name args reads absent =>
    refine ⟨line, "", s, ?_, .none⟩
    rw [runInput_of_reads reads, String.empty_append]
    simp only [runTokens, absent]
    rfl
  | @binding line command args _ reads found unbound =>
    refine ⟨line, _, s, ?_, .executing (Registry.mem_of_lookup found).1⟩
    rw [runInput_of_lookup reads found, runCommand_eq, unbound]
    rfl
  | @handler line command values _ names run =>
    refine ⟨line, _, (command.action.run registry values s).2, ?_, .executing names.mem⟩
    rw [runInput_of_names names, perform_eq, run]
    rfl
  | @crash line command values names run =>
    refine ⟨line, _, (command.action.run registry values s).2, ?_, .executing names.mem⟩
    rw [runInput_of_names names, perform_eq, run]
    rfl

/-- At every exit but two what is taken over is unbroken. -/
theorem Fails.breaks (h : Fails registry raw s exit e)
    (hregistry : ∀ command ∈ registry.commands, NamedPlainly command) (hlookup : exit ≠ .lookup)
    (hhandler : exit ≠ .handler) : breaks e.spliced = [] := by
  cases h with
  | reading read => exact breaks_of_lineOf read
  | splitting read split => exact breaks_of_tokens split
  | lookup => exact absurd rfl hlookup
  | binding reads found unbound =>
    exact breaks_of_bind (hregistry _ (Registry.mem_of_lookup found).1) unbound
  | handler => exact absurd rfl hhandler
  | crash => exact breaks_ofList (by decide)

/-- **A failure is flagged, carries no value, and breaks lines where what its error takes over
does.**  At the exits for a request that cannot be read, a line that cannot be split, parameters
that cannot be bound and a crash nothing taken over has a line break, so it is shown in one line.
What an unknown command is called and what a command gives as its error may have some. -/
theorem failure_breaks (hregistry : ∀ command ∈ registry.commands, command ∈ builtins.commands)
    (h : Fails registry raw s exit e) :
    ∃ executed s', execute registry raw s = (.ok executed, s') ∧
      executed.isError = true ∧ executed.data = none ∧
      breaks executed.output = breaks e.spliced ∧
      (exit ≠ .lookup → exit ≠ .handler → breaks executed.output = []) := by
  have hnames : ∀ command ∈ registry.commands, NamedPlainly command :=
    fun command hmem => namedPlainly_builtins command (hregistry command hmem)
  obtain ⟨line, label, s₁, hrun, hlabel⟩ := runInput_of_fails h
  obtain ⟨answer, s', hlogged, -⟩ := logged_ok hrun
  have hbreaks : breaks (label ++ e.message) = breaks e.spliced := by
    rw [breaks_append, hlabel.breaks hnames, List.nil_append, e.breaks_message]
  refine ⟨_, s', hlogged, rfl, rfl, hbreaks, ?_⟩
  intro hlookup hhandler
  exact hbreaks.trans (h.breaks hnames hlookup hhandler)

/-- A session over an empty directory of drafts. -/
def filedSession : Session :=
  .start .default (.files .empty) (.memory []) (.scripted .posting) (.disabled "") .none
    (fun _ => ⟨"d"⟩) 0

/-- An id with a line feed in it is given back as it is by the store that refuses it, and so the
failure is shown in two lines. -/
theorem failure_breaks_invalid_id :
    ∃ executed s', execute builtins "thread-status 'a\nb'" filedSession = (.ok executed, s') ∧
      executed.isError = true ∧ executed.data = none ∧ breaks executed.output = ['\n'] := by
  have hnames : Names builtins "thread-status 'a\nb'" "thread-status 'a\nb'" threadStatusCommand
      ⟨[("draft_id", .string "a\nb")]⟩ := ⟨⟨rfl, rfl⟩, rfl, rfl⟩
  have hfails : Fails builtins "thread-status 'a\nb'" filedSession .handler
      (.store (.invalidId ⟨"a\nb"⟩)) := .handler hnames rfl
  obtain ⟨executed, s', hexecute, herror, hdata, hbreaks, -⟩ :=
    failure_breaks (fun _ => id) hfails
  exact ⟨executed, s', hexecute, herror, hdata, hbreaks⟩

/-- Hence not every failure is shown in one line: a name between quotes may break it. -/
theorem not_always_one_line : ¬ ∀ registry raw s exit e,
    (∀ command ∈ registry.commands, command ∈ builtins.commands) → Fails registry raw s exit e →
      ∃ executed s', execute registry raw s = (.ok executed, s') ∧ executed.isError = true ∧
        executed.data = none ∧ breaks executed.output = [] := by
  intro h
  have hreads : Reads "'a\nb'" "'a\nb'" ["a\nb"] := ⟨rfl, rfl⟩
  have hfails : Fails builtins "'a\nb'" filedSession .lookup (.unknownCommand "a\nb") :=
    .lookup hreads rfl
  obtain ⟨executed, s', hexecute, -, -, hbreaks⟩ := h _ _ _ _ _ (fun _ => id) hfails
  have houtput : (execute builtins "'a\nb'" filedSession).1
      = .ok (.failed "'a\nb'" "Unknown command: a\nb") := rfl
  rw [hexecute] at houtput
  obtain rfl := Except.ok.inj houtput
  have hsome : breaks "Unknown command: a\nb" = ['\n'] := rfl
  rw [Executed.failed, hsome] at hbreaks
  cases hbreaks

end PostingTerminal.Terminal
