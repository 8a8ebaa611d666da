import PostingTerminal.Proofs.CommandLine.Blank
import PostingTerminal.Proofs.Terminal.Dispatch

/-!
# Inputs without a command

An input whose command line is blank is answered with the notice that no command was provided.  Of
every other line that can be split, the first word is looked up as the name of a command, be it
empty or a `#`.

* `BlankInput` — an input whose command line is blank.
* `blank_or_names_or_fails` — **an input is blank, names a command, or is answered with an error**.
* `execute_of_reads` — a line that has words is looked up under the first of them.
* `notice_iff_blank` — **the notice is given exactly for blank lines**, and for no other cause.
-/

namespace PostingTerminal.Terminal

open CommandLine

variable {registry : Registry Action} {raw line : String}

/-- An input can be read, and its command line is blank. -/
def BlankInput (raw : String) : Prop :=
  ∃ text, lineOf raw = .ok text ∧ Text.allBlank text.toList = true

/-- Of a blank line nothing is left to be run. -/
theorem blankInput_iff : BlankInput raw ↔ (lineOf raw).map Text.trimmed = .ok "" := by
  have htrimmed (text : String) : Text.allBlank text.toList = true ↔ Text.trimmed text = "" := by
    rw [← Text.trim_eq_nil_iff, Text.trimmed, String.ofList_eq_empty_iff]
  unfold BlankInput
  cases lineOf raw with
  | error e => simp [Except.map]
  | ok text => simp [Except.map, htrimmed]

/-- What an input leaves to be run has words, cannot be split, or is empty. -/
theorem tokens_ne_nil_of_line (h : (lineOf raw).map Text.trimmed = .ok line) (hne : line ≠ "") :
    tokens line ≠ .ok [] := by
  cases htext : lineOf raw with
  | error e => rw [htext] at h; cases h
  | ok text =>
    rw [htext] at h
    obtain rfl : Text.trimmed text = line := Except.ok.inj h
    exact tokens_trimmed_ne_nil hne

/-- A blank line is answered with the notice. -/
theorem runInput_of_blank (h : BlankInput raw) : runInput registry raw = pure (.nothing "") := by
  rw [runInput_of_line (blankInput_iff.1 h)]
  rfl

/-- A blank line names no command. -/
theorem BlankInput.not_names (h : BlankInput raw) {command : Command Action} {values : Args} :
    ¬ Names registry raw line command values := by
  rintro ⟨⟨hread, hsplit⟩, -, -⟩
  obtain rfl : "" = line := Except.ok.inj ((blankInput_iff.1 h).symm.trans hread)
  have hnone : tokens "" = .ok [] := rfl
  cases hnone.symm.trans hsplit

/-- **An input is blank, names a command, or is answered with an error.** -/
theorem blank_or_names_or_fails (registry : Registry Action) (raw : String) :
    BlankInput raw ∨ (∃ line command values, Names registry raw line command values) ∨
      ∃ executed, executed.isError = true ∧ runInput registry raw = pure executed := by
  cases htext : lineOf raw with
  | error e =>
    refine .inr (.inr ⟨unreadable raw e, rfl, ?_⟩)
    unfold runInput
    rw [htext]
  | ok text =>
    have hread : (lineOf raw).map Text.trimmed = .ok (Text.trimmed text) := by rw [htext]; rfl
    by_cases hblank : Text.trimmed text = ""
    · exact .inl (blankInput_iff.2 (hblank ▸ hread))
    · right
      cases hsplit : tokens (Text.trimmed text) with
      | error e =>
        refine .inr ⟨unreadable (Text.trimmed text) e, rfl, ?_⟩
        rw [runInput_of_line hread, runLine, if_neg (by simpa using hblank), hsplit]
      | ok ws =>
        have hreads : Reads raw (Text.trimmed text) ws := ⟨hread, hsplit⟩
        cases ws with
        | nil => exact absurd hsplit (tokens_trimmed_ne_nil hblank)
        | cons name args =>
          exact (hreads.names_or_fails registry).imp_left fun hnames => ⟨_, hnames⟩

/-- Running the command that the first of some words names. -/
def lookedUp (registry : Registry Action) (line name : String) (args : List String) :
    Run Executed :=
  match registry.lookup name with
  | none => return ⟨line, "Unknown command: " ++ name, true, none⟩
  | some command => runCommand registry line command args

/-- A line that has words is looked up under the first of them. -/
theorem execute_of_reads {name : String} {args : List String} (h : Reads raw line (name :: args)) :
    execute registry raw = logged (lookedUp registry line name args) := by
  rw [execute_eq, runInput_of_reads h]
  rfl

/-- What is given at once is given by the execution. -/
theorem execute_of_pure {executed : Executed} (h : runInput registry raw = pure executed)
    (s : Session) : (execute registry raw s).1 = .ok executed := by
  have hrun : runInput registry raw s = (.ok executed, s) := by rw [h]; rfl
  obtain ⟨answer, s', hlogged, -⟩ := logged_ok hrun
  rw [execute_eq, hlogged]

/-- **A line has no tokens exactly if it is blank.**  Hence an execution gives the notice that no
command was provided, and runs none, exactly if the command line of the input is blank; it gives it
then because nothing is left of the line, and never because a line has no tokens.  Every other line
that can be split is looked up under its first word, which may be empty or a `#`. -/
theorem notice_iff_blank :
    (∀ line : String, tokens line = .ok [] ↔ Text.allBlank line.toList = true) ∧
    ∀ registry : Registry Action,
      (∀ raw s, ((∃ line, (execute registry raw s).1 = .ok (.nothing line)) ∧
          ∀ line command values, ¬ Names registry raw line command values) ↔ BlankInput raw) ∧
      (∀ raw, BlankInput raw → execute registry raw = logged (pure (.nothing ""))) ∧
      (∀ raw line, (lineOf raw).map Text.trimmed = .ok line → line ≠ "" →
        tokens line ≠ .ok [] ∧ ∀ ws, tokens line = .ok ws → ∃ name args, ws = name :: args ∧
          execute registry raw = logged (lookedUp registry line name args)) ∧
      ∀ raw, ∀ p ∈ [("''", ""), ("\"\"", ""), ("#", "#")],
        (lineOf raw).map Text.trimmed = .ok p.1 →
          execute registry raw = logged (lookedUp registry p.1 p.2 []) := by
  refine ⟨tokens_eq_nil_iff, fun registry => ⟨?_, ?_, ?_, ?_⟩⟩
  · intro raw s
    constructor
    · rintro ⟨⟨line, hnotice⟩, hnone⟩
      rcases blank_or_names_or_fails registry raw with
        hblank | ⟨_, _, _, hnames⟩ | ⟨executed, herror, hrun⟩
      · exact hblank
      · exact absurd hnames (hnone _ _ _)
      · -- every other answer is flagged as an error, and the notice is not
        rw [execute_of_pure hrun, Except.ok.injEq] at hnotice
        rw [hnotice] at herror
        cases herror
    · intro hblank
      exact ⟨⟨_, execute_of_pure (runInput_of_blank hblank) s⟩, fun _ _ _ => hblank.not_names⟩
  · intro raw hblank
    rw [execute_eq, runInput_of_blank hblank]
  · intro raw line hread hne
    have htokens := tokens_ne_nil_of_line hread hne
    refine ⟨htokens, fun ws hsplit => ?_⟩
    cases ws with
    | nil => exact absurd hsplit htokens
    | cons name args => exact ⟨name, args, rfl, execute_of_reads ⟨hread, hsplit⟩⟩
  · intro raw p hp hread
    have hsplit : tokens p.1 = .ok [p.2] := by
      simp only [List.mem_cons, List.not_mem_nil, or_false] at hp
      rcases hp with rfl | rfl | rfl <;> rfl
    exact execute_of_reads ⟨hread, hsplit⟩

/-- An empty word in quotes, with blanks around it, is looked up as the name of a command; a line of
blanks names none. -/
theorem notice_iff_blank_quotes :
    tokens "''" ≠ .ok [] ∧ execute builtins " '' " = logged (lookedUp builtins "''" "" []) ∧
      execute builtins " \t" = logged (pure (.nothing "")) := by
  have hline : (lineOf " '' ").map Text.trimmed = .ok "''" := rfl
  have hblank : BlankInput " \t" := ⟨" \t", rfl, rfl⟩
  exact ⟨((notice_iff_blank.2 builtins).2.2.1 " '' " "''" hline (by decide)).1,
    (notice_iff_blank.2 builtins).2.2.2 " '' " _ List.mem_cons_self hline,
    (notice_iff_blank.2 builtins).2.1 " \t" hblank⟩

end PostingTerminal.Terminal
