import Mathlib.Data.List.Induction
import Mathlib.Data.Set.Card
import PostingTerminal.CommandLine.Param
import PostingTerminal.Proofs.Keyed

/-!
# Parameters by position

Binding walks along tokens and parameters together.  Here it is told by position instead: a
parameter has a text (`ParamSpec.textAt`), which it may refuse (`ParamSpec.Refuses`).

* `bindFrom_append` — parameters behind others are bound to the tokens that the others leave, so
  **one parameter more is one step more** (`bind_concat`).
* `positional_of_ok`, `firstFailure_of_error` — what every such step preserves of the values that
  are bound, and of the failure that is reported.
* `bind_positional` — hence **binding is known in full by position**.
-/

namespace PostingTerminal.CommandLine

/-! ## Values by name -/

namespace Args

variable {args : Args} {name : String} {value : ParamValue}

/-- The names that have a value. -/
def names (args : Args) : List String := args.entries.map (·.1)

/-- What is found under a name after a value has been put there. -/
theorem get?_set (args : Args) (name : String) (value : ParamValue) (other : String) :
    (args.set name value).get? other = if other = name then some value else args.get? other :=
  lookup_cons_filter_ne args.entries name value other

/-- A name has a value exactly if it is among the names. -/
theorem isSome_get?_iff : (args.get? name).isSome = true ↔ name ∈ args.names := by
  rw [get?, List.lookup_isSome_iff]
  simp [names]

/-- Setting a value does not give a name twice. -/
theorem nodup_names_set (h : args.names.Nodup) (name : String) (value : ParamValue) :
    (args.set name value).names.Nodup := by
  unfold set names
  rw [List.map_cons, List.nodup_cons]
  refine ⟨?_, h.sublist (List.filter_sublist.map _)⟩
  simp

end Args

/-! ## One parameter -/

namespace ParamSpec

variable {spec : ParamSpec} {text : Option String} {e e' : Error}

/-- The text of a parameter at a position: the token there, its default once the tokens have run
out, or none. -/
def textAt (spec : ParamSpec) (tokens : List String) (i : Nat) : Option String :=
  tokens[i]?.or spec.default

/-- A parameter refuses to have no text if it is required, and a text that spells no value of its
type. -/
inductive Refuses (spec : ParamSpec) : Option String → Error → Prop
  | missing (hrequired : spec.isRequired = true) : Refuses spec none (.missingParameter spec.name)
  | invalid {raw : String} (hraw : ∀ value, spec.coerce raw ≠ .ok value) :
      Refuses spec (some raw) (.invalidType spec.name "number")

/-- A text is refused for one reason only. -/
theorem Refuses.unique (h : spec.Refuses text e) (h' : spec.Refuses text e') : e = e' := by
  cases h <;> cases h' <;> rfl

/-- A refusal names the parameter. -/
theorem Refuses.named (h : spec.Refuses text e) :
    e = .missingParameter spec.name ∨ e = .invalidType spec.name "number" := by
  cases h
  · exact .inl rfl
  · exact .inr rfl

/-- A text that cannot be turned into a value is refused. -/
theorem refuses_of_coerce {raw : String} (h : spec.coerce raw = .error e) :
    spec.Refuses (some raw) e := by
  have hraw : ∀ value, spec.coerce raw ≠ .ok value := by simp [h]
  unfold coerce at h
  split at h
  · cases h
  · split at h
    · cases h
    · cases h
      exact .invalid hraw
  · cases h

/-- A number that is read is not a NaN. -/
theorem isNaN_of_coerce {raw : String} {x : Float} (h : spec.coerce raw = .ok (.number x)) :
    x.isNaN = false := by
  unfold coerce at h
  split at h
  · cases h
  · split at h
    · next hread =>
      cases h
      simpa using (Option.filter_eq_some_iff.1 hread).2
    · cases h
  · cases h

/-- From the tokens at a position on, a parameter has the text at that position. -/
theorem rawFrom_drop (spec : ParamSpec) (tokens : List String) (i : Nat) :
    spec.rawFrom (tokens.drop i) = spec.textAt tokens i := by
  rw [rawFrom, textAt, List.head?_drop]
  cases tokens[i]? <;> rfl

/-- What comes of a parameter with a text, where values have been bound before. -/
inductive Yields (spec : ParamSpec) (args : Args) : Option String → Except Error Args → Prop
  | refused {text : Option String} {e : Error} (h : spec.Refuses text e) :
      Yields spec args text (.error e)
  | omitted (hoptional : spec.isRequired = false) : Yields spec args none (.ok args)
  | bound {raw : String} {value : ParamValue} (hraw : spec.coerce raw = .ok value) :
      Yields spec args (some raw) (.ok (args.set spec.name value))

/-- Binding one parameter yields what its text does. -/
theorem bindFrom_singleton (spec : ParamSpec) (tokens : List String) (i : Nat) (args : Args) :
    spec.Yields args (spec.textAt tokens i) (bindFrom [spec] (tokens.drop i) args) := by
  simp only [bindFrom, rawFrom_drop]
  cases spec.textAt tokens i with
  | none =>
    cases hrequired : spec.isRequired with
    | true => exact .refused (.missing hrequired)
    | false => exact .omitted hrequired
  | some raw =>
    cases hraw : spec.coerce raw with
    | error e =>
      simp only [hraw]
      exact .refused (refuses_of_coerce hraw)
    | ok value =>
      simp only [hraw]
      exact .bound hraw

/-- What is bound or left out is not refused. -/
theorem Yields.not_refuses {args args' : Args} (h : spec.Yields args text (.ok args')) :
    ¬ spec.Refuses text e := by
  intro hrefuses
  cases h with
  | omitted hoptional =>
    cases hrefuses with
    | missing hrequired => cases hoptional.symm.trans hrequired
  | bound hraw =>
    cases hrefuses with
    | invalid hnone => exact hnone _ hraw

end ParamSpec

/-! ## All parameters -/

section positions

variable {tokens : List String} {specs : List ParamSpec} {spec : ParamSpec} {args : Args}
  {i : Nat} {name : String} {value : ParamValue} {e e' : Error}

/-- Binding fails at a position if the parameter there refuses its text. -/
def FailsAt (tokens : List String) (specs : List ParamSpec) (i : Nat) (e : Error) : Prop :=
  ∃ spec, specs[i]? = some spec ∧ spec.Refuses (spec.textAt tokens i) e

/-- A name is given at a position if the parameter there has it, and has a text. -/
def GivenAt (tokens : List String) (specs : List ParamSpec) (i : Nat) (name : String) : Prop :=
  ∃ spec, specs[i]? = some spec ∧ spec.name = name ∧ (spec.textAt tokens i).isSome = true

/-- The first position at which binding fails. -/
def FailsFirstAt (tokens : List String) (specs : List ParamSpec) (i : Nat) (e : Error) : Prop :=
  FailsAt tokens specs i e ∧ ∀ j < i, ∀ e', ¬ FailsAt tokens specs j e'

/-- Behind parameters, a parameter more is at their number. -/
theorem getElem?_concat_eq_some {other : ParamSpec} : (specs ++ [spec])[i]? = some other ↔
    specs[i]? = some other ∨ i = specs.length ∧ spec = other := by
  rcases Nat.lt_trichotomy i specs.length with h | rfl | h
  · simp [List.getElem?_append_left h, Nat.ne_of_lt h]
  · simp
  · have hlength : (specs ++ [spec]).length ≤ i := by simpa using h
    simp [List.getElem?_eq_none (Nat.le_of_lt h), List.getElem?_eq_none hlength, Nat.ne_of_gt h]

/-- With one parameter more, a failure is one of the others or of the last. -/
theorem failsAt_concat : FailsAt tokens (specs ++ [spec]) i e ↔
    FailsAt tokens specs i e ∨ i = specs.length ∧ spec.Refuses (spec.textAt tokens i) e := by
  unfold FailsAt
  simp only [getElem?_concat_eq_some, or_and_right, exists_or, and_assoc, exists_and_left,
    exists_eq_left']

/-- With one parameter more, a name is given by one of the others or by the last. -/
theorem givenAt_concat : GivenAt tokens (specs ++ [spec]) i name ↔ GivenAt tokens specs i name ∨
    i = specs.length ∧ spec.name = name ∧ (spec.textAt tokens i).isSome = true := by
  unfold GivenAt
  simp only [getElem?_concat_eq_some, or_and_right, exists_or, and_assoc, exists_and_left,
    exists_eq_left']

/-- What fails is one of the parameters. -/
theorem FailsAt.lt_length (h : FailsAt tokens specs i e) : i < specs.length := by
  obtain ⟨spec, hspec, -⟩ := h
  exact (List.getElem?_eq_some_iff.1 hspec).1

/-- There is one first failure at most. -/
theorem FailsFirstAt.unique {j : Nat} (h : FailsFirstAt tokens specs i e)
    (h' : FailsFirstAt tokens specs j e') : e = e' := by
  obtain ⟨⟨spec, hspec, hrefuses⟩, hfirst⟩ := h
  obtain ⟨⟨spec', hspec', hrefuses'⟩, hfirst'⟩ := h'
  rcases Nat.lt_trichotomy i j with hlt | rfl | hlt
  · exact absurd ⟨spec, hspec, hrefuses⟩ (hfirst' i hlt e)
  · cases hspec.symm.trans hspec'
    exact hrefuses.unique hrefuses'
  · exact absurd ⟨spec', hspec', hrefuses'⟩ (hfirst j hlt e')

/-! ### Steps -/

/-- Parameters behind others are bound to the tokens that these leave. -/
theorem bindFrom_append (front back : List ParamSpec) (tokens : List String) (args : Args) :
    bindFrom (front ++ back) tokens args = (bindFrom front tokens args).bind fun args =>
      bindFrom back (tokens.drop front.length) args := by
  induction front generalizing tokens args with
  | nil => rfl
  | cons spec front ih =>
    simp only [List.cons_append, List.length_cons, ← List.drop_tail, bindFrom]
    split
    · split
      · rfl
      · exact ih tokens.tail args
    · split
      · rfl
      · exact ih tokens.tail _

/-- A failure stays, whatever parameters are behind it. -/
theorem bind_concat_of_error (h : bind tokens specs = .error e) (spec : ParamSpec) :
    bind tokens (specs ++ [spec]) = .error e := by
  unfold bind at h ⊢
  rw [bindFrom_append, h]
  rfl

/-- **One parameter more is one step more.** -/
theorem bind_concat_of_ok (h : bind tokens specs = .ok args) (spec : ParamSpec) :
    spec.Yields args (spec.textAt tokens specs.length) (bind tokens (specs ++ [spec])) := by
  unfold bind at h ⊢
  rw [bindFrom_append, h]
  exact spec.bindFrom_singleton tokens specs.length args

/-- Values that are bound by position. -/
structure Positional (tokens : List String) (specs : List ParamSpec) (args : Args) : Prop where
  accepted : ∀ i e, ¬ FailsAt tokens specs i e
  nodup : args.names.Nodup
  isSome_iff : ∀ name, (args.get? name).isSome = true ↔ ∃ i, GivenAt tokens specs i name
  last : ∀ i spec raw, specs[i]? = some spec → spec.textAt tokens i = some raw →
    (∀ j > i, ¬ GivenAt tokens specs j spec.name) →
      ∃ value, spec.coerce raw = .ok value ∧ args.get? spec.name = some value
  number : ∀ name x, args.get? name = some (.number x) → x.isNaN = false

/-- No parameters are bound to no values. -/
theorem Positional.empty : Positional tokens [] .empty where
  accepted := by
    rintro i e ⟨spec, hspec, -⟩
    cases hspec
  nodup := List.nodup_nil
  isSome_iff name := by
    refine iff_of_false nofun ?_
    rintro ⟨i, spec, hspec, -⟩
    cases hspec
  last i spec raw hspec := by cases hspec
  number name x hx := by cases hx

/-- A parameter more is accepted if it refuses nothing. -/
theorem Positional.accepted_concat (h : Positional tokens specs args)
    (hspec : ∀ e, ¬ spec.Refuses (spec.textAt tokens specs.length) e) (i : Nat) (e : Error) :
    ¬ FailsAt tokens (specs ++ [spec]) i e := by
  rw [failsAt_concat]
  rintro (hfails | ⟨rfl, hrefuses⟩)
  · exact h.accepted i e hfails
  · exact hspec e hrefuses

/-- A parameter without a text adds nothing. -/
theorem Positional.concat_omitted (h : Positional tokens specs args)
    (htext : spec.textAt tokens specs.length = none)
    (hspec : ∀ e, ¬ spec.Refuses (spec.textAt tokens specs.length) e) :
    Positional tokens (specs ++ [spec]) args := by
  have hgiven {i : Nat} {name : String} :
      GivenAt tokens (specs ++ [spec]) i name ↔ GivenAt tokens specs i name := by
    rw [givenAt_concat]
    refine or_iff_left ?_
    rintro ⟨rfl, -, hsome⟩
    simp [htext] at hsome
  refine ⟨h.accepted_concat hspec, h.nodup, ?_, ?_, h.number⟩
  · simpa only [hgiven] using h.isSome_iff
  · intro i other raw hother hraw hlast
    simp only [hgiven] at hlast
    rcases getElem?_concat_eq_some.1 hother with hother | ⟨rfl, rfl⟩
    · exact h.last i other raw hother hraw hlast
    · rw [htext] at hraw
      cases hraw

/-- A parameter with a text takes over its name. -/
theorem Positional.concat_bound {text : String} (h : Positional tokens specs args)
    (htext : spec.textAt tokens specs.length = some text) (hvalue : spec.coerce text = .ok value)
    (hspec : ∀ e, ¬ spec.Refuses (spec.textAt tokens specs.length) e) :
    Positional tokens (specs ++ [spec]) (args.set spec.name value) := by
  have hgiven : GivenAt tokens (specs ++ [spec]) specs.length spec.name :=
    givenAt_concat.2 (.inr ⟨rfl, rfl, by rw [htext]; rfl⟩)
  refine ⟨h.accepted_concat hspec, Args.nodup_names_set h.nodup _ _, ?_, ?_, ?_⟩
  · intro name
    rw [Args.get?_set]
    split_ifs with hname
    · exact iff_of_true rfl ⟨specs.length, hname ▸ hgiven⟩
    · rw [h.isSome_iff]
      apply exists_congr
      intro i
      rw [givenAt_concat]
      exact (or_iff_left fun hnew => hname hnew.2.1.symm).symm
  · intro i other raw hother hraw hlast
    rw [Args.get?_set]
    rcases getElem?_concat_eq_some.1 hother with hother | ⟨rfl, rfl⟩
    · have hi : i < specs.length := (List.getElem?_eq_some_iff.1 hother).1
      have hname : other.name ≠ spec.name := fun heq => hlast _ hi (heq ▸ hgiven)
      rw [if_neg hname]
      exact h.last i other raw hother hraw fun j hj hlater =>
        hlast j hj (givenAt_concat.2 (.inl hlater))
    · cases htext.symm.trans hraw
      exact ⟨value, hvalue, if_pos rfl⟩
  · intro name x
    rw [Args.get?_set]
    split_ifs
    · rintro ⟨⟩
      exact ParamSpec.isNaN_of_coerce hvalue
    · exact h.number name x

/-! ### Runs -/

/-- **Values are bound by position**, however many parameters there are. -/
theorem positional_of_ok (h : bind tokens specs = .ok args) : Positional tokens specs args := by
  -- On the last parameter: what was bound without it is positional, and it adds its own value.
  induction specs using List.reverseRecOn generalizing args with
  | nil =>
    cases h
    exact .empty
  | append_singleton specs spec ih =>
    cases hbefore : bind tokens specs with
    | error e => cases h.symm.trans (bind_concat_of_error hbefore spec)
    | ok before =>
      have hyields := bind_concat_of_ok hbefore spec
      rw [h] at hyields
      have hspec (e : Error) := hyields.not_refuses (e := e)
      generalize htext : spec.textAt tokens specs.length = text at hyields
      cases hyields with
      | omitted => exact (ih hbefore).concat_omitted htext hspec
      | bound hvalue => exact (ih hbefore).concat_bound htext hvalue hspec

/-- **The first failure is reported.** -/
theorem failsFirst_of_error (h : bind tokens specs = .error e) :
    ∃ i, FailsFirstAt tokens specs i e := by
  -- On the last parameter: an earlier failure stays the first, and else this one is.
  induction specs using List.reverseRecOn generalizing e with
  | nil => cases h
  | append_singleton specs spec ih =>
    cases hbefore : bind tokens specs with
    | error e' =>
      cases h.symm.trans (bind_concat_of_error hbefore spec)
      obtain ⟨i, hfails, hfirst⟩ := ih hbefore
      refine ⟨i, failsAt_concat.2 (.inl hfails), ?_⟩
      intro j hj e' hearlier
      rcases failsAt_concat.1 hearlier with hearlier | ⟨rfl, -⟩
      · exact hfirst j hj e' hearlier
      · exact Nat.lt_asymm hj hfails.lt_length
    | ok before =>
      have hyields := bind_concat_of_ok hbefore spec
      rw [h] at hyields
      generalize htext : spec.textAt tokens specs.length = text at hyields
      cases hyields with
      | refused hrefuses =>
        subst htext
        refine ⟨specs.length, failsAt_concat.2 (.inr ⟨rfl, hrefuses⟩), ?_⟩
        intro j hj e' hearlier
        rcases failsAt_concat.1 hearlier with hearlier | ⟨rfl, -⟩
        · exact (positional_of_ok hbefore).accepted j e' hearlier
        · exact Nat.lt_irrefl _ hj

/-- Binding succeeds exactly if no parameter refuses its text. -/
theorem bind_ok_iff :
    (∃ args, bind tokens specs = .ok args) ↔ ∀ i e, ¬ FailsAt tokens specs i e := by
  cases h : bind tokens specs with
  | ok args => exact iff_of_true ⟨args, rfl⟩ (positional_of_ok h).accepted
  | error e =>
    obtain ⟨i, hfails, -⟩ := failsFirst_of_error h
    exact iff_of_false nofun fun hnone => hnone i e hfails

/-- Binding fails with the first failure. -/
theorem bind_error_iff : bind tokens specs = .error e ↔ ∃ i, FailsFirstAt tokens specs i e := by
  refine ⟨failsFirst_of_error, ?_⟩
  rintro ⟨i, hfirst⟩
  cases h : bind tokens specs with
  | ok args => exact absurd hfirst.1 ((positional_of_ok h).accepted i e)
  | error e' =>
    obtain ⟨j, hfirst'⟩ := failsFirst_of_error h
    rw [hfirst.unique hfirst']

/-- Tokens behind those of the parameters are not looked at. -/
theorem bindFrom_surplus (h : specs.length ≤ tokens.length) (extra : List String) (args : Args) :
    bindFrom specs (tokens ++ extra) args = bindFrom specs tokens args := by
  induction specs generalizing tokens args with
  | nil => rfl
  | cons spec specs ih =>
    cases tokens with
    | nil => simp at h
    | cons token tokens =>
      have hrest (args : Args) := ih (Nat.le_of_succ_le_succ h) args
      simp only [List.cons_append, bindFrom, ParamSpec.rawFrom, List.head?_cons, List.tail_cons,
        hrest]

/-- Every name that is bound counts once. -/
theorem Positional.size_eq (h : Positional tokens specs args) :
    args.size = {name | ∃ i, GivenAt tokens specs i name}.ncard := by
  have hnames : {name | ∃ i, GivenAt tokens specs i name} = (args.names.toFinset : Set String) := by
    ext name
    rw [Set.mem_ofPred_eq, ← h.isSome_iff, Args.isSome_get?_iff, List.coe_toFinset]
    rfl
  rw [hnames, Set.ncard_coe_finset, List.toFinset_card_of_nodup h.nodup, Args.names,
    List.length_map]
  rfl

/-- **Binding is known in full by position.**  A parameter has the token at its position for its
text, its default where the tokens have run out, or none.  It refuses to have none if it is
required, and a text that is no value of its type.  Binding succeeds exactly if no parameter
refuses its text; otherwise the error is that of the first that does, and names it.  Of values
that are bound, the names are those of the parameters with a text, each counts once, its value is
that of the text of the last parameter with the name, and no number is a NaN.  Tokens behind
those of the parameters change nothing. -/
theorem bind_positional (tokens : List String) (specs : List ParamSpec) :
    ((∃ args, bind tokens specs = .ok args) ↔ ∀ i e, ¬ FailsAt tokens specs i e) ∧
    (∀ e, bind tokens specs = .error e ↔
      ∃ i, FailsAt tokens specs i e ∧ ∀ j < i, ∀ e', ¬ FailsAt tokens specs j e') ∧
    (∀ args, bind tokens specs = .ok args →
      (∀ name, (args.get? name).isSome = true ↔ ∃ i, GivenAt tokens specs i name) ∧
      (∀ i spec raw, specs[i]? = some spec → spec.textAt tokens i = some raw →
        (∀ j > i, ¬ GivenAt tokens specs j spec.name) →
          ∃ value, spec.coerce raw = .ok value ∧ args.get? spec.name = some value) ∧
      args.size = {name | ∃ i, GivenAt tokens specs i name}.ncard ∧
      ∀ name x, args.get? name = some (.number x) → x.isNaN = false) ∧
    (specs.length ≤ tokens.length →
      ∀ extra, bind (tokens ++ extra) specs = bind tokens specs) := by
  refine ⟨bind_ok_iff, fun e => bind_error_iff, ?_, fun h extra => bindFrom_surplus h extra _⟩
  intro args hok
  have h := positional_of_ok hok
  exact ⟨h.isSome_iff, h.last, h.size_eq, h.number⟩

end positions

end PostingTerminal.CommandLine
