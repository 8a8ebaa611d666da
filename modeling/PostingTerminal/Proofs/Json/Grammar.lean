import PostingTerminal.Proofs.Json.Reading

/-!
# JSON texts of any form

The grammar of JSON as texts: gaps may stand around every token, a string may be written in any way
that stands for it, and lists and objects may hold anything, however deep.

* `Row` — items between brackets, with commas between them; `IsList` and `IsObject` are rows behind
  an opening bracket, and `IsJson` is **any value at all**.
* `Skipped` — a text that is passed over as a value; every JSON text is one
  (`skipped_of_isJson`), by induction on how it is built.
* `skipValue_isJson` — **a value is passed over** to its end, and no further.
-/

namespace PostingTerminal.Json

/-! ## The grammar -/

/-- What stands before an item: a gap, and behind a gap a comma unless the item is the first. -/
def Separates : (first : Bool) → List Char → Prop
  | true, cs => IsGap cs
  | false, cs => ∃ before behind, IsGap before ∧ IsGap behind ∧ cs = before ++ ',' :: behind

/-- **Items up to the closing bracket**, each a text of what stands for it in the list. -/
inductive Row {α : Type} (Item : List Char → α → Prop) (closer : Char) :
    (first : Bool) → List Char → List α → Prop
  | close {first : Bool} {gap : List Char} (hgap : IsGap gap) :
      Row Item closer first (gap ++ [closer]) []
  | item {first : Bool} {separator text more : List Char} {a : α} {as : List α}
      (hseparator : Separates first separator) (ht : Item text a)
      (hmore : Row Item closer false more as) :
      Row Item closer first (separator ++ (text ++ more)) (a :: as)

/-- A text of a list. -/
def IsList {α : Type} (Item : List Char → α → Prop) (text : List Char) (as : List α) : Prop :=
  ∃ body, text = '[' :: body ∧ Row Item ']' true body as

/-- A text of a member: a text of its key, a colon and the text of its value. -/
def IsMember (text : List Char) (m : String × List Char) : Prop :=
  ∃ key before behind, Quotes key m.1 ∧ IsGap before ∧ IsGap behind ∧
    text = key ++ (before ++ ':' :: (behind ++ m.2))

/-- A text of an object, given by the keys of its members and the texts of their values. -/
def IsObject (text : List Char) (members : List (String × List Char)) : Prop :=
  ∃ body, text = '{' :: body ∧ Row IsMember '}' true body members

/-- One digit or more. -/
def IsDigits (cs : List Char) : Prop := cs ≠ [] ∧ ∀ c ∈ cs, c.isDigit = true

/-- The whole part of a number, which starts with a zero only if it is zero. -/
inductive IsWhole : List Char → Prop
  | zero : IsWhole ['0']
  | digits {d : Char} {ds : List Char} (hd : d ≠ '0') (h : ∀ c ∈ d :: ds, c.isDigit = true) :
      IsWhole (d :: ds)

/-- The exponent of a number, if it has one. -/
inductive IsExponent : List Char → Prop
  | none : IsExponent []
  | some {letter : Char} {sign digits : List Char} (hletter : letter = 'e' ∨ letter = 'E')
      (hsign : sign = [] ∨ sign = ['+'] ∨ sign = ['-']) (h : IsDigits digits) :
      IsExponent (letter :: (sign ++ digits))

/-- What follows the whole part of a number. -/
inductive IsFraction : List Char → Prop
  | none {exponent : List Char} (h : IsExponent exponent) : IsFraction exponent
  | some {digits exponent : List Char} (hdigits : IsDigits digits) (h : IsExponent exponent) :
      IsFraction ('.' :: (digits ++ exponent))

/-- A text of a number. -/
def IsNumeral (text : List Char) : Prop :=
  ∃ sign whole fraction, (sign = [] ∨ sign = ['-']) ∧ IsWhole whole ∧ IsFraction fraction ∧
    text = sign ++ (whole ++ fraction)

/-- **A JSON text**, of any value. -/
inductive IsJson : List Char → Prop
  | null : IsJson (Value.compact .null)
  | bool (b : Bool) : IsJson (Value.compact (.bool b))
  | number {text : List Char} (h : IsNumeral text) : IsJson text
  | string {text : List Char} {s : String} (h : Quotes text s) : IsJson text
  | list {text : List Char} {items : List (List Char)} (h : IsList Eq text items)
      (hitems : ∀ t ∈ items, IsJson t) : IsJson text
  | object {text : List Char} {members : List (String × List Char)} (h : IsObject text members)
      (hmembers : ∀ m ∈ members, IsJson m.2) : IsJson text

/-! ## Rows -/

/-- A text that starts with neither a blank nor the end of a list. -/
def IsItem (text : List Char) : Prop :=
  ∃ c cs, text = c :: cs ∧ isSpace c = false ∧ c ≠ ']'

/-- An item is no empty text. -/
theorem IsItem.ne_nil {text : List Char} (h : IsItem text) : text ≠ [] := by
  obtain ⟨c, cs, rfl, -, -⟩ := h
  exact List.cons_ne_nil c cs

section rows

variable {α β : Type} {Item : List Char → α → Prop} {closer : Char} {first : Bool}
  {text : List Char} {as : List α}

/-- Items that are texts of one thing are texts of another. -/
theorem Row.map {Other : List Char → β → Prop} {f : α → β} (h : Row Item closer first text as)
    (hitem : ∀ t, ∀ a ∈ as, Item t a → Other t (f a)) :
    Row Other closer first text (as.map f) := by
  induction h with
  | close hgap => exact .close hgap
  | item hseparator ht _ ih =>
    refine .item hseparator (hitem _ _ List.mem_cons_self ht) (ih ?_)
    intro t a ha
    exact hitem t a (List.mem_cons_of_mem _ ha)

/-- A row ends with its bracket. -/
theorem Row.eq_append (h : Row Item closer first text as) : ∃ front, text = front ++ [closer] := by
  induction h with
  | close _ => exact ⟨_, rfl⟩
  | @item _ separator text _ _ _ _ _ _ ih =>
    obtain ⟨front, rfl⟩ := ih
    exact ⟨separator ++ (text ++ front), by simp only [List.append_assoc]⟩

/-- What follows an item does not continue a number. -/
theorem Row.endsNumber (hclose : closer = ']' ∨ closer = '}')
    (h : Row Item closer false text as) (rest : List Char) : EndsNumber (text ++ rest) := by
  cases h with
  | close hgap =>
    rw [List.append_assoc]
    apply EndsNumber.append hgap
    rcases hclose with rfl | rfl <;> exact endsNumber_cons (by decide)
  | item hseparator _ _ =>
    obtain ⟨before, behind, hbefore, -, rfl⟩ := hseparator
    simp only [List.append_assoc, List.cons_append]
    exact EndsNumber.append hbefore (endsNumber_cons (by decide))

end rows

/-! ## Scalars are passed over -/

/-- A character that stands for itself is passed over. -/
theorem skipString_plain {c : Char} (hquote : c ≠ '"') (hback : c ≠ '\\') (hcontrol : 32 ≤ c.toNat)
    (cs : List Char) : skipString (c :: cs) = skipString cs := by
  rw [skipString, if_neg (Nat.not_lt.2 hcontrol)]
  · exact hquote
  · exact fun h _ => hback h
  · exact fun _ _ h _ => hback h

/-- A hexadecimal digit stands for itself. -/
theorem IsDigit.plain {c : Char} {value : Nat} (h : IsDigit c value) :
    c ≠ '"' ∧ c ≠ '\\' ∧ 32 ≤ c.toNat := by
  have hlower : ∀ v, v < 16 → Nat.digitChar v ≠ '"' ∧ Nat.digitChar v ≠ '\\' ∧
      32 ≤ (Nat.digitChar v).toNat := by decide
  have hupper : ∀ v, v < 16 → (Nat.digitChar v).toUpper ≠ '"' ∧
      (Nat.digitChar v).toUpper ≠ '\\' ∧ 32 ≤ (Nat.digitChar v).toUpper.toNat := by decide
  obtain ⟨hvalue, rfl | rfl⟩ := h
  · exact hlower value hvalue
  · exact hupper value hvalue

/-- The number of a character or surrogate is passed over. -/
theorem skipString_unit {digits : List Char} {n : Nat} (h : IsUnit digits n) (cs : List Char) :
    skipString ('\\' :: 'u' :: (digits ++ cs)) = skipString cs := by
  have hdigit {c : Char} {value : Nat} (h : IsDigit c value) (cs : List Char) :
      skipString (c :: cs) = skipString cs := skipString_plain h.plain.1 h.plain.2.1 h.plain.2.2 cs
  rw [skipString]
  simp only [if_true, scanHex_isUnit h]
  obtain ⟨ha, hb, hc, hd⟩ := h
  simp only [List.cons_append, List.nil_append, hdigit ha, hdigit hb, hdigit hc, hdigit hd]

/-- Passing over a string goes on behind a text that stands for a character. -/
theorem skipString_spells {text : List Char} {c : Char} (h : Spells text c) (cs : List Char) :
    skipString (text ++ cs) = skipString cs := by
  cases h with
  | plain hquote hback hcontrol => exact skipString_plain hquote hback hcontrol cs
  | short h =>
    simp only [shortEscapes, List.mem_cons, Prod.mk.injEq, List.not_mem_nil, or_false] at h
    rcases h with ⟨rfl, rfl⟩ | ⟨rfl, rfl⟩ | ⟨rfl, rfl⟩ | ⟨rfl, rfl⟩ | ⟨rfl, rfl⟩ | ⟨rfl, rfl⟩ |
      ⟨rfl, rfl⟩ | ⟨rfl, rfl⟩ <;> rfl
  | unit h => exact skipString_unit h cs
  | pair _ _ _ hdigits hmore =>
    rw [List.cons_append, List.cons_append, List.append_assoc, List.cons_append, List.cons_append,
      skipString_unit hdigits, skipString_unit hmore]

/-- A string is passed over up to its closing quote. -/
theorem skipString_spelling {text s : List Char} (h : Spelling text s) (cs : List Char) :
    skipString (text ++ '"' :: cs) = .ok cs := by
  induction h with
  | nil => rfl
  | cons h _ ih => rw [List.append_assoc, skipString_spells h, ih]

section numbers

variable {rest : List Char}

/-- Digits start with one. -/
theorem IsDigits.startsDigit {digits : List Char} (h : IsDigits digits) :
    startsDigit (digits ++ rest) = true := by
  obtain ⟨hne, hall⟩ := h
  obtain ⟨d, ds, rfl⟩ := List.exists_cons_of_ne_nil hne
  exact hall d List.mem_cons_self

/-- What follows the digits of a number is no digit. -/
theorem IsExponent.startsDigit {exponent : List Char} (h : IsExponent exponent)
    (hr : EndsNumber rest) : startsDigit (exponent ++ rest) = false := by
  cases h with
  | none => exact hr.startsDigit_eq_false
  | some hletter _ _ => rcases hletter with rfl | rfl <;> rfl

/-- Nor is it a point. -/
theorem IsExponent.ne_point {exponent more : List Char} (h : IsExponent exponent)
    (hr : EndsNumber rest) : exponent ++ rest ≠ '.' :: more := by
  intro heq
  cases h with
  | none =>
    rw [List.nil_append] at heq
    exact (hr '.' (by rw [heq]; rfl)).2.1 rfl
  | some hletter _ _ => rcases hletter with rfl | rfl <;> cases heq

/-- An exponent is passed over, its letter having been read. -/
theorem skipExponent_eq {sign digits : List Char} (hsign : sign = [] ∨ sign = ['+'] ∨ sign = ['-'])
    (h : IsDigits digits) (hr : EndsNumber rest) :
    skipExponent (sign ++ (digits ++ rest)) = .ok rest := by
  have hdrop := dropWhile_isDigit h.2 hr.startsDigit_eq_false
  have hstarts : startsDigit (digits ++ rest) = true := h.startsDigit
  rcases hsign with rfl | rfl | rfl
  · obtain ⟨hne, hall⟩ := h
    obtain ⟨d, ds, rfl⟩ := List.exists_cons_of_ne_nil hne
    have hd : d.isDigit = true := hall d List.mem_cons_self
    unfold skipExponent
    simp only [List.nil_append, List.cons_append] at hdrop hstarts ⊢
    split
    · next heq => cases heq; cases hd
    · next heq => cases heq; cases hd
    · rw [if_pos hstarts, hdrop]
  all_goals
    simp only [skipExponent, List.cons_append, List.nil_append, hstarts, hdrop, if_true]

/-- An exponent, or none, is passed over. -/
theorem skipAfterDigits_eq {exponent : List Char} (h : IsExponent exponent)
    (hr : EndsNumber rest) : skipAfterDigits (exponent ++ rest) = .ok rest := by
  cases h with
  | none =>
    rw [List.nil_append]
    unfold skipAfterDigits
    split
    · exact absurd rfl (hr 'e' rfl).2.2.1
    · exact absurd rfl (hr 'E' rfl).2.2.2
    · rfl
  | some hletter hsign hdigits =>
    rw [List.cons_append, List.append_assoc]
    rcases hletter with rfl | rfl
    all_goals exact skipExponent_eq hsign hdigits hr

/-- What follows the whole part of a number is no digit. -/
theorem IsFraction.startsDigit {fraction : List Char} (h : IsFraction fraction)
    (hr : EndsNumber rest) : startsDigit (fraction ++ rest) = false := by
  cases h with
  | none h => exact h.startsDigit hr
  | some _ _ => rfl

/-- A number is passed over, its sign having been read. -/
theorem skipNumber_eq {whole fraction : List Char} (hwhole : IsWhole whole)
    (hfraction : IsFraction fraction) (hr : EndsNumber rest) :
    skipNumber (whole ++ (fraction ++ rest)) = .ok rest := by
  have hstarts := hfraction.startsDigit hr
  obtain ⟨d, ds, rfl, hzero, hdigits⟩ : ∃ d ds, whole = d :: ds ∧
      ¬ (d = '0' ∧ startsDigit (ds ++ (fraction ++ rest)) = true) ∧
      ∀ c ∈ d :: ds, c.isDigit = true := by
    cases hwhole with
    | zero => exact ⟨_, _, rfl, by simp [hstarts], by simp⟩
    | digits hd h => exact ⟨_, _, rfl, fun hzero => hd hzero.1, h⟩
  rw [List.cons_append, skipNumber, if_neg hzero, if_pos (hdigits d List.mem_cons_self),
    ← List.cons_append, dropWhile_isDigit hdigits hstarts]
  cases hfraction with
  | none hexponent =>
    split
    · next heq => exact absurd heq (hexponent.ne_point hr)
    · exact skipAfterDigits_eq hexponent hr
  | @some more exponent hmore hexponent =>
    simp only [List.cons_append, List.append_assoc, hmore.startsDigit, if_true,
      dropWhile_isDigit hmore.2 (hexponent.startsDigit hr)]
    exact skipAfterDigits_eq hexponent hr

end numbers

/-! ## Any value is passed over -/

/-- **A text is passed over as a value**, in fewer steps than twice its length. -/
def Skipped (text : List Char) : Prop :=
  ∃ k, k + 1 ≤ 2 * text.length ∧ ∀ n stack gap rest, IsGap gap → EndsNumber rest →
    skipOpen (k + n) .value stack (gap ++ (text ++ rest)) = skipOpen n .ended stack rest

/-- A digit is no blank. -/
theorem isSpace_of_isDigit {c : Char} (h : c.isDigit = true) : isSpace c = false := by
  apply Bool.eq_false_iff.2
  intro hspace
  have hno : c.isDigit = false := (endsNumber_of_isSpace hspace [] c rfl).1
  simp [h] at hno

/-- A number starts with its sign or with a digit. -/
theorem IsNumeral.isItem {text : List Char} (h : IsNumeral text) : IsItem text := by
  obtain ⟨sign, whole, fraction, rfl | rfl, hwhole, -, rfl⟩ := h
  · cases hwhole with
    | zero => exact ⟨_, _, rfl, by decide, by decide⟩
    | @digits d _ _ hdigits =>
      have hd : d.isDigit = true := hdigits d List.mem_cons_self
      refine ⟨_, _, rfl, isSpace_of_isDigit hd, ?_⟩
      rintro rfl
      cases hd
  · exact ⟨_, _, rfl, by decide, by decide⟩

/-- What starts with a digit is passed over as a number. -/
theorem skipScalar?_digit {c : Char} (h : c.isDigit = true) (cs : List Char) :
    skipScalar? (c :: cs) = some (skipNumber (c :: cs)) := by
  unfold skipScalar?
  split
  case h_9 heq =>
    obtain ⟨rfl, rfl⟩ := List.cons.inj heq
    rw [if_pos h]
  all_goals
    next heq =>
      cases heq
      try cases h

/-- A scalar is passed over in one step. -/
theorem skipped_of_scalar {text : List Char} (hitem : IsItem text)
    (h : ∀ rest, EndsNumber rest → skipScalar? (text ++ rest) = some (.ok rest)) :
    Skipped text := by
  obtain ⟨c, cs, rfl, hc, -⟩ := hitem
  refine ⟨1, by rw [List.length_cons]; omega, ?_⟩
  intro n stack gap rest hgap hrest
  have hscalar := h rest hrest
  rw [List.cons_append] at hscalar ⊢
  rw [Nat.add_comm, skipOpen]
  simp only [skipSpace_append_cons hgap hc, hscalar]

/-- A number is passed over. -/
theorem IsNumeral.skipped {text : List Char} (h : IsNumeral text) : Skipped text := by
  apply skipped_of_scalar h.isItem
  intro rest hrest
  obtain ⟨sign, whole, fraction, rfl | rfl, hwhole, hfraction, rfl⟩ := h
  · have hnumber := skipNumber_eq hwhole hfraction hrest
    rw [List.nil_append, List.append_assoc]
    cases hwhole with
    | zero => exact congrArg some hnumber
    | @digits d _ _ hdigits =>
      rw [List.cons_append] at hnumber ⊢
      rw [skipScalar?_digit (hdigits d List.mem_cons_self), hnumber]
  · rw [List.append_assoc, List.append_assoc]
    exact congrArg some (skipNumber_eq hwhole hfraction hrest)

/-- A string starts with its quote. -/
theorem Quotes.isItem {text : List Char} {s : String} (h : Quotes text s) : IsItem text := by
  obtain ⟨inner, -, rfl⟩ := h
  exact ⟨_, _, rfl, by decide, by decide⟩

/-- A string is passed over. -/
theorem Quotes.skipped {text : List Char} {s : String} (h : Quotes text s) : Skipped text := by
  apply skipped_of_scalar h.isItem
  intro rest _
  obtain ⟨inner, hinner, rfl⟩ := h
  rw [List.cons_append, List.append_assoc]
  exact congrArg some (skipString_spelling hinner rest)

/-- The bracket that closes a list or an object. -/
def Frame.closer : Frame → Char
  | .list => ']'
  | .object => '}'

/-- An item of a list, or a member of an object, whose value is passed over. -/
structure Frame.Enters (frame : Frame) (text : List Char) : Prop where
  head : ∃ c cs, text = c :: cs ∧ isSpace c = false ∧ c ≠ frame.closer
  value : ∃ value, Skipped value ∧ value.length ≤ text.length ∧ ∀ outer rest, IsGap outer →
    ∃ gap, IsGap gap ∧ frame.enter (outer ++ (text ++ rest)) = .ok (gap ++ (value ++ rest))

/-- The closing bracket takes a step. -/
theorem skipOpen_close {frame : Frame} {gap : List Char} (hgap : IsGap gap) {state : SkipState}
    (hstate : state ≠ .value) (n : Nat) (stack : List Frame) (rest : List Char) :
    skipOpen (n + 1) state (frame :: stack) (gap ++ (frame.closer :: rest))
      = skipOpen n .ended stack rest := by
  cases state with
  | value => exact absurd rfl hstate
  | opened | ended =>
    cases frame with
    | list => simp only [skipOpen, Frame.closer, skipSpace_append_cons hgap (c := ']') rfl]
    | object => simp only [skipOpen, Frame.closer, skipSpace_append_cons hgap (c := '}') rfl]

/-- Where reading is before an item: the list or object has just been opened, or an item has
ended. -/
def SkipState.beforeItem (first : Bool) : SkipState := if first then .opened else .ended

/-- What leads to the value of an item takes a step. -/
theorem skipOpen_separator {frame : Frame} {first : Bool} {separator text : List Char}
    (hseparator : Separates first separator) (h : frame.Enters text) (rest : List Char) :
    ∃ outer, IsGap outer ∧ ∀ n stack inside,
      frame.enter (outer ++ (text ++ rest)) = .ok inside →
      skipOpen (n + 1) (.beforeItem first) (frame :: stack) (separator ++ (text ++ rest))
        = skipOpen n .value (frame :: stack) inside := by
  obtain ⟨c, cs, rfl, hc, hend⟩ := h.head
  cases first with
  | true =>
    refine ⟨[], isGap_nil, fun n stack inside henter => ?_⟩
    rw [List.nil_append, List.cons_append] at henter
    have hskip : skipSpace (separator ++ (c :: cs ++ rest)) = c :: (cs ++ rest) :=
      skipSpace_append_cons hseparator hc (cs ++ rest)
    rw [SkipState.beforeItem, if_pos rfl, skipOpen.eq_def]
    simp only [hskip]
    split
    · next heq => cases heq
    · next heq => cases heq
    · next heq => exact absurd (List.cons.inj heq).1 hend
    · next heq => exact absurd (List.cons.inj heq).1 hend
    · next heq =>
      obtain ⟨rfl, rfl⟩ := List.cons.inj heq
      simp [henter]
  | false =>
    obtain ⟨before, behind, hbefore, hbehind, rfl⟩ := hseparator
    refine ⟨behind, hbehind, fun n stack inside henter => ?_⟩
    have hskip (cs : List Char) : skipSpace (before ++ ',' :: cs) = ',' :: cs :=
      skipSpace_append_cons hbefore (by decide) cs
    rw [List.cons_append] at henter
    rw [List.append_assoc, List.cons_append, SkipState.beforeItem, if_neg Bool.false_ne_true,
      skipOpen.eq_def]
    cases frame <;> simp [hskip, henter]

/-- **The rest of a list or an object is passed over**, by induction on the items that are left. -/
theorem skipOpen_row {α : Type} {frame : Frame} {first : Bool} {text : List Char} {as : List α}
    (h : Row (fun t _ => frame.Enters t) frame.closer first text as) :
    ∃ k, k + 1 ≤ 2 * text.length ∧ ∀ n stack rest,
      skipOpen (k + n) (.beforeItem first) (frame :: stack) (text ++ rest)
        = skipOpen n .ended stack rest := by
  have hclose : frame.closer = ']' ∨ frame.closer = '}' := by cases frame <;> simp [Frame.closer]
  induction h with
  | @close first gap hgap =>
    refine ⟨1, by simp only [List.length_append, List.length_singleton]; omega, ?_⟩
    intro n stack rest
    rw [List.append_assoc, List.singleton_append, Nat.add_comm]
    apply skipOpen_close hgap
    cases first <;> nofun
  | @item first separator text more _ _ hseparator henters hmore ih =>
    obtain ⟨k, hk, hrest⟩ := ih
    obtain ⟨value, ⟨j, hj, hvalue⟩, hlength, henter⟩ := henters.value
    refine ⟨1 + (j + k), by simp only [List.length_append]; omega, ?_⟩
    intro n stack rest
    obtain ⟨outer, houter, hstep⟩ := skipOpen_separator hseparator henters (more ++ rest)
    obtain ⟨gap, hgap, hinside⟩ := henter outer (more ++ rest) houter
    calc skipOpen (1 + (j + k) + n) (.beforeItem first) (frame :: stack)
          ((separator ++ (text ++ more)) ++ rest)
        = skipOpen (j + (k + n)) .value (frame :: stack) (gap ++ (value ++ (more ++ rest))) := by
          rw [List.append_assoc, List.append_assoc, ← hstep _ stack _ hinside]
          congr 1
          omega
      _ = skipOpen (k + n) .ended (frame :: stack) (more ++ rest) :=
          hvalue _ _ _ _ hgap (hmore.endsNumber hclose rest)
      _ = skipOpen n .ended stack rest := hrest n stack rest

/-- Every JSON text starts like an item. -/
theorem IsJson.isItem {text : List Char} (h : IsJson text) : IsItem text := by
  cases h with
  | null => exact ⟨_, _, rfl, by decide, by decide⟩
  | bool b => cases b <;> exact ⟨_, _, rfl, by decide, by decide⟩
  | number h => exact h.isItem
  | string h => exact h.isItem
  | list h _ =>
    obtain ⟨body, rfl, -⟩ := h
    exact ⟨_, _, rfl, by decide, by decide⟩
  | object h _ =>
    obtain ⟨body, rfl, -⟩ := h
    exact ⟨_, _, rfl, by decide, by decide⟩

/-- A list or an object is passed over if what stands between its brackets is. -/
theorem skipped_of_row {α : Type} {frame : Frame} {opener : Char} {body : List Char} {as : List α}
    (hopener : frame = .list ∧ opener = '[' ∨ frame = .object ∧ opener = '{')
    (h : Row (fun t _ => frame.Enters t) frame.closer true body as) : Skipped (opener :: body) := by
  obtain ⟨k, hk, hbody⟩ := skipOpen_row h
  refine ⟨1 + k, by rw [List.length_cons]; omega, ?_⟩
  intro n stack gap rest hgap _
  rw [← hbody n stack rest, List.cons_append, show 1 + k + n = (k + n) + 1 by omega]
  rcases hopener with ⟨rfl, rfl⟩ | ⟨rfl, rfl⟩
  · rw [skipOpen, skipSpace_append_cons hgap (by decide)]
    rfl
  · rw [skipOpen, skipSpace_append_cons hgap (by decide)]
    rfl

/-- An item of a list is entered where it begins. -/
theorem enters_list {text : List Char} (hitem : IsItem text) (h : Skipped text) :
    Frame.list.Enters text where
  head := hitem
  value := ⟨text, h, Nat.le_refl _, fun outer _ houter => ⟨outer, houter, rfl⟩⟩

/-- A member of an object is entered behind its key. -/
theorem enters_object {text : List Char} {m : String × List Char} (hmember : IsMember text m)
    (h : Skipped m.2) : Frame.object.Enters text := by
  obtain ⟨key, before, behind, ⟨inner, hinner, rfl⟩, hbefore, hbehind, rfl⟩ := hmember
  refine ⟨⟨_, _, rfl, by decide, by decide⟩, m.2, h, ?_, ?_⟩
  · simp only [List.length_append, List.length_cons]
    omega
  · intro outer rest houter
    refine ⟨behind, hbehind, ?_⟩
    simp only [Frame.enter, skipKey, List.cons_append, List.append_assoc, List.nil_append,
      skipSpace_append_cons houter (c := '"') rfl, skipString_spelling hinner,
      skipSpace_append_cons hbefore (c := ':') rfl]

/-- **Every JSON text is passed over as a value**, by induction on how it is built. -/
theorem skipped_of_isJson {text : List Char} (h : IsJson text) : Skipped text := by
  induction h with
  | null => exact skipped_of_scalar IsJson.null.isItem fun _ _ => rfl
  | bool b =>
    apply skipped_of_scalar (IsJson.bool b).isItem
    intro rest _
    cases b <;> rfl
  | number h => exact h.skipped
  | string h => exact h.skipped
  | list h hitems ih =>
    obtain ⟨body, rfl, hrow⟩ := h
    apply skipped_of_row (.inl ⟨rfl, rfl⟩) (Row.map (f := id) hrow ?_)
    rintro _ t ht rfl
    exact enters_list (hitems _ ht).isItem (ih _ ht)
  | object h _ ih =>
    obtain ⟨body, rfl, hrow⟩ := h
    apply skipped_of_row (.inr ⟨rfl, rfl⟩) (Row.map (f := id) hrow ?_)
    intro t m hm hmember
    exact enters_object hmember (ih m hm)

/-- **A value is passed over**, from its first character to its last. -/
theorem skipValue_isJson {text : List Char} (h : IsJson text) {bound : Nat}
    (hbound : text.length ≤ bound) {gap rest : List Char} (hgap : IsGap gap)
    (hrest : EndsNumber rest) : skipValue bound (gap ++ (text ++ rest)) = .ok rest := by
  obtain ⟨k, hk, hskip⟩ := skipped_of_isJson h
  obtain ⟨n, hn⟩ : ∃ n, 2 * bound + 2 = k + (n + 1) := ⟨2 * bound + 1 - k, by omega⟩
  rw [skipValue, hn, hskip _ [] _ _ hgap hrest]
  rfl

end PostingTerminal.Json
