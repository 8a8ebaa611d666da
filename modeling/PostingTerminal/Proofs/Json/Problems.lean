import PostingTerminal.Proofs.Json.Outline
import PostingTerminal.Proofs.Text.Breaks

/-!
# What can be found wrong with a text

* `Problem.isShape` — the problems that a text has whatever is to be read from it.
* `Raises` — whatever is found wrong has a property.  Tokens and values that are passed over raise
  problems of shape only.
-/

namespace PostingTerminal.Json

variable {α β : Type} {P Q : Problem → Prop}

/-- Whether a problem lies in the shape of a text, and not in the type of a value. -/
def Problem.isShape : Problem → Bool
  | .wrongType _ _ | .wrongValue _ _ | .wrongLength _ _ | .missingField _ | .duplicateField _
  | .unknownVariant _ _ | .noVariant _ => false
  | _ => true

/-- A problem of shape. -/
def Shape (p : Problem) : Prop := p.isShape = true

/-- **Whatever is found wrong has a property.** -/
def Raises (r : Except Fault α) (P : Problem → Prop) : Prop := ∀ f, r = .error f → P f.problem

/-- A value raises no problem. -/
theorem raises_ok (a : α) : Raises (.ok a : Except Fault α) P := nofun

/-- A fault raises its own problem. -/
theorem raises_error {f : Fault} (h : P f.problem) : Raises (.error f : Except Fault α) P := by
  rintro _ ⟨⟩
  exact h

/-- A fault that is passed on. -/
theorem Raises.pass {r : Except Fault α} {f : Fault} (h : Raises r P) (hr : r = .error f) :
    Raises (.error f : Except Fault β) P := raises_error (h f hr)

/-! ## Tokens -/

/-- Reading hexadecimal digits finds faults of the shape only. -/
theorem raises_scanHex (cs : List Char) : Raises (scanHex cs) Shape := by
  unfold scanHex
  split
  · split
    · exact raises_ok _
    · exact raises_error rfl
  · split
    · exact raises_error rfl
    · exact raises_error rfl

/-- The second half of a surrogate pair has faults of the shape only. -/
theorem raises_scanLowSurrogate (high : Nat) (cs : List Char) :
    Raises (scanLowSurrogate high cs) Shape := by
  unfold scanLowSurrogate
  split
  · split
    · next h => exact (raises_scanHex _).pass h
    · split
      · exact raises_ok _
      · exact raises_error rfl
  all_goals exact raises_error rfl

/-- An escape sequence has faults of the shape only. -/
theorem raises_scanEscape (cs : List Char) : Raises (scanEscape cs) Shape := by
  unfold scanEscape
  split
  case h_9 =>
    split
    · next h => exact (raises_scanHex _).pass h
    · split
      · exact raises_error rfl
      split
      · exact raises_scanLowSurrogate _ _
      · exact raises_ok _
  all_goals first | exact raises_ok _ | exact raises_error rfl

/-- The characters of a string have faults of the shape only. -/
theorem raises_scanChars (acc cs : List Char) : Raises (scanChars acc cs) Shape := by
  fun_induction scanChars acc cs with
  | case1 => exact raises_error rfl
  | case2 => exact raises_ok _
  | case3 _ _ f h => exact (raises_scanEscape _).pass h
  | case4 => assumption
  | case5 => exact raises_error rfl
  | case6 => assumption

/-- A string has faults of the shape only. -/
theorem raises_scanString (cs : List Char) : Raises (scanString cs) Shape := by
  unfold scanString
  split
  · next h => exact (raises_scanChars [] cs).pass h
  · exact raises_ok _

/-- A string that is passed over has faults of the shape only. -/
theorem raises_skipString (cs : List Char) : Raises (skipString cs) Shape := by
  fun_induction skipString cs with
  | case1 => exact raises_error rfl
  | case2 => exact raises_ok _
  | case3 => exact raises_error rfl
  | case4 _ f h => exact (raises_scanHex _).pass h
  | case5 => assumption
  | case6 => assumption
  | case7 => exact raises_error rfl
  | case8 => exact raises_error rfl
  | case9 => assumption

/-- A word of letters has faults of the shape only. -/
theorem raises_scanWord (letters cs : List Char) : Raises (scanWord letters cs) Shape := by
  fun_induction scanWord letters cs with
  | case1 => exact raises_ok _
  | case2 => exact raises_error rfl
  | case3 => assumption
  | case4 => exact raises_error rfl

/-! ## Numbers -/

/-- Digits that make no number are a fault of the shape. -/
theorem raises_toFloat (s : Significand) (negative : Bool) (rest : List Char) :
    Raises (s.toFloat negative rest) Shape := by
  unfold Significand.toFloat
  split
  · exact raises_error rfl
  · exact raises_ok _

/-- The digits of an exponent have faults of the shape only. -/
theorem raises_scanExponentDigits (s : Significand) (negative below : Bool) (exponent : Nat)
    (cs : List Char) : Raises (scanExponentDigits s negative below exponent cs) Shape := by
  fun_induction scanExponentDigits s negative below exponent cs with
  | case1 => exact raises_toFloat _ _ _
  | case2 => exact raises_error rfl
  | case3 => exact raises_ok _
  | case4 => assumption
  | case5 => exact raises_toFloat _ _ _

/-- An exponent has faults of the shape only. -/
theorem raises_scanExponent (s : Significand) (negative : Bool) (cs : List Char) :
    Raises (scanExponent s negative cs) Shape := by
  unfold scanExponent
  split
  split
  · exact raises_error rfl
  · split
    · exact raises_scanExponentDigits _ _ _ _ _
    · exact raises_error rfl

/-- What may follow the digits of a number has faults of the shape only. -/
theorem raises_scanAfterDigits (s : Significand) (negative : Bool) (cs : List Char) :
    Raises (scanAfterDigits s negative cs) Shape := by
  unfold scanAfterDigits
  split
  · exact raises_scanExponent _ _ _
  · exact raises_scanExponent _ _ _
  · exact raises_toFloat _ _ _

/-- What may follow the whole part of a number has faults of the shape only. -/
theorem raises_scanAfterWhole (s : Significand) (negative : Bool) (cs : List Char) :
    Raises (scanAfterWhole s negative cs) Shape := by
  unfold scanAfterWhole
  split
  · split
    · exact raises_scanAfterDigits _ _ _
    split
    · exact raises_error rfl
    · exact raises_error rfl
  · exact raises_scanExponent _ _ _
  · exact raises_scanExponent _ _ _
  · split
    · exact raises_ok _
    · exact raises_toFloat _ _ _

/-- A number has faults of the shape only. -/
theorem raises_scanNumber (negative : Bool) (cs : List Char) :
    Raises (scanNumber negative cs) Shape := by
  unfold scanNumber
  split
  · exact raises_error rfl
  split
  · split
    · exact raises_error rfl
    · exact raises_scanAfterWhole _ _ _
  split
  · exact raises_scanAfterWhole _ _ _
  · exact raises_error rfl

/-- An exponent that is passed over has faults of the shape only. -/
theorem raises_skipExponent (cs : List Char) : Raises (skipExponent cs) Shape := by
  unfold skipExponent
  dsimp only
  split
  all_goals
    split
    · exact raises_ok _
    · exact raises_error rfl

/-- What may follow the digits of a number that is passed over has faults of the shape only. -/
theorem raises_skipAfterDigits (cs : List Char) : Raises (skipAfterDigits cs) Shape := by
  unfold skipAfterDigits
  split
  · exact raises_skipExponent _
  · exact raises_skipExponent _
  · exact raises_ok _

/-- A number that is passed over has faults of the shape only. -/
theorem raises_skipNumber (cs : List Char) : Raises (skipNumber cs) Shape := by
  unfold skipNumber
  split
  · exact raises_error rfl
  split
  · exact raises_error rfl
  split
  · split
    · split
      · exact raises_skipAfterDigits _
      · exact raises_error rfl
    · exact raises_skipAfterDigits _
  · exact raises_error rfl

/-! ## Values that are passed over -/

/-- A value that is no list and no object has faults of the shape only where it is passed over. -/
theorem raises_skipScalar? {cs : List Char} {r : Except Fault (List Char)}
    (h : skipScalar? cs = some r) : Raises r Shape := by
  unfold skipScalar? at h
  split at h
  case h_1 => exact Option.some.inj h ▸ raises_error rfl
  case h_2 | h_3 | h_4 => exact Option.some.inj h ▸ raises_scanWord _ _
  case h_5 => exact Option.some.inj h ▸ raises_skipString _
  case h_6 => exact Option.some.inj h ▸ raises_skipNumber _
  case h_7 | h_8 => cases h
  case h_9 =>
    obtain rfl := Option.some.inj h
    split
    · exact raises_skipNumber _
    · exact raises_error rfl

/-- What stands in front of an item has faults of the shape only. -/
theorem raises_enter (frame : Frame) (cs : List Char) : Raises (frame.enter cs) Shape := by
  cases frame with
  | list => exact raises_ok _
  | object =>
    show Raises (skipKey cs) Shape
    unfold skipKey
    split
    · split
      · next h => exact (raises_skipString _).pass h
      split
      · exact raises_ok _
      · exact raises_error rfl
      · exact raises_error rfl
    · exact raises_error rfl
    · exact raises_error rfl

/-- Lists and objects that are open have faults of the shape only where they are passed over. -/
theorem raises_skipOpen (steps : Nat) (state : SkipState) (stack : List Frame) (cs : List Char) :
    Raises (skipOpen steps state stack cs) Shape := by
  fun_induction skipOpen steps state stack cs with
  | case1 => exact raises_error rfl
  | case2 _ _ _ _ _ h => exact raises_skipScalar? h
  | case3 => assumption
  | case4 => assumption
  | case5 => exact raises_ok _
  | case6 => exact raises_error rfl
  | case7 => exact raises_error rfl
  | case8 => assumption
  | case9 => assumption
  | case10 _ _ frame => exact raises_error (by cases frame <;> rfl)
  | case11 _ _ frame _ _ _ _ _ _ _ _ f h =>
    rw [h]
    exact (raises_enter frame _).pass h
  | case12 _ _ _ _ _ _ _ _ _ _ _ _ h _ _ ih =>
    rw [h]
    exact ih

/-- A value that is passed over raises problems of shape. -/
theorem raises_skipValue (bound : Nat) (cs : List Char) : Raises (skipValue bound cs) Shape :=
  raises_skipOpen _ _ _ _

/-! ## Decoders -/

section decoders

variable (hshape : ∀ p, Shape p → P p)

include hshape

/-- Faults of the shape are among those that are allowed. -/
theorem Raises.of_shape {r : Except Fault α} (h : Raises r Shape) : Raises r P :=
  fun f hf => hshape _ (h f hf)

/-- Where another type of value is expected, that type is named, or the value has no shape. -/
theorem wrongTypeAt_problem {expected : String} (hwrong : ∀ found, P (.wrongType found expected))
    (cs : List Char) : P (wrongTypeAt expected cs).problem := by
  unfold wrongTypeAt
  split
  case h_1 => exact hshape _ rfl
  case h_2 | h_3 | h_4 =>
    dsimp only
    split
    · next h => exact hshape _ (raises_scanWord _ _ _ h)
    · exact hwrong _
  case h_5 =>
    dsimp only
    split
    · next h => exact hshape _ (raises_scanNumber _ _ _ h)
    · exact hwrong _
  case h_6 =>
    split
    · next h => exact hshape _ (raises_scanString _ _ h)
    · exact hwrong _
  case h_7 | h_8 => exact hwrong _
  case h_9 =>
    split
    · dsimp only
      split
      · next h => exact hshape _ (raises_scanNumber _ _ _ h)
      · exact hwrong _
    · exact hshape _ rfl

end decoders

/-- **Whatever a decoder finds wrong** has a property. -/
def Decoder.Raises (d : Decoder α) (P : Problem → Prop) : Prop :=
  ∀ bound cs, Json.Raises (d.scan bound cs) P

/-- A decoder finds the same faults when its result is changed. -/
theorem Decoder.Raises.map {d : Decoder α} (h : d.Raises P) (f : α → β) : (d.map f).Raises P := by
  intro bound cs
  simp only [Decoder.map]
  split
  · next hscan => exact (h bound cs).pass hscan
  · exact raises_ok _

/-- A string is read, or something else stands there. -/
theorem text_raises (hshape : ∀ p, Shape p → P p) {expected : String}
    (hwrong : ∀ found, P (.wrongType found expected)) : (Decoder.text expected).Raises P := by
  intro bound cs
  simp only [Decoder.text]
  split
  · exact (raises_scanString _).of_shape hshape
  · exact raises_error (wrongTypeAt_problem hshape hwrong _)

/-- Going to the next item of a list finds faults of the shape only. -/
theorem raises_nextItem (first : Bool) (cs : List Char) : Raises (nextItem first cs) Shape := by
  unfold nextItem
  split
  · exact raises_error rfl
  · exact raises_ok _
  split
  · exact raises_ok _
  split
  · split
    · exact raises_error rfl
    · exact raises_error rfl
    · exact raises_ok _
  · exact raises_error rfl

/-- Going to the next key of an object finds faults of the shape only. -/
theorem raises_nextKey (first : Bool) (cs : List Char) : Raises (nextKey first cs) Shape := by
  unfold nextKey
  dsimp only
  split
  · exact raises_error rfl
  · exact raises_ok _
  split
  · split
    · split
      · next h => exact (raises_scanString _).pass h
      · exact raises_ok _
    · exact raises_error rfl
  split
  · split
    · exact raises_error rfl
    · split
      · next h => exact (raises_scanString _).pass h
      · exact raises_ok _
    · exact raises_error rfl
    · exact raises_error rfl
  · exact raises_error rfl

/-- Reading a colon finds faults of the shape only. -/
theorem raises_scanColon (cs : List Char) : Raises (scanColon cs) Shape := by
  unfold scanColon
  split
  · exact raises_ok _
  · exact raises_error rfl
  · exact raises_error rfl

/-! ## Records -/

namespace Record

/-- What can be wrong with the members of a record, apart from the values that they have. -/
structure Admits (r : Record α) (P : Problem → Prop) : Prop where
  shape (p : Problem) (h : Shape p) : P p
  wrongType (found : Found) : P (.wrongType found r.expected)
  wrongLength (length : Nat) : P (.wrongLength length r.expectedItems)
  missing : ∀ m ∈ r.members, P (.missingField m.key)
  duplicate : ∀ m ∈ r.members, P (.duplicateField m.key)

variable {r : Record α}

/-- What is missing is a member of the record. -/
theorem mem_of_missing {seen : List String} {name : String} (h : r.missing seen = some name) :
    ∃ m ∈ r.members, m.key = name := by
  obtain ⟨m, hm, hname⟩ := Option.map_eq_some_iff.1 h
  exact ⟨m, List.mem_of_find?_eq_some hm, hname⟩

/-- Reading the members of an object finds the faults of the record and of its members. -/
theorem scanMembers_raises (hr : r.Admits P) (hmembers : ∀ m ∈ r.members, m.decode.Raises P)
    (bound steps : Nat) (first : Bool) (seen : List String) (acc : α) (cs : List Char) :
    Raises (r.scanMembers bound steps first seen acc cs) P := by
  fun_induction r.scanMembers bound steps first seen acc cs with
  | case1 => exact raises_error (hr.shape _ rfl)
  | case2 _ _ _ _ _ _ h => exact ((raises_nextKey _ _).pass h).of_shape hr.shape
  | case3 _ _ _ _ _ _ _ _ h =>
    obtain ⟨m, hm, rfl⟩ := mem_of_missing h
    exact raises_error (hr.missing m hm)
  | case4 => exact raises_ok _
  | case5 _ _ _ _ _ _ _ _ _ _ h => exact ((raises_scanColon _).pass h).of_shape hr.shape
  | case6 _ _ _ _ _ _ _ _ _ _ _ _ h =>
    exact ((raises_skipValue _ _).pass h).of_shape hr.shape
  | case7 => assumption
  | case8 _ _ _ _ _ _ _ _ m h =>
    obtain rfl : m.key = _ := by simpa using List.find?_some h
    exact raises_error (hr.duplicate m (List.mem_of_find?_eq_some h))
  | case9 _ _ _ _ _ _ _ _ _ _ _ _ h => exact ((raises_scanColon _).pass h).of_shape hr.shape
  | case10 _ _ _ _ _ _ _ _ m hfound _ _ _ _ h =>
    exact (hmembers m (List.mem_of_find?_eq_some hfound) _ _).pass h
  | case11 => assumption

/-- Reading the end of a list finds faults of the shape only. -/
theorem raises_scanListEnd (acc : α) (cs : List Char) : Raises (scanListEnd acc cs) Shape := by
  unfold scanListEnd
  split
  · exact raises_error rfl
  · exact raises_ok _
  · split
    · exact raises_error rfl
    · exact raises_error rfl
  · exact raises_error rfl

/-- Reading members from a list finds the faults of the record and of its members. -/
theorem scanInOrder_raises (hr : r.Admits P) {ms : List (Member α)}
    (hmembers : ∀ m ∈ ms, m.decode.Raises P) (bound index : Nat) (acc : α) (cs : List Char) :
    Raises (r.scanInOrder bound ms index acc cs) P := by
  induction ms generalizing index acc cs with
  | nil => exact (raises_scanListEnd acc cs).of_shape hr.shape
  | cons m ms ih =>
    obtain ⟨hm, hms⟩ := List.forall_mem_cons.1 hmembers
    unfold scanInOrder
    split
    · next h => exact ((raises_nextItem _ _).pass h).of_shape hr.shape
    · split
      · exact raises_error (hr.wrongLength _)
      · exact raises_ok _
    · split
      · next h => exact (hm _ _).pass h
      · exact ih hms _ _ _

/-- **A record raises what its members raise**, and what it says of its own members. -/
theorem raises (hr : r.Admits P) (hmembers : ∀ m ∈ r.members, m.decode.Raises P) :
    r.decoder.Raises P := by
  intro bound cs
  simp only [Record.decoder]
  split
  · exact scanMembers_raises hr hmembers _ _ _ _ _ _
  · exact scanInOrder_raises hr hmembers _ _ _ _
  · exact raises_error (wrongTypeAt_problem hr.shape hr.wrongType _)

end Record

/-- What is wrong with a whole text is what the decoder finds, or lies in the shape of the text. -/
theorem Decoder.Raises.fromText {d : Decoder α} (h : d.Raises P) (hshape : ∀ p, Shape p → P p)
    {text : String} {e : DecodeError} (he : d.fromText text = .error e) : P e.problem := by
  have hall : Json.Raises (d.scanAll text.toList) P := by
    unfold scanAll
    split
    · next hscan => exact (h _ _).pass hscan
    split
    · exact raises_ok _
    · exact raises_error (hshape _ rfl)
  unfold Decoder.fromText at he
  split at he
  · next f hf =>
    cases he
    exact hall f hf
  · cases he

/-! ## The wording of a problem -/

open Text

/-- What the wording of a problem takes over as it is: names, and what has been expected. -/
def Problem.spliced : Problem → String
  | .wrongType _ expected => expected
  | .wrongValue _ expected => expected
  | .wrongLength _ expected => expected
  | .missingField name => name
  | .duplicateField name => name
  | .unknownVariant name variants => name ++ String.join variants
  | .noVariant union => union
  | _ => ""

/-- A problem of shape takes nothing over. -/
theorem breaks_of_shape (p : Problem) (h : Shape p) : breaks p.spliced = [] := by
  cases p with
  | wrongType | wrongValue | wrongLength | missingField | duplicateField | unknownVariant
  | noVariant => cases h
  | _ => rfl

/-- What is found is named in one line. -/
theorem breaks_found (found : Found) : breaks found.text = [] := by
  cases found with
  | null => exact breaks_ofList (by decide)
  | bool b =>
    cases b with
    | false => exact (breaks_enclosed (by decide) (by decide) "false").trans rfl
    | true => exact (breaks_enclosed (by decide) (by decide) "true").trans rfl
  | number n =>
    cases n with
    | int n => exact (breaks_enclosed (by decide) (by decide) _).trans (breaks_toString_int n)
    | float x => exact (breaks_enclosed (by decide) (by decide) _).trans (breaks_decimal _ x)
  | string s => exact (breaks_label (by decide) _).trans (breaks_quoted s)
  | list => exact breaks_ofList (by decide)
  | object => exact breaks_ofList (by decide)

/-- Variants are listed in one line if each of them is one. -/
theorem breaks_variantsText (variants : List String) :
    breaks (variantsText variants) = breaks (String.join variants) := by
  have hquoted : (variants.map fun v => "`" ++ v ++ "`").flatMap breaks
      = variants.flatMap breaks := by
    rw [List.flatMap_map]
    exact List.flatMap_congr fun v _ => breaks_enclosed (by decide) (by decide) v
  rw [breaks_join, ← hquoted]
  unfold variantsText
  dsimp only
  split
  · next one heq => rw [heq, List.flatMap_singleton]
  · next one two heq =>
    rw [heq, breaks_append, breaks_trailer (breaks_ofList (by decide)), List.flatMap_cons,
      List.flatMap_singleton]
  · exact (breaks_label (by decide) _).trans (breaks_intercalate (breaks_ofList (by decide)) _)

/-- **The line breaks in the wording of a problem** are those of what it takes over. -/
theorem Problem.breaks_message (p : Problem) : breaks p.message = breaks p.spliced := by
  have hexpected {label : List Char} (hlabel : Unbroken label) {text : String}
      (htext : breaks text = []) (expected : String) :
      breaks (String.ofList label ++ text ++ ", expected " ++ expected) = breaks expected := by
    have hfront : breaks (String.ofList label ++ text ++ ", expected ") = [] :=
      (breaks_enclosed hlabel (by decide) text).trans htext
    rw [breaks_append, hfront, List.nil_append]
  cases p with
  | wrongType found expected => exact hexpected (by decide) (breaks_found found) expected
  | wrongValue found expected => exact hexpected (by decide) (breaks_found found) expected
  | wrongLength n expected => exact hexpected (by decide) (breaks_toString n) expected
  | missingField name => exact breaks_enclosed (by decide) (by decide) name
  | duplicateField name => exact breaks_enclosed (by decide) (by decide) name
  | unknownVariant name variants =>
    have hname : breaks ("unknown variant `" ++ name ++ "`, expected ") = breaks name :=
      breaks_enclosed (by decide) (by decide) name
    show breaks ("unknown variant `" ++ name ++ "`, expected " ++ variantsText variants)
      = breaks (name ++ String.join variants)
    rw [breaks_append, hname, breaks_variantsText, breaks_append]
  | noVariant union => exact breaks_label (by decide) union
  | _ => exact breaks_ofList (by decide)

/-- So are those in the wording of an error: its position is told in digits. -/
theorem DecodeError.breaks_message (e : DecodeError) :
    breaks e.message = breaks e.problem.spliced := by
  rw [← e.problem.breaks_message]
  unfold DecodeError.message
  split
  · rfl
  · next line column _ =>
    rw [breaks_trailer (breaks_toString column), breaks_trailer (breaks_ofList (by decide)),
      breaks_trailer (breaks_toString line), breaks_trailer (breaks_ofList (by decide))]

end PostingTerminal.Json
