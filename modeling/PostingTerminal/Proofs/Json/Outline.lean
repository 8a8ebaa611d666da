import Mathlib.Tactic.SplitIfs
import PostingTerminal.Proofs.Json.Reading

/-!
# Brackets and quotes of a text that is read

Whatever is read from a text, its brackets and quotes pair up.  A `Nesting` is all that they
tell about where reading is, and `Nesting.follow` moves it along a text, without regard to what
the text means.

* `Level` — a token leaves reading between the brackets where it was.  Blanks, words, numbers
  and strings do (`level_skipSpace`, `level_scanWord`, `level_scanNumber`, `level_scanString`),
  and so does a value that is passed over (`level_skipValue`).
* `Closes` — the members of a record take reading behind the bracket that closes it
  (`closes_scanMembers`, `closes_scanInOrder`).
* `Record.follow_scanAll` — **a text that decodes to a record** takes reading from the beginning
  to behind the outermost bracket.
-/

namespace PostingTerminal.Json

/-! ## Nesting -/

/-- Where reading is, as far as brackets and quotes tell. -/
inductive Nesting where
  /-- Only blanks have been read. -/
  | before
  /-- Between brackets, with as many more open around them. -/
  | within (depth : Nat)
  /-- In a string between brackets. -/
  | quoted (depth : Nat)
  /-- In such a string, right behind a backslash. -/
  | escaped (depth : Nat)
  /-- The outermost bracket has been closed. -/
  | behind

/-- A character that may stand between brackets and outside of strings. -/
def isFiller (c : Char) : Bool :=
  isSpace c || c.isDigit ||
    [',', ':', '.', '+', '-', 'E', 'n', 'u', 'l', 't', 'r', 'e', 'f', 'a', 's'].contains c

namespace Nesting

/-- Where reading is once the innermost bracket has been closed. -/
def closed : Nat → Nesting
  | 0 => .behind
  | depth + 1 => .within depth

/-- Where one character takes reading, if it may stand there. -/
def next : Nesting → Char → Option Nesting
  | .before, c =>
    if isSpace c then some .before
    else if c = '{' ∨ c = '[' then some (.within 0) else none
  | .within depth, c =>
    if isFiller c then some (.within depth)
    else if c = '"' then some (.quoted depth)
    else if c = '{' ∨ c = '[' then some (.within (depth + 1))
    else if c = '}' ∨ c = ']' then some (closed depth)
    else none
  | .quoted depth, c =>
    if c = '"' then some (.within depth)
    else if c = '\\' then some (.escaped depth) else some (.quoted depth)
  | .escaped depth, c =>
    if c ∈ ['"', '\\', '/', 'b', 'f', 'n', 'r', 't', 'u'] then some (.quoted depth) else none
  | .behind, c => if isSpace c then some .behind else none

/-- Where a text takes reading. -/
def follow (p : Nesting) : List Char → Option Nesting
  | [] => some p
  | c :: cs =>
    match p.next c with
    | none => none
    | some q => q.follow cs

/-- One character at first, then the others. -/
theorem follow_cons {p q : Nesting} {c : Char} (h : p.next c = some q) (cs : List Char) :
    p.follow (c :: cs) = q.follow cs := by
  simp [follow, h]

/-- One part at first, then the other. -/
theorem follow_append (p : Nesting) (a b : List Char) :
    p.follow (a ++ b) = (p.follow a).bind fun q => q.follow b := by
  induction a generalizing p with
  | nil => rfl
  | cons c a ih =>
    simp only [List.cons_append, follow]
    cases p.next c with
    | none => rfl
    | some q => exact ih q

/-- Once something has been read, reading is no longer at the beginning. -/
theorem follow_ne_before {p : Nesting} (hp : p ≠ before) (cs : List Char) :
    p.follow cs ≠ some before := by
  have hnext : ∀ (p : Nesting) (c : Char), p ≠ before → p.next c ≠ some before := by
    intro p c hp
    cases p with
    | before => exact absurd rfl hp
    | within depth => cases depth <;> simp only [next, closed] <;> split_ifs <;> simp
    | quoted depth => simp only [next]; split_ifs <;> simp
    | escaped depth => simp only [next]; split_ifs <;> simp
    | behind => simp only [next]; split_ifs <;> simp
  induction cs generalizing p with
  | nil => simpa [follow] using hp
  | cons c cs ih =>
    rw [follow]
    split
    · simp
    · next q hq =>
      apply ih
      rintro rfl
      exact hnext p c hp hq

/-- Only blanks leave reading at the beginning. -/
theorem isGap_of_follow_before {cs : List Char} (h : before.follow cs = some before) :
    IsGap cs := by
  induction cs with
  | nil => exact isGap_nil
  | cons c cs ih =>
    by_cases hc : isSpace c = true
    · rw [follow_cons (q := before) (by simp [next, hc])] at h
      intro x hx
      rcases List.mem_cons.1 hx with rfl | hx
      · exact hc
      · exact ih h x hx
    · by_cases hopen : c = '{' ∨ c = '['
      · rw [follow_cons (q := within 0) (by simp [next, hc, hopen])] at h
        exact absurd h (follow_ne_before (by simp) cs)
      · simp [follow, next, hc, hopen] at h

end Nesting

open Nesting

/-- **Reading is at the same place between the brackets** before two rests of a text. -/
def Level (cs rest : List Char) : Prop :=
  ∀ depth, (within depth).follow cs = (within depth).follow rest

/-- **Reading comes behind the innermost bracket** before the second of two rests of a text. -/
def Closes (cs rest : List Char) : Prop :=
  ∀ depth, (within depth).follow cs = (closed depth).follow rest

/-- A string that is open before the first of two rests of a text has ended before the second. -/
def Unquotes (cs rest : List Char) : Prop :=
  ∀ depth, (quoted depth).follow cs = (within depth).follow rest

/-- Where nothing is read the nesting is the same. -/
theorem Level.refl (cs : List Char) : Level cs cs := fun _ => rfl

/-- Two level parts make a level one. -/
theorem Level.trans {a b c : List Char} (hab : Level a b) (hbc : Level b c) : Level a c :=
  fun depth => (hab depth).trans (hbc depth)

/-- What closes may have a level part in front. -/
theorem Level.closes {a b c : List Char} (hab : Level a b) (hbc : Closes b c) : Closes a c :=
  fun depth => (hab depth).trans (hbc depth)

/-! ## Blanks and words -/

/-- A filler leaves reading where it was. -/
theorem level_filler {c : Char} (h : isFiller c = true) (cs : List Char) : Level (c :: cs) cs :=
  fun depth => follow_cons (by simp [next, h]) cs

/-- A bracket that closes takes reading behind it. -/
theorem closes_cons {c : Char} (h : c = '}' ∨ c = ']') (cs : List Char) : Closes (c :: cs) cs := by
  intro depth
  apply follow_cons
  rcases h with rfl | rfl <;> rfl

/-- Between the brackets that are opened and closed here reading is one level deeper. -/
theorem Closes.level {c : Char} (hc : c = '{' ∨ c = '[') {cs rest : List Char}
    (h : Closes cs rest) : Level (c :: cs) rest := by
  intro depth
  have hopen : (within depth).next c = some (within (depth + 1)) := by
    rcases hc with rfl | rfl <;> rfl
  rw [follow_cons hopen, h]
  rfl

/-- A quote opens a string. -/
theorem Unquotes.level {cs rest : List Char} (h : Unquotes cs rest) : Level ('"' :: cs) rest := by
  intro depth
  rw [follow_cons (q := quoted depth) rfl]
  exact h depth

/-- Fillers in a row leave reading where it was. -/
theorem level_dropWhile {p : Char → Bool} (hp : ∀ c, p c = true → isFiller c = true)
    (cs : List Char) : Level cs (cs.dropWhile p) := by
  induction cs with
  | nil => exact .refl []
  | cons c cs ih =>
    by_cases hc : p c = true
    · rw [List.dropWhile_cons_of_pos hc]
      exact (level_filler (hp c hc) cs).trans ih
    · rw [List.dropWhile_cons_of_neg hc]
      exact .refl (c :: cs)

/-- Blanks are level. -/
theorem level_skipSpace (cs : List Char) : Level cs (skipSpace cs) :=
  level_dropWhile (fun c hc => by simp [isFiller, hc]) cs

/-- Digits are level. -/
theorem level_digits (cs : List Char) : Level cs (cs.dropWhile Char.isDigit) :=
  level_dropWhile (fun c hc => by simp [isFiller, hc]) cs

/-- What stands behind blanks is at the place of the blanks. -/
theorem level_of_skipSpace {cs rest : List Char} (h : skipSpace cs = rest) : Level cs rest :=
  h ▸ level_skipSpace cs

/-- A word of letters is level. -/
theorem level_scanWord {letters : List Char} (hl : letters.all isFiller = true)
    {cs rest : List Char} (h : scanWord letters cs = .ok rest) : Level cs rest := by
  induction letters generalizing cs with
  | nil =>
    cases h
    exact .refl _
  | cons l letters ih =>
    cases cs with
    | nil => cases h
    | cons c cs =>
      rw [scanWord] at h
      split at h
      · next hc =>
        subst hc
        obtain ⟨hfirst, hrest⟩ := Bool.and_eq_true_iff.1 hl
        exact (level_filler hfirst cs).trans (ih hrest h)
      · cases h

/-! ## Strings -/

/-- Within a string only a quote and a backslash matter. -/
theorem follow_quoted {c : Char} (hquote : c ≠ '"') (hback : c ≠ '\\') (depth : Nat)
    (cs : List Char) : (quoted depth).follow (c :: cs) = (quoted depth).follow cs :=
  follow_cons (by simp [next, hquote, hback]) cs

/-- The letter of an escape leads back into the string. -/
theorem follow_escape {c : Char} (h : c ∈ ['"', '\\', '/', 'b', 'f', 'n', 'r', 't', 'u'])
    (depth : Nat) (cs : List Char) :
    (escaped depth).follow (c :: cs) = (quoted depth).follow cs :=
  follow_cons (by rw [next, if_pos h]) cs

/-- A hexadecimal digit is an ordinary character of a string. -/
theorem follow_quoted_hex {c : Char} {n : Nat} (h : hexValue? c = some n) (depth : Nat)
    (cs : List Char) : (quoted depth).follow (c :: cs) = (quoted depth).follow cs := by
  have hquote : hexValue? '"' = none := by decide
  have hback : hexValue? '\\' = none := by decide
  apply follow_quoted
  · rintro rfl
    simp [hquote] at h
  · rintro rfl
    simp [hback] at h

/-- Four hexadecimal digits do not leave a string. -/
theorem follow_scanHex {cs rest : List Char} {n : Nat} (h : scanHex cs = .ok (n, rest))
    (depth : Nat) : (quoted depth).follow cs = (quoted depth).follow rest := by
  unfold scanHex at h
  split at h
  · next a b c d more =>
    split at h
    · next va vb vc vd ha hb hc hd =>
      cases h
      rw [follow_quoted_hex ha, follow_quoted_hex hb, follow_quoted_hex hc, follow_quoted_hex hd]
    · cases h
  · split at h <;> cases h

/-- The second half of a surrogate pair does not leave a string. -/
theorem follow_scanLowSurrogate {high : Nat} {cs rest : List Char} {c : Char}
    (h : scanLowSurrogate high cs = .ok (c, rest)) (depth : Nat) :
    (quoted depth).follow cs = (quoted depth).follow rest := by
  unfold scanLowSurrogate at h
  split at h
  · next more =>
    split at h
    · cases h
    · next low hx hhex =>
      split at h
      · simp only [Except.ok.injEq, Prod.mk.injEq] at h
        obtain ⟨-, rfl⟩ := h
        rw [follow_cons (q := escaped depth) (by simp [next]), follow_escape (by decide)]
        exact follow_scanHex hhex depth
      · cases h
  all_goals cases h

/-- An escape sequence leads back into its string. -/
theorem follow_scanEscape {cs rest : List Char} {c : Char} (h : scanEscape cs = .ok (c, rest))
    (depth : Nat) : (escaped depth).follow cs = (quoted depth).follow rest := by
  unfold scanEscape at h
  split at h
  -- Only the escape of a code point goes on behind its letter.
  case h_9 more =>
    rw [follow_escape (by decide)]
    split at h
    · cases h
    · next n after hhex =>
      rw [follow_scanHex hhex]
      split at h
      · cases h
      · split at h
        · exact follow_scanLowSurrogate h depth
        · cases h
          rfl
  all_goals first
    | cases h; exact follow_escape (by decide) depth _
    | cases h

/-- The characters of a string lead up to its closing quote. -/
theorem unquotes_scanChars {acc cs rest s : List Char} (h : scanChars acc cs = .ok (s, rest)) :
    Unquotes cs rest := by
  fun_induction scanChars acc cs with
  | case1 => cases h
  | case2 =>
    cases h
    exact fun depth => follow_cons rfl _
  | case3 => cases h
  | case4 acc text e more hescape _ _ ih =>
    intro depth
    rw [follow_cons (q := escaped depth) rfl, follow_scanEscape hescape]
    exact ih h depth
  | case5 => cases h
  | case6 acc c more hquote hback _ ih =>
    intro depth
    rw [follow_quoted hquote hback]
    exact ih h depth

/-- A string is level. -/
theorem level_scanString {cs rest : List Char} {s : String} (h : scanString cs = .ok (s, rest)) :
    Level ('"' :: cs) rest := by
  unfold scanString at h
  split at h
  · cases h
  · next hchars =>
    cases h
    exact (unquotes_scanChars hchars).level

/-- A string that is passed over leads up to its closing quote. -/
theorem unquotes_skipString {cs rest : List Char} (h : skipString cs = .ok rest) :
    Unquotes cs rest := by
  fun_induction skipString cs with
  | case1 => cases h
  | case2 =>
    cases h
    exact fun depth => follow_cons rfl _
  | case3 => cases h
  | case4 => cases h
  | case5 more _ _ ih =>
    intro depth
    rw [follow_cons (q := escaped depth) (by simp [next]), follow_escape (by decide)]
    exact ih h depth
  | case6 e more _ he ih =>
    intro depth
    rw [follow_cons (q := escaped depth) (by simp [next]),
      follow_escape (List.mem_append_left ['u'] he)]
    exact ih h depth
  | case7 => cases h
  | case8 => cases h
  | case9 c more hquote hlast hback _ ih =>
    intro depth
    -- A backslash would have been read together with what it escapes, or at the end of the text.
    have hc : c ≠ '\\' := by
      intro hc
      cases more with
      | nil => exact hlast hc rfl
      | cons e more => exact hback e more hc rfl
    rw [follow_quoted hquote hc]
    exact ih h depth

/-! ## Numbers -/

/-- A digit changes no nesting. -/
theorem isFiller_of_isDigit {c : Char} (h : c.isDigit = true) : isFiller c = true := by
  simp [isFiller, h]

/-- A double that is made from digits ends where they end. -/
theorem Significand.toFloat_eq_ok {s : Significand} {negative : Bool} {cs rest : List Char}
    {n : Number} (h : s.toFloat negative cs = .ok (n, rest)) : rest = cs := by
  unfold Significand.toFloat at h
  split at h
  · cases h
  · simp only [Except.ok.injEq, Prod.mk.injEq] at h
    exact h.2.symm

/-- The digits of an exponent are level. -/
theorem level_scanExponentDigits {s : Significand} {negative below : Bool} {exponent : Nat}
    {cs rest : List Char} {n : Number}
    (h : scanExponentDigits s negative below exponent cs = .ok (n, rest)) : Level cs rest := by
  fun_induction scanExponentDigits s negative below exponent cs with
  | case1 =>
    cases Significand.toFloat_eq_ok h
    exact .refl _
  | case2 => cases h
  | case3 _ d more hd =>
    simp only [Except.ok.injEq, Prod.mk.injEq] at h
    obtain ⟨-, rfl⟩ := h
    exact (level_filler (isFiller_of_isDigit hd) more).trans (level_digits more)
  | case4 _ d more hd _ _ ih => exact (level_filler (isFiller_of_isDigit hd) more).trans (ih h)
  | case5 =>
    cases Significand.toFloat_eq_ok h
    exact .refl _

/-- The sign of an exponent leaves reading where it was. -/
theorem level_sign {cs ds : List Char} {below : Bool}
    (h : (match cs with
      | '+' :: more => (false, more)
      | '-' :: more => (true, more)
      | _ => (false, cs)) = (below, ds)) : Level cs ds := by
  split at h
  · cases h
    exact level_filler rfl ds
  · cases h
    exact level_filler rfl ds
  · cases h
    exact .refl cs

/-- An exponent is level. -/
theorem level_scanExponent {s : Significand} {negative : Bool} {cs rest : List Char} {n : Number}
    (h : scanExponent s negative cs = .ok (n, rest)) : Level cs rest := by
  unfold scanExponent at h
  split at h
  · next below ds hsign =>
    apply (level_sign hsign).trans
    split at h
    · cases h
    · split at h
      · exact level_scanExponentDigits h
      · cases h

/-- What may follow the digits of a number is level. -/
theorem level_scanAfterDigits {s : Significand} {negative : Bool} {cs rest : List Char}
    {n : Number} (h : scanAfterDigits s negative cs = .ok (n, rest)) : Level cs rest := by
  unfold scanAfterDigits at h
  split at h
  · next more => exact (level_filler rfl more).trans (level_scanExponent h)
  · next more => exact (level_filler rfl more).trans (level_scanExponent h)
  · cases Significand.toFloat_eq_ok h
    exact .refl _

/-- What may follow the whole part of a number is level. -/
theorem level_scanAfterWhole {s : Significand} {negative : Bool} {cs rest : List Char}
    {n : Number} (h : scanAfterWhole s negative cs = .ok (n, rest)) : Level cs rest := by
  unfold scanAfterWhole at h
  split at h
  · next more =>
    have hpoint : Level ('.' :: more) more := level_filler rfl more
    split at h
    · exact (hpoint.trans (level_digits more)).trans (level_scanAfterDigits h)
    · split at h
      · cases h
      · cases h
  · next more => exact (level_filler rfl more).trans (level_scanExponent h)
  · next more => exact (level_filler rfl more).trans (level_scanExponent h)
  · split at h
    · simp only [Except.ok.injEq, Prod.mk.injEq] at h
      rw [h.2]
      exact .refl rest
    · cases Significand.toFloat_eq_ok h
      exact .refl _

/-- A number is level. -/
theorem level_scanNumber {negative : Bool} {cs rest : List Char} {n : Number}
    (h : scanNumber negative cs = .ok (n, rest)) : Level cs rest := by
  unfold scanNumber at h
  split at h
  · cases h
  · next d more =>
    split at h
    · next hd =>
      subst hd
      split at h
      · cases h
      · exact (level_filler rfl more).trans (level_scanAfterWhole h)
    · split at h
      · exact (level_digits (d :: more)).trans (level_scanAfterWhole h)
      · cases h

/-- An exponent that is passed over is level. -/
theorem level_skipExponent {cs rest : List Char} (h : skipExponent cs = .ok rest) :
    Level cs rest := by
  have hdigits : ∀ {ds : List Char},
      (if startsDigit ds then .ok (ds.dropWhile Char.isDigit)
        else .error (faultAt .invalidNumber ds)) = Except.ok rest → Level ds rest := by
    intro ds h
    split at h
    · cases h
      exact level_digits ds
    · cases h
  unfold skipExponent at h
  split at h
  · next more => exact (level_filler rfl more).trans (hdigits h)
  · next more => exact (level_filler rfl more).trans (hdigits h)
  · exact hdigits h

/-- What may follow the digits of a number is level where it is passed over. -/
theorem level_skipAfterDigits {cs rest : List Char} (h : skipAfterDigits cs = .ok rest) :
    Level cs rest := by
  unfold skipAfterDigits at h
  split at h
  · next more => exact (level_filler rfl more).trans (level_skipExponent h)
  · next more => exact (level_filler rfl more).trans (level_skipExponent h)
  · cases h
    exact .refl _

/-- A number that is passed over is level. -/
theorem level_skipNumber {cs rest : List Char} (h : skipNumber cs = .ok rest) :
    Level cs rest := by
  unfold skipNumber at h
  split at h
  · cases h
  · next d more =>
    split at h
    · cases h
    · split at h
      · apply (level_digits (d :: more)).trans
        split at h
        · next after heq =>
          rw [heq]
          apply (level_filler rfl after).trans
          split at h
          · exact (level_digits after).trans (level_skipAfterDigits h)
          · cases h
        · exact level_skipAfterDigits h
      · cases h

/-! ## Values that are passed over -/

/-- Any value that is no list and no object is level. -/
theorem level_skipScalar? {cs rest : List Char} (h : skipScalar? cs = some (.ok rest)) :
    Level cs rest := by
  unfold skipScalar? at h
  split at h
  · cases h
  · next more =>
    simp only [Option.some.injEq] at h
    exact (level_filler rfl more).trans (level_scanWord (by rfl) h)
  · next more =>
    simp only [Option.some.injEq] at h
    exact (level_filler rfl more).trans (level_scanWord (by rfl) h)
  · next more =>
    simp only [Option.some.injEq] at h
    exact (level_filler rfl more).trans (level_scanWord (by rfl) h)
  · next more =>
    simp only [Option.some.injEq] at h
    exact (unquotes_skipString h).level
  · next more =>
    simp only [Option.some.injEq] at h
    exact (level_filler rfl more).trans (level_skipNumber h)
  · cases h
  · cases h
  · simp only [Option.some.injEq] at h
    split at h
    · exact level_skipNumber h
    · cases h

/-- A list or an object starts where no scalar does. -/
theorem eq_cons_of_skipScalar?_eq_none {cs : List Char} (h : skipScalar? cs = none) :
    ∃ c more, cs = c :: more ∧ (c = '{' ∨ c = '[') := by
  unfold skipScalar? at h
  split at h
  case h_7 more => exact ⟨'[', more, rfl, .inr rfl⟩
  case h_8 more => exact ⟨'{', more, rfl, .inl rfl⟩
  all_goals cases h

/-- A key with its colon is level. -/
theorem level_skipKey {cs rest : List Char} (h : skipKey cs = .ok rest) : Level cs rest := by
  unfold skipKey at h
  split at h
  · next more hskip =>
    apply (level_of_skipSpace hskip).trans
    split at h
    · cases h
    · next after hstring =>
      apply (unquotes_skipString hstring).level.trans
      split at h
      · next behind hcolon =>
        cases h
        exact (level_of_skipSpace hcolon).trans (level_filler rfl _)
      · cases h
      · cases h
  · cases h
  · cases h

/-- What stands in front of the first item of a list or object is level. -/
theorem level_enter {frame : Frame} {cs rest : List Char} (h : frame.enter cs = .ok rest) :
    Level cs rest := by
  cases frame with
  | list =>
    cases h
    exact .refl _
  | object => exact level_skipKey h

/-- **Open lists and objects are passed over** to the place behind the outermost of them. -/
theorem follow_skipOpen {steps : Nat} {state : SkipState} {stack : List Frame}
    {cs rest : List Char} (h : skipOpen steps state stack cs = .ok rest) (depth : Nat) :
    (within (depth + stack.length)).follow cs = (within depth).follow rest := by
  -- Along the steps: the stack has a frame for every bracket that has been opened on the way.
  fun_induction skipOpen steps state stack cs with
  | case1 => cases h
  | case2 => cases h
  | case3 _ stack cs _ after hscalar ih =>
    exact ((level_skipSpace cs).trans (level_skipScalar? hscalar) _).trans (ih h)
  | case4 _ stack cs _ hscalar _ ih =>
    obtain ⟨c, more, hskip, hopen⟩ := eq_cons_of_skipScalar?_eq_none hscalar
    have hdeeper : (within (depth + stack.length)).next c
        = some (within (depth + stack.length + 1)) := by
      rcases hopen with rfl | rfl <;> rfl
    rw [level_of_skipSpace hskip, follow_cons hdeeper, ← ih h]
    simp [hskip, Nat.add_assoc]
  | case5 =>
    cases h
    rfl
  | case6 => cases h
  | case7 => cases h
  | case8 _ _ _ _ _ _ hskip ih =>
    exact ((level_of_skipSpace hskip).closes (closes_cons (.inr rfl) _) _).trans (ih h)
  | case9 _ _ _ _ _ _ hskip ih =>
    exact ((level_of_skipSpace hskip).closes (closes_cons (.inl rfl) _) _).trans (ih h)
  | case10 => cases h
  | case11 _ _ _ _ _ _ _ _ _ _ _ _ henter =>
    simp only [henter] at h
    cases h
  | case12 _ _ frame stack cs _ separates c more hskip hcomma after henter _ _ ih =>
    simp only [henter] at h
    have hseparator : Level (c :: more) (if separates = true then more else c :: more) := by
      split
      · next hs =>
        have hc : c = ',' := by simpa [hs] using hcomma
        subst hc
        exact level_filler rfl more
      · exact .refl _
    have hvalue := ((level_of_skipSpace hskip).trans hseparator).trans (level_enter henter)
    exact (hvalue _).trans (ih h)

/-- **A value is passed over** to a place at the same depth. -/
theorem level_skipValue {bound : Nat} {cs rest : List Char} (h : skipValue bound cs = .ok rest) :
    Level cs rest :=
  follow_skipOpen h

/-! ## Values that are read -/

/-- A decoder leaves reading between the brackets where it was. -/
def Decoder.IsLevel {α : Type} (d : Decoder α) : Prop :=
  ∀ bound cs a rest, d.scan bound cs = .ok (a, rest) → Level cs rest

/-- A level decoder stays level when its result is changed. -/
theorem Decoder.IsLevel.map {α β : Type} {d : Decoder α} (h : d.IsLevel) (f : α → β) :
    (d.map f).IsLevel := by
  intro bound cs b rest hscan
  simp only [Decoder.map] at hscan
  split at hscan
  · cases hscan
  · next a after hread =>
    cases hscan
    exact h bound cs a _ hread

/-- Decoding a string is level. -/
theorem isLevel_string : Decoder.string.IsLevel := by
  intro bound cs s rest h
  simp only [Decoder.string, Decoder.text] at h
  split at h
  · next more hskip => exact (level_of_skipSpace hskip).trans (level_scanString h)
  · cases h

/-- Decoding a number is level. -/
theorem isLevel_natural (expected : String) : (Decoder.natural expected).IsLevel := by
  intro bound cs n rest h
  simp only [Decoder.natural] at h
  split at h
  · next more hskip =>
    refine ((level_of_skipSpace hskip).trans (level_filler rfl more)).trans ?_
    split at h
    · cases h
    · next hscan =>
      split at h <;> cases h
      exact level_scanNumber hscan
  · split at h
    · refine (level_skipSpace cs).trans ?_
      split at h
      · cases h
      · next hscan =>
        split at h <;> cases h
        exact level_scanNumber hscan
    · cases h

/-! ## Records -/

/-- The next item of a list stands where the comma stood. -/
theorem level_nextItem {first : Bool} {cs rest : List Char}
    (h : nextItem first cs = .ok (true, rest)) : Level cs rest := by
  unfold nextItem at h
  split at h
  · cases h
  · cases h
  · next c more _ hskip =>
    apply (level_of_skipSpace hskip).trans
    split at h
    · cases h
      exact .refl _
    · split at h
      · next hc =>
        subst hc
        apply (level_filler rfl more).trans
        split at h
        · cases h
        · cases h
        · cases h
          exact level_skipSpace more
      · cases h

/-- A list that has no next item is closed. -/
theorem closes_nextItem {first : Bool} {cs rest : List Char}
    (h : nextItem first cs = .ok (false, rest)) : Closes cs rest := by
  unfold nextItem at h
  split at h
  · cases h
  · next more hskip =>
    cases h
    exact (level_of_skipSpace hskip).closes (closes_cons (.inr rfl) _)
  · split at h
    · cases h
    · split at h
      · split at h <;> cases h
      · cases h

/-- Reading is behind the next key of an object, or behind the object. -/
theorem follow_nextKey {first : Bool} {cs rest : List Char} {key? : Option String}
    (h : nextKey first cs = .ok (key?, rest)) (depth : Nat) :
    (within depth).follow cs = (if key?.isSome then within depth else closed depth).follow rest := by
  unfold nextKey at h
  simp only at h
  split at h
  · cases h
  · next more hskip =>
    cases h
    exact (level_of_skipSpace hskip).closes (closes_cons (.inl rfl) _) depth
  · next c more _ hskip =>
    rw [level_of_skipSpace hskip]
    split at h
    · split at h
      · next hc =>
        subst hc
        split at h
        · cases h
        · next hstring =>
          cases h
          exact level_scanString hstring depth
      · cases h
    · split at h
      · next hc =>
        subst hc
        rw [level_filler rfl more]
        split at h
        · cases h
        · next key hskip =>
          rw [level_of_skipSpace hskip]
          split at h
          · cases h
          · next hstring =>
            cases h
            exact level_scanString hstring depth
        · cases h
        · cases h
      · cases h

/-- A colon is level. -/
theorem level_scanColon {cs rest : List Char} (h : scanColon cs = .ok rest) : Level cs rest := by
  unfold scanColon at h
  split at h
  · next more hskip =>
    cases h
    exact (level_of_skipSpace hskip).trans (level_filler rfl _)
  · cases h
  · cases h

section records

variable {α : Type} {r : Record α}

/-- **The members of an object** take reading behind its bracket. -/
theorem closes_scanMembers (hr : ∀ m ∈ r.members, m.decode.IsLevel) {bound steps : Nat}
    {first : Bool} {seen : List String} {a b : α} {cs rest : List Char}
    (h : r.scanMembers bound steps first seen a cs = .ok (b, rest)) : Closes cs rest := by
  induction steps generalizing first seen a cs with
  | zero => cases h
  | succ steps ih =>
    -- There is no next key, one that no member has, or that of a member.
    rw [Record.scanMembers] at h
    split at h
    · cases h
    · next more hkey =>
      split at h
      · cases h
      · cases h
        exact follow_nextKey hkey
    · next key more hkey =>
      have hlevel : Level cs more := follow_nextKey hkey
      apply hlevel.closes
      split at h
      · split at h
        · cases h
        · next after hcolon =>
          apply (level_scanColon hcolon).closes
          split at h
          · cases h
          · next behind hvalue => exact (level_skipValue hvalue).closes (ih h)
      · next m hfind =>
        split at h
        · cases h
        · split at h
          · cases h
          · next after hcolon =>
            apply (level_scanColon hcolon).closes
            split at h
            · cases h
            · next put behind hvalue =>
              have hm : m.decode.IsLevel := hr m (List.mem_of_find?_eq_some hfind)
              exact (hm _ _ _ _ hvalue).closes (ih h)

/-- The end of a list closes it. -/
theorem closes_scanListEnd {a b : α} {cs rest : List Char}
    (h : Record.scanListEnd a cs = .ok (b, rest)) : Closes cs rest := by
  unfold Record.scanListEnd at h
  split at h
  · cases h
  · next hskip =>
    cases h
    exact (level_of_skipSpace hskip).closes (closes_cons (.inr rfl) _)
  · split at h <;> cases h
  · cases h

/-- **The members in a list** take reading behind its bracket. -/
theorem closes_scanInOrder {bound : Nat} {members : List (Member α)}
    (hm : ∀ m ∈ members, m.decode.IsLevel) {index : Nat} {a b : α} {cs rest : List Char}
    (h : r.scanInOrder bound members index a cs = .ok (b, rest)) : Closes cs rest := by
  induction members generalizing index a cs with
  | nil => exact closes_scanListEnd h
  | cons m members ih =>
    rw [Record.scanInOrder] at h
    split at h
    · cases h
    · next more hitem =>
      split at h
      · cases h
      · cases h
        exact closes_nextItem hitem
    · next more hitem =>
      apply (level_nextItem hitem).closes
      split at h
      · cases h
      · next put behind hvalue =>
        have hmore := ih (fun x hx => hm x (List.mem_cons_of_mem m hx)) h
        exact (hm m List.mem_cons_self _ _ _ _ hvalue).closes hmore

/-- A record is read from between brackets. -/
theorem Record.scan_eq_ok (hr : ∀ m ∈ r.members, m.decode.IsLevel) {bound : Nat}
    {cs rest : List Char} {a : α} (h : r.decoder.scan bound cs = .ok (a, rest)) :
    ∃ c more, skipSpace cs = c :: more ∧ (c = '{' ∨ c = '[') ∧ Closes more rest := by
  simp only [Record.decoder] at h
  split at h
  · next more hskip => exact ⟨'{', more, hskip, .inl rfl, closes_scanMembers hr h⟩
  · next more hskip => exact ⟨'[', more, hskip, .inr rfl, closes_scanInOrder hr h⟩
  · cases h

/-- A record leaves reading between the brackets around it where it was. -/
theorem Record.isLevel (hr : ∀ m ∈ r.members, m.decode.IsLevel) : r.decoder.IsLevel := by
  intro bound cs a rest h
  obtain ⟨c, more, hskip, hopen, hcloses⟩ := Record.scan_eq_ok hr h
  exact (level_of_skipSpace hskip).trans (hcloses.level hopen)

/-- Blanks leave reading at the beginning, and behind the outermost bracket. -/
theorem follow_skipSpace {p : Nesting} (hp : p = before ∨ p = behind) (cs : List Char) :
    p.follow cs = p.follow (skipSpace cs) := by
  induction cs with
  | nil => rfl
  | cons c cs ih =>
    by_cases hc : isSpace c = true
    · have hstay : p.next c = some p := by
        rcases hp with rfl | rfl <;> simp [next, hc]
      rw [follow_cons hstay, skipSpace, List.dropWhile_cons_of_pos hc]
      exact ih
    · rw [skipSpace, List.dropWhile_cons_of_neg hc]

/-- **A text that decodes to a record** takes reading from the beginning to behind the outermost
bracket. -/
theorem Record.follow_scanAll (hr : ∀ m ∈ r.members, m.decode.IsLevel) {cs : List Char} {a : α}
    (h : r.decoder.scanAll cs = .ok a) : before.follow cs = some behind := by
  unfold Decoder.scanAll at h
  split at h
  · cases h
  · next b rest hscan =>
    split at h
    · next hend =>
      obtain ⟨c, more, hskip, hopen, hcloses⟩ := Record.scan_eq_ok hr hscan
      have hfirst : before.next c = some (within 0) := by
        rcases hopen with rfl | rfl <;> rfl
      rw [follow_skipSpace (.inl rfl), hskip, follow_cons hfirst, hcloses 0]
      show behind.follow rest = some behind
      rw [follow_skipSpace (.inr rfl), hend]
      rfl
    · cases h

end records

end PostingTerminal.Json
