import PostingTerminal.CommandLine.Tokens

/-!
# What the splitting of a line does about `$` and `#`

Two characters get special treatment when a line is split.  A `$` is guarded inside quoted
spans, and what the guard leaves is taken off the words again.  A `#` can begin a comment, and
is guarded against it.  Each treatment can be left out, and the procedure is otherwise the
same.

* `Rules`, `tokensBy` — the procedure with either treatment or without; with both it gives the
  tokens of a line (`tokens_eq_tokensBy`).
* `Along` — what holds at every character of a line, of the state of the guard and of the mode
  of the splitter there.
* `Mode.Alike` — two modes are of one kind, and their words are related.  `Alike.through` is
  how two runs over one text stay alike.

Guard and splitter are automata over the characters of the line.  The guard knows quotes but
no backslashes, the splitter knows both, so that they can take one quote for different things.
-/

namespace PostingTerminal.CommandLine

/-! ## The guard, one character at a time -/

/-- Which special characters are treated. -/
structure Rules where
  /-- A `$` in a span is guarded, and a backslash before a `$` is taken off a word. -/
  dollars : Bool
  /-- A `#` where a word would begin starts a comment, and is guarded against it. -/
  comments : Bool

namespace Rules

/-- Both are. -/
def all : Rules := ⟨true, true⟩

/-- No character is treated as one that begins a comment. -/
def withoutComments : Rules := ⟨true, false⟩

/-- No `$` is treated. -/
def withoutDollars : Rules := ⟨false, true⟩

end Rules

/-- Where the guard stands behind a character, before the rest of a line. -/
def Guard.next : Guard → Char → List Char → Guard
  | .span quote, c, _ => if c = quote then .outside false else .span quote
  | .outside _, c, rest =>
    if isQuote c && rest.contains c then .span c else .outside (Text.isBlank c)

/-- Whether the guard puts a backslash before a character because it is a `$`. -/
def Guard.marksDollar : Guard → Char → Bool
  | .span quote, c => c == '$' && c != quote
  | .outside _, _ => false

/-- Whether the guard puts a backslash before a character because it is a `#`. -/
def Guard.marksHash : Guard → Char → Bool
  | .outside true, c => c == '#'
  | _, _ => false

/-- Only a `$` is marked as one. -/
theorem Guard.marksDollar_of_ne (g : Guard) {c : Char} (hc : c ≠ '$') :
    g.marksDollar c = false := by
  cases g <;> simp [Guard.marksDollar, hc]

/-- Only a `#` is marked as one. -/
theorem Guard.marksHash_of_ne (g : Guard) {c : Char} (hc : c ≠ '#') : g.marksHash c = false := by
  unfold Guard.marksHash
  split <;> simp [hc]

namespace Rules

/-- Whether a character gets a backslash. -/
def marks (r : Rules) (g : Guard) (c : Char) : Bool :=
  (r.dollars && g.marksDollar c) || (r.comments && g.marksHash c)

/-- What the guard makes of a character. -/
def guarded (r : Rules) (g : Guard) (c : Char) : List Char :=
  if r.marks g c then ['\\', c] else [c]

end Rules

/-- Guards the rest of a line. -/
def guardBy (r : Rules) : Guard → List Char → List Char
  | _, [] => []
  | g, c :: cs => r.guarded g c ++ guardBy r (g.next c cs) cs

/-! ## The splitter, one character at a time -/

/-- What a character does outside quotes if none begins a comment. -/
def literalStep (word : Option (List Char)) (c : Char) : Mode :=
  if c = '"' then .double (word.getD [])
  else if c = '\'' then .single (word.getD [])
  else if c = '\\' then .escaped (word.getD [])
  else .outside (some (c :: word.getD []))

/-- The mode behind a character. -/
def Mode.next (r : Rules) : Mode → Char → Mode
  | .outside word, c =>
    if isSeparator c then .outside none
    else if r.comments = true ∧ c = '#' ∧ word.isNone then .comment
    else literalStep word c
  | mode, c => mode.step c

/-- The word that ends at a character. -/
def Mode.ended : Mode → Char → Option (List Char)
  | .outside word, c => if isSeparator c then word else none
  | _, _ => none

/-- The word that a mode is in, in reverse. -/
def Mode.word : Mode → List Char
  | .outside word => word.getD []
  | .escaped w | .double w | .doubleEscaped w | .single w => w
  | .comment => []

/-- The words of the rest of a line. -/
def wordsBy (r : Rules) : Mode → List Char → Option (List (List Char))
  | m, [] => m.finish
  | m, c :: cs => (wordsBy r (m.next r c) cs).map (consWord (m.ended c))

/-- No word is added where none ends. -/
@[simp] theorem map_consWord_none (o : Option (List (List Char))) : o.map (consWord none) = o := by
  cases o <;> rfl

/-- Takes the backslash off every `$` of a word that has one. -/
def Rules.unguard (r : Rules) (word : List Char) : List Char :=
  if r.dollars then CommandLine.unguard word else word

/-- The tokens of a line as lists of characters. -/
def tokenCharsBy (r : Rules) (line : List Char) : Option (List (List Char)) :=
  (wordsBy r (.outside none) (guardBy r (.outside true) (Text.trim line))).map
    fun ws => ws.map r.unguard

/-- The tokens of a line. -/
def tokensBy (r : Rules) (line : String) : Except Error (List String) :=
  match tokenCharsBy r line.toList with
  | none => .error (.parse .unbalanced)
  | some ws => .ok (ws.map String.ofList)

/-- Two lines have the same tokens exactly if they have the same as lists of characters. -/
theorem tokensBy_eq_iff {r r' : Rules} {line : String} :
    tokensBy r line = tokensBy r' line ↔
      tokenCharsBy r line.toList = tokenCharsBy r' line.toList := by
  unfold tokensBy
  cases tokenCharsBy r line.toList with
  | none => cases tokenCharsBy r' line.toList <;> simp
  | some ws =>
    cases tokenCharsBy r' line.toList with
    | none => simp
    | some ws' =>
      simp only [Except.ok.injEq, Option.some.injEq]
      exact List.map_inj_right fun _ _ h => String.ofList_injective h

/-- A line fails to be split exactly if its characters do. -/
theorem tokensBy_eq_error_iff {r : Rules} {line : String} :
    tokensBy r line = .error (.parse .unbalanced) ↔ tokenCharsBy r line.toList = none := by
  unfold tokensBy
  cases tokenCharsBy r line.toList <;> simp

/-! ## The procedure with both treatments -/

/-- With both treatments a line is guarded as it is before it is split. -/
theorem guardFrom_eq_guardBy (g : Guard) (cs : List Char) :
    guardFrom g cs = guardBy .all g cs := by
  induction cs generalizing g with
  | nil => cases g <;> rfl
  | cons c cs ih =>
    cases g with
    | span quote =>
      rw [guardFrom, guardBy, Guard.next]
      by_cases hquote : c = quote
      · simp [Rules.guarded, Rules.marks, Guard.marksDollar, Guard.marksHash, hquote, ih]
      · by_cases hdollar : c = '$'
        · subst hdollar
          simp [Rules.guarded, Rules.marks, Guard.marksDollar, Rules.all, hquote, ih]
        · simp [Rules.guarded, Rules.marks, Guard.marksDollar, Guard.marksHash, hquote,
            hdollar, ih]
    | outside wordStart =>
      rw [guardFrom, guardBy, Guard.next]
      by_cases hhash : c = '#'
      · subst hhash
        cases wordStart <;>
          simp [Rules.guarded, Rules.marks, Guard.marksDollar, Guard.marksHash, Rules.all,
            isQuote, ih]
      · have hmarks : Rules.all.marks (.outside wordStart) c = false := by
          cases wordStart <;> simp [Rules.marks, Guard.marksDollar, Guard.marksHash, hhash]
        have hkept : Rules.all.guarded (.outside wordStart) c = [c] := by
          rw [Rules.guarded, hmarks]
          rfl
        have hplain : ¬ (c = '#' ∧ wordStart = true) := fun h => hhash h.1
        rw [hkept, if_neg hplain]
        by_cases hspan : (isQuote c && cs.contains c) = true
        · rw [if_pos hspan, if_pos hspan, ih]
          rfl
        · rw [if_neg hspan, if_neg hspan, ih]
          rfl

/-- With comments a line is split into words as it is. -/
theorem wordsFrom_eq_wordsBy {r : Rules} (hr : r.comments = true) (m : Mode) (cs : List Char) :
    wordsFrom m cs = wordsBy r m cs := by
  induction cs generalizing m with
  | nil => cases m <;> rfl
  | cons c cs ih =>
    cases m with
    | outside word =>
      rw [wordsFrom, wordsBy, Mode.next, Mode.ended]
      by_cases hc : isSeparator c = true
      · rw [if_pos hc, if_pos hc, if_pos hc, ih]
      · rw [if_neg hc, if_neg hc, if_neg hc, map_consWord_none, ← ih, outsideStep, literalStep]
        simp only [hr, true_and]
    | _ => exact (ih _).trans (map_consWord_none _).symm

/-- **With both treatments the procedure gives the tokens of a line.** -/
theorem tokens_eq_tokensBy (line : String) : tokens line = tokensBy .all line := by
  have hchars : tokenChars line.toList = tokenCharsBy .all line.toList := by
    rw [tokenChars, tokenCharsBy, words, guardLine, guardFrom_eq_guardBy,
      wordsFrom_eq_wordsBy (r := .all) rfl]
    rfl
  cases hby : tokenCharsBy .all line.toList with
  | none => simp only [tokens, tokensBy, hchars, hby]
  | some ws => simp only [tokens, tokensBy, hchars, hby]

/-! ## Guard and splitter together -/

/-- The mode behind a text. -/
def Mode.through (r : Rules) (m : Mode) (text : List Char) : Mode := text.foldl (Mode.next r) m

/-- What holds at every character of the rest of a line: of the state of the guard and of the
mode of the splitter before it. -/
def Along (r : Rules) (P : Guard → Mode → Char → Prop) : Guard → Mode → List Char → Prop
  | _, _, [] => True
  | g, m, c :: cs => P g m c ∧ Along r P (g.next c cs) (m.through r (r.guarded g c)) cs

/-- What can be decided at every character can be decided of the rest of a line. -/
instance Along.decidable (r : Rules) (P : Guard → Mode → Char → Prop)
    [∀ g m c, Decidable (P g m c)] (g : Guard) (m : Mode) (cs : List Char) :
    Decidable (Along r P g m cs) :=
  match cs with
  | [] => .isTrue trivial
  | c :: cs =>
    have := Along.decidable r P (g.next c cs) (m.through r (r.guarded g c)) cs
    inferInstanceAs (Decidable (_ ∧ _))

/-- What holds at every character of a line. -/
def AlongLine (r : Rules) (P : Guard → Mode → Char → Prop) (line : String) : Prop :=
  Along r P (.outside true) (.outside none) (Text.trim line.toList)

instance AlongLine.decidable (r : Rules) (P : Guard → Mode → Char → Prop)
    [∀ g m c, Decidable (P g m c)] (line : String) : Decidable (AlongLine r P line) :=
  inferInstanceAs (Decidable (Along r P _ _ _))

/-- A character gets a backslash only if it is a `$` or a `#`. -/
theorem Rules.guarded_cases (r : Rules) (g : Guard) (c : Char) :
    r.guarded g c = [c] ∨ r.guarded g c = ['\\', c] ∧ (c = '$' ∨ c = '#') := by
  by_cases hmarks : r.marks g c = true
  · refine .inr ⟨if_pos hmarks, ?_⟩
    by_cases hdollar : c = '$'
    · exact .inl hdollar
    by_cases hhash : c = '#'
    · exact .inr hhash
    rw [Rules.marks, g.marksDollar_of_ne hdollar, g.marksHash_of_ne hhash] at hmarks
    simp at hmarks
  · exact .inl (if_neg hmarks)

/-- A word is not ended by a character that separates none. -/
theorem Mode.ended_of_not_separator {c : Char} (hc : isSeparator c = false) (m : Mode) :
    m.ended c = none := by
  cases m <;> simp [Mode.ended, hc]

/-- What the splitter does with a character and what the guard has put before it: it ends the
word that the character ends, and goes on behind it. -/
theorem wordsBy_guarded (r : Rules) (g : Guard) (m : Mode) (c : Char) (rest : List Char) :
    wordsBy r m (r.guarded g c ++ rest)
      = (wordsBy r (m.through r (r.guarded g c)) rest).map (consWord (m.ended c)) := by
  rcases r.guarded_cases g c with hguarded | ⟨hguarded, hspecial⟩
  · rw [hguarded]
    rfl
  · -- neither the backslash nor what is behind it ends a word
    have hc : isSeparator c = false := by rcases hspecial with rfl | rfl <;> rfl
    rw [hguarded, Mode.ended_of_not_separator hc]
    show ((wordsBy r ((m.next r '\\').next r c) rest).map
      (consWord ((m.next r '\\').ended c))).map (consWord (m.ended '\\')) = _
    rw [Mode.ended_of_not_separator hc, Mode.ended_of_not_separator rfl, map_consWord_none,
      map_consWord_none, map_consWord_none]
    rfl

/-! ## Two runs that stay alike -/

/-- Two modes are of one kind, and their words are related. -/
inductive Mode.Alike (R : List Char → List Char → Prop) : Mode → Mode → Prop
  | between (h : R [] []) : Alike R (.outside none) (.outside none)
  | outside {w₁ w₂ : List Char} (h : R w₁ w₂) : Alike R (.outside (some w₁)) (.outside (some w₂))
  | escaped {w₁ w₂ : List Char} (h : R w₁ w₂) : Alike R (.escaped w₁) (.escaped w₂)
  | double {w₁ w₂ : List Char} (h : R w₁ w₂) : Alike R (.double w₁) (.double w₂)
  | doubleEscaped {w₁ w₂ : List Char} (h : R w₁ w₂) :
      Alike R (.doubleEscaped w₁) (.doubleEscaped w₂)
  | single {w₁ w₂ : List Char} (h : R w₁ w₂) : Alike R (.single w₁) (.single w₂)
  | comment (h : R [] []) : Alike R .comment .comment

section alike

variable {R : List Char → List Char → Prop} {m₁ m₂ : Mode} {c : Char}

/-- Outside quotes two words stay related by what they get. -/
theorem Mode.Alike.literalStep {o₁ o₂ : Option (List Char)}
    (hpush : ∀ w₁ w₂, R w₁ w₂ → R (c :: w₁) (c :: w₂)) (h : R (o₁.getD []) (o₂.getD [])) :
    Mode.Alike R (literalStep o₁ c) (literalStep o₂ c) := by
  unfold CommandLine.literalStep
  split
  · exact .double h
  split
  · exact .single h
  split
  · exact .escaped h
  · exact .outside (hpush _ _ h)

/-- A character leaves modes alike, unless it ends a word in both, if words stay related by
getting it and by getting a backslash. -/
theorem Mode.Alike.next (r : Rules) (hpush : ∀ w₁ w₂, R w₁ w₂ → R (c :: w₁) (c :: w₂))
    (hescape : ∀ w₁ w₂, R w₁ w₂ → R ('\\' :: w₁) ('\\' :: w₂)) (h : m₁.Alike R m₂) :
    (m₁.ended c = none ∧ m₂.ended c = none ∧ (m₁.next r c).Alike R (m₂.next r c)) ∨
      isSeparator c = true ∧
        ∃ w₁ w₂, R w₁ w₂ ∧ m₁ = .outside (some w₁) ∧ m₂ = .outside (some w₂) := by
  cases h with
  | between h =>
    have hended : (Mode.outside none).ended c = none := by simp [Mode.ended]
    refine .inl ⟨hended, hended, ?_⟩
    simp only [Mode.next]
    split
    · exact .between h
    split
    · exact .comment h
    · exact .literalStep hpush h
  | @outside w₁ w₂ h =>
    by_cases hc : isSeparator c = true
    · exact .inr ⟨hc, w₁, w₂, h, rfl, rfl⟩
    · have hended := Mode.ended_of_not_separator (Bool.eq_false_iff.2 hc)
      refine .inl ⟨hended _, hended _, ?_⟩
      simp only [Mode.next, if_neg hc, Option.isNone_some, Bool.false_eq_true, and_false, if_false]
      exact .literalStep hpush h
  | escaped h =>
    refine .inl ⟨rfl, rfl, .outside ?_⟩
    split
    · exact h
    · exact hpush _ _ h
  | double h =>
    refine .inl ⟨rfl, rfl, ?_⟩
    simp only [Mode.next, Mode.step]
    split
    · exact .outside h
    split
    · exact .doubleEscaped h
    · exact .double (hpush _ _ h)
  | doubleEscaped h =>
    refine .inl ⟨rfl, rfl, ?_⟩
    simp only [Mode.next, Mode.step]
    split
    · exact .double (hpush _ _ h)
    split
    · exact .double h
    · exact .double (hpush _ _ (hescape _ _ h))
  | single h =>
    refine .inl ⟨rfl, rfl, ?_⟩
    simp only [Mode.next, Mode.step]
    split
    · exact .outside h
    · exact .single (hpush _ _ h)
  | comment h =>
    refine .inl ⟨rfl, rfl, ?_⟩
    simp only [Mode.next, Mode.step]
    split
    · exact .between h
    · exact .comment h

/-- **A guarded character leaves modes alike**, unless it ends a word in both, if words stay
related by getting it and by getting a backslash. -/
theorem Mode.Alike.through (r r' : Rules) (g : Guard)
    (hpush : ∀ w₁ w₂, R w₁ w₂ → R (c :: w₁) (c :: w₂))
    (hescape : ∀ w₁ w₂, R w₁ w₂ → R ('\\' :: w₁) ('\\' :: w₂)) (h : m₁.Alike R m₂) :
    (m₁.ended c = none ∧ m₂.ended c = none ∧
        (m₁.through r (r'.guarded g c)).Alike R (m₂.through r (r'.guarded g c))) ∨
      ∃ w₁ w₂, R w₁ w₂ ∧ m₁.ended c = some w₁ ∧ m₂.ended c = some w₂ ∧
        m₁.through r (r'.guarded g c) = .outside none ∧
        m₂.through r (r'.guarded g c) = .outside none := by
  rcases r'.guarded_cases g c with hguarded | ⟨hguarded, hspecial⟩
  · rw [hguarded]
    rcases h.next r hpush hescape with hnext | ⟨hc, w₁, w₂, hR, rfl, rfl⟩
    · exact .inl hnext
    · exact .inr ⟨w₁, w₂, hR, if_pos hc, if_pos hc, if_pos hc, if_pos hc⟩
  · -- the modes stay alike behind the backslash, and then behind the character
    have hc : isSeparator c = false := by rcases hspecial with rfl | rfl <;> rfl
    have hended := Mode.ended_of_not_separator hc
    have hslash : (m₁.next r '\\').Alike R (m₂.next r '\\') := by
      rcases h.next r hescape hescape with ⟨-, -, hnext⟩ | ⟨hsep, -⟩
      · exact hnext
      · cases hsep
    rw [hguarded]
    rcases hslash.next r hpush hescape with ⟨-, -, hnext⟩ | ⟨hsep, -⟩
    · exact .inl ⟨hended m₁, hended m₂, hnext⟩
    · rw [hc] at hsep
      cases hsep

end alike

end PostingTerminal.CommandLine
