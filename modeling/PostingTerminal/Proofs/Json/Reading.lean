import PostingTerminal.Json.Decoder
import PostingTerminal.Proofs.Json.Spelling

/-!
# Reading back what has been written

* `Decoder.Reads d text a` — the decoder `d` reads `text` as `a`, behind any blanks and before
  anything that does not continue a number, and leaves what follows the text.
* **Strings** (`string_reads_of_quotes`): a string is read from every text that stands for it,
  so from the text that is written for it (`string_reads`).
* **Whole numbers** (`natural_reads`): the decimal digits of a number of at most 64 bits are
  read back without loss (`scanNumber_toDigits`).
* **Variants, truth values and missing values** (`choice_reads`, `flag_reads`,
  `optional_reads_null`, `optional_string_reads`).

Lists and records, and the layouts they are written in, are in `Layout.lean`.
-/

namespace PostingTerminal.Json

/-! ## Blanks and ends of numbers -/

/-- A text of blanks only. -/
def IsGap (cs : List Char) : Prop := ∀ c ∈ cs, isSpace c = true

/-- A text that does not continue a number. -/
def EndsNumber (cs : List Char) : Prop :=
  ∀ c ∈ cs.head?, c.isDigit = false ∧ c ≠ '.' ∧ c ≠ 'e' ∧ c ≠ 'E'

/-- No blank is a gap. -/
theorem isGap_nil : IsGap [] := by simp [IsGap]

/-- The end of the text ends a number. -/
theorem endsNumber_nil : EndsNumber [] := by simp [EndsNumber]

/-- What starts with another character ends a number. -/
theorem endsNumber_cons {c : Char} {cs : List Char}
    (h : c.isDigit = false ∧ c ≠ '.' ∧ c ≠ 'e' ∧ c ≠ 'E') : EndsNumber (c :: cs) := by
  simpa [EndsNumber] using h

/-- A blank ends a number. -/
theorem endsNumber_of_isSpace {c : Char} (h : isSpace c = true) (cs : List Char) :
    EndsNumber (c :: cs) := by
  apply endsNumber_cons
  simp only [isSpace, Bool.or_eq_true, beq_iff_eq] at h
  rcases h with ((rfl | rfl) | rfl) | rfl <;> decide

/-- A gap before something that ends a number ends it too. -/
theorem EndsNumber.append {gap cs : List Char} (hg : IsGap gap) (h : EndsNumber cs) :
    EndsNumber (gap ++ cs) := by
  cases gap with
  | nil => exact h
  | cons c gap => exact endsNumber_of_isSpace (hg c List.mem_cons_self) (gap ++ cs)

/-- Blanks in front are passed over. -/
theorem skipSpace_append {gap : List Char} (hg : IsGap gap) (cs : List Char) :
    skipSpace (gap ++ cs) = skipSpace cs := by
  induction gap with
  | nil => rfl
  | cons c gap ih =>
    have hc : isSpace c = true := hg c List.mem_cons_self
    have hrest : IsGap gap := fun x hx => hg x (List.mem_cons_of_mem c hx)
    rw [List.cons_append, skipSpace, List.dropWhile_cons_of_pos hc]
    exact ih hrest

/-- Nothing is passed over in front of a token. -/
theorem skipSpace_cons {c : Char} (h : isSpace c = false) (cs : List Char) :
    skipSpace (c :: cs) = c :: cs := by
  rw [skipSpace, List.dropWhile_cons_of_neg (by simp [h])]

/-- Blanks in front of a token are passed over, and nothing else. -/
theorem skipSpace_append_cons {gap : List Char} (hg : IsGap gap) {c : Char}
    (h : isSpace c = false) (cs : List Char) : skipSpace (gap ++ c :: cs) = c :: cs := by
  rw [skipSpace_append hg, skipSpace_cons h]

/-- **A decoder reads a text as a value**: behind any blanks, before anything that does not
continue a number, under any bound from the length of the text on. -/
def Decoder.Reads {α : Type} (d : Decoder α) (text : List Char) (a : α) : Prop :=
  ∀ bound gap rest, text.length ≤ bound → IsGap gap → EndsNumber rest →
    d.scan bound (gap ++ (text ++ rest)) = .ok (a, rest)

/-- A text that is read as a value decodes to it, with gaps around it too. -/
theorem Decoder.Reads.scanAll_gaps {α : Type} {d : Decoder α} {text : List Char} {a : α}
    (h : d.Reads text a) {before behind : List Char} (hbefore : IsGap before)
    (hbehind : IsGap behind) : d.scanAll (before ++ (text ++ behind)) = .ok a := by
  have hends : EndsNumber behind := by
    rw [← List.append_nil behind]
    exact EndsNumber.append hbehind endsNumber_nil
  have hend : skipSpace behind = [] := by
    rw [← List.append_nil behind, skipSpace_append hbehind]
    rfl
  have hscan := h (before ++ (text ++ behind)).length before behind
    (by simp only [List.length_append]; omega) hbefore hends
  simp only [Decoder.scanAll, hscan, hend]

/-- A text that is read as a value decodes to it. -/
theorem Decoder.Reads.scanAll {α : Type} {d : Decoder α} {text : List Char} {a : α}
    (h : d.Reads text a) : d.scanAll text = .ok a := by
  simpa using h.scanAll_gaps isGap_nil isGap_nil

/-- What is read is mapped. -/
theorem Decoder.Reads.map {α β : Type} {d : Decoder α} {text : List Char} {a : α}
    (h : d.Reads text a) (f : α → β) : (d.map f).Reads text (f a) := by
  intro bound gap rest hb hg hr
  simp [Decoder.map, h bound gap rest hb hg hr]

/-! ## Strings -/

/-- The text of a string starts with a quote. -/
theorem printString_append (s : String) (cs : List Char) :
    printString s ++ cs = '"' :: (s.toList.flatMap escapeChar ++ '"' :: cs) := by
  simp [printString]

/-- **A string is read back**, whatever its characters. -/
theorem scanString_flatMap (s : String) (cs : List Char) :
    scanString (s.toList.flatMap escapeChar ++ '"' :: cs) = .ok (s, cs) :=
  scanString_spelling (spelling_flatMap s.toList) cs

/-- A string is read from every text that stands for it. -/
theorem string_reads_of_quotes {text : List Char} {s : String} (h : Quotes text s) :
    Decoder.string.Reads text s := by
  obtain ⟨inner, hinner, rfl⟩ := h
  intro bound gap rest _ hg _
  simp only [Decoder.string, Decoder.text, List.cons_append, List.append_assoc, List.nil_append]
  rw [skipSpace_append_cons hg (by decide)]
  exact scanString_spelling hinner rest

/-- A string is read from its text. -/
theorem string_reads (s : String) : Decoder.string.Reads (printString s) s :=
  string_reads_of_quotes (quotes_printString s)

/-- The name of a variant is read as the variant. -/
theorem choice_reads {α : Type} {variants : List (String × α)} {name : String} {a : α}
    (h : variants.lookup name = some a) : (Decoder.choice variants).Reads (printString name) a := by
  intro bound gap rest _ hg _
  simp only [Decoder.choice]
  rw [printString_append, skipSpace_append_cons hg (by decide)]
  simp only [Decoder.scanVariant, scanString_flatMap, Decoder.variantOf, h]

/-! ## Truth values and missing values -/

/-- A truth value is read from its word. -/
theorem flag_reads (b : Bool) : Decoder.flag.Reads (Value.compact (.bool b)) b := by
  intro bound gap rest _ hg _
  cases b with
  | true =>
    simp only [Value.compact, Decoder.flag]
    rw [List.cons_append, skipSpace_append_cons hg (by decide)]
    rfl
  | false =>
    simp only [Value.compact, Decoder.flag]
    rw [List.cons_append, skipSpace_append_cons hg (by decide)]
    rfl

/-- The word for nothing is read as nothing. -/
theorem optional_reads_null {α : Type} (d : Decoder α) :
    d.optional.Reads (Value.compact .null) none := by
  intro bound gap rest _ hg _
  simp only [Value.compact, Decoder.optional]
  rw [List.cons_append, skipSpace_append_cons hg (by decide)]
  rfl

/-- A string that may be missing is read from every text that stands for it. -/
theorem optional_string_reads_of_quotes {text : List Char} {s : String} (h : Quotes text s) :
    Decoder.string.optional.Reads text (some s) := by
  intro bound gap rest hb hg hr
  have hstring := string_reads_of_quotes h bound [] rest hb isGap_nil hr
  obtain ⟨inner, -, rfl⟩ := h
  simp only [List.cons_append, List.append_assoc, List.nil_append] at hstring ⊢
  simp only [Decoder.optional]
  rw [skipSpace_append_cons hg (by decide)]
  simp [hstring]

/-- A string that may be missing is read from its text. -/
theorem optional_string_reads (s : String) :
    Decoder.string.optional.Reads (printString s) (some s) :=
  optional_string_reads_of_quotes (quotes_printString s)

/-! ## Whole numbers -/

/-- A text that ends a number has no leading digit. -/
theorem EndsNumber.startsDigit_eq_false {cs : List Char} (h : EndsNumber cs) :
    startsDigit cs = false := by
  cases cs with
  | nil => rfl
  | cons c cs => exact (h c rfl).1

/-- Digits in front of anything else are all the digits that are taken. -/
theorem takeWhile_isDigit {ds rest : List Char} (hd : ∀ d ∈ ds, d.isDigit = true)
    (hr : startsDigit rest = false) : (ds ++ rest).takeWhile Char.isDigit = ds := by
  rw [List.takeWhile_append_of_pos hd]
  cases rest with
  | nil => simp
  | cons c rest =>
    have hc : c.isDigit = false := hr
    simp [hc]

/-- What follows the digits is left. -/
theorem dropWhile_isDigit {ds rest : List Char} (hd : ∀ d ∈ ds, d.isDigit = true)
    (hr : startsDigit rest = false) : (ds ++ rest).dropWhile Char.isDigit = rest := by
  rw [List.dropWhile_append_of_pos hd]
  cases rest with
  | nil => rfl
  | cons c rest =>
    have hc : c.isDigit = false := hr
    simp [hc]

/-- More digits never make a smaller number. -/
theorem le_ofDigitChars (ds : List Char) (n : Nat) : n ≤ Nat.ofDigitChars 10 ds n := by
  induction ds generalizing n with
  | nil => simp
  | cons d ds ih =>
    rw [Nat.ofDigitChars_cons]
    exact Nat.le_trans (by omega) (ih (10 * n + (d.toNat - '0'.toNat)))

/-- Digits of a number that fits into 64 bits are all kept in the significand. -/
theorem wholeDigits_eq (ds : List Char) (n : Nat) (power : Int)
    (h : Nat.ofDigitChars 10 ds n ≤ maxWord) :
    Significand.wholeDigits ⟨n, power⟩ ds = ⟨Nat.ofDigitChars 10 ds n, power⟩ := by
  induction ds generalizing n with
  | nil => simp [Significand.wholeDigits]
  | cons d ds ih =>
    rw [Nat.ofDigitChars_cons] at h ⊢
    have hnext : 10 * n + Decimal.digitValue d ≤ maxWord :=
      Nat.le_trans (le_ofDigitChars ds _) h
    simp only [Significand.wholeDigits, hnext, if_true]
    exact ih _ h

/-- The digits of a number start with a zero only for zero. -/
theorem exists_toDigits_cons (n : Nat) :
    ∃ d ds, Nat.toDigits 10 n = d :: ds ∧ (d = '0' → n = 0) := by
  induction n using Nat.strongRecOn with
  | ind n ih =>
    rcases Nat.lt_or_ge n 10 with hlt | hge
    · have hall : ∀ m, m < 10 → Nat.digitChar m = '0' → m = 0 := by decide
      exact ⟨_, [], Nat.toDigits_of_lt_base hlt, hall n hlt⟩
    · obtain ⟨d, ds, hds, hzero⟩ := ih (n / 10) (by omega)
      refine ⟨d, ds ++ [Nat.digitChar (n % 10)], ?_, fun h => ?_⟩
      · rw [Nat.toDigits_of_base_le (by decide) hge, hds, List.cons_append]
      · have := hzero h
        omega

/-- The whole part ends where the number ends. -/
theorem scanAfterWhole_eq (n : Nat) {rest : List Char} (h : EndsNumber rest) :
    scanAfterWhole ⟨n, 0⟩ false rest = .ok (.int n, rest) := by
  cases rest with
  | nil => rfl
  | cons c rest =>
    obtain ⟨-, hpoint, he, hE⟩ := h c rfl
    unfold scanAfterWhole
    split
    · next heq => cases heq; exact absurd rfl hpoint
    · next heq => cases heq; exact absurd rfl he
    · next heq => cases heq; exact absurd rfl hE
    · simp [wholeNumber]

/-- **The digits of a number that fits into 64 bits are read as the number.** -/
theorem scanNumber_toDigits {n : Nat} (hn : n ≤ maxWord) {rest : List Char}
    (hr : EndsNumber rest) : scanNumber false (Nat.toDigits 10 n ++ rest) = .ok (.int n, rest) := by
  have hdigits : ∀ d ∈ Nat.toDigits 10 n, d.isDigit = true :=
    fun d hd => Nat.isDigit_of_mem_toDigits (by decide) (by decide) hd
  obtain ⟨d, ds, hds, hzero⟩ := exists_toDigits_cons n
  have hd : d.isDigit = true := hdigits d (by simp [hds])
  by_cases h0 : d = '0'
  · have hn0 : n = 0 := hzero h0
    subst hn0
    simp only [Nat.toDigits_zero, List.cons_append, List.nil_append, scanNumber, if_true,
      hr.startsDigit_eq_false, Bool.false_eq_true, if_false]
    exact scanAfterWhole_eq 0 hr
  · have hvalue : Nat.ofDigitChars 10 (d :: ds) 0 = n := by
      rw [← hds, Nat.ofDigitChars_ten_toDigits]
    rw [hds] at hdigits ⊢
    rw [List.cons_append, scanNumber]
    simp only [h0, if_false, hd, if_true]
    rw [← List.cons_append, takeWhile_isDigit hdigits hr.startsDigit_eq_false,
      dropWhile_isDigit hdigits hr.startsDigit_eq_false,
      wholeDigits_eq _ _ _ (by rw [hvalue]; exact hn), hvalue]
    exact scanAfterWhole_eq n hr

/-- A whole number is written with its digits. -/
theorem ofNat_compact (n : Nat) : (Value.ofNat n).compact = Nat.toDigits 10 n := by
  simp only [Value.ofNat, Value.compact, Number.print]
  show (Nat.repr n).toList = Nat.toDigits 10 n
  exact Nat.toList_repr

/-- A whole number that fits into 64 bits is read from its text. -/
theorem natural_reads {n : Nat} (hn : n ≤ maxWord) (expected : String) :
    (Decoder.natural expected).Reads (Value.ofNat n).compact n := by
  intro bound gap rest _ hg hr
  obtain ⟨d, ds, hds, -⟩ := exists_toDigits_cons n
  have hd : d.isDigit = true :=
    Nat.isDigit_of_mem_toDigits (b := 10) (n := n) (by decide) (by decide) (by simp [hds])
  have hspace : isSpace d = false := by
    apply Bool.eq_false_iff.2
    intro h
    have := (endsNumber_of_isSpace h [] d rfl).1
    simp [hd] at this
  have hminus : d ≠ '-' := by
    rintro rfl
    exact absurd hd (by decide)
  have hscan := scanNumber_toDigits hn hr
  rw [hds, List.cons_append] at hscan
  simp only [Decoder.natural]
  rw [ofNat_compact, hds, List.cons_append, skipSpace_append_cons hg hspace]
  split
  · next heq => cases heq; exact absurd rfl hminus
  · simp [startsDigit, hd, hscan, Decoder.naturalOf]

end PostingTerminal.Json
