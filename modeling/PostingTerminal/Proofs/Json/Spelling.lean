import PostingTerminal.Json.Printer
import PostingTerminal.Json.Scanner

/-!
# The texts that stand for a string

A character can be written into a JSON string in more than one way: as itself, with a short
escape, with the number of its UTF-16 unit, or with the numbers of its two surrogates.

* `Spells` — a text stands for a character inside a string, `Spelling` for the characters of a
  whole one, and `Quotes` is the string with its quotes.
* `scanChars_spells` — **every such text is read as the character that it stands for**, by
  cases of the ways to write it; a whole string follows by induction (`scanString_spelling`).
* `spells_escapeChar` — the text that is written for a character is one of them.
-/

namespace PostingTerminal.Json

/-! ## Ways to write a character -/

/-- A hexadecimal digit of either case and its value. -/
def IsDigit (c : Char) (value : Nat) : Prop :=
  value < 16 ∧ (c = Nat.digitChar value ∨ c = (Nat.digitChar value).toUpper)

instance (c : Char) (value : Nat) : Decidable (IsDigit c value) :=
  inferInstanceAs (Decidable (_ ∧ _))

/-- Four hexadecimal digits and the number that they make. -/
inductive IsUnit : List Char → Nat → Prop
  | intro {a b c d : Char} {i j k l : Nat} (ha : IsDigit a i) (hb : IsDigit b j)
      (hc : IsDigit c k) (hd : IsDigit d l) :
      IsUnit [a, b, c, d] (((i * 16 + j) * 16 + k) * 16 + l)

/-- The characters that have a short escape, behind the letter of it. -/
def shortEscapes : List (Char × Char) :=
  [('"', '"'), ('\\', '\\'), ('/', '/'), ('b', '\x08'), ('f', '\x0c'), ('n', '\n'), ('r', '\r'),
    ('t', '\t')]

/-- **A text that stands for a character** inside a string. -/
inductive Spells : List Char → Char → Prop
  | plain {c : Char} (hquote : c ≠ '"') (hback : c ≠ '\\') (hcontrol : 32 ≤ c.toNat) :
      Spells [c] c
  | short {letter c : Char} (h : (letter, c) ∈ shortEscapes) : Spells ['\\', letter] c
  | unit {digits : List Char} {c : Char} (h : IsUnit digits c.toNat) :
      Spells ('\\' :: 'u' :: digits) c
  | pair {digits more : List Char} {high low : Nat} {c : Char}
      (hhigh : 0xD800 ≤ high ∧ high ≤ 0xDBFF) (hlow : 0xDC00 ≤ low ∧ low ≤ 0xDFFF)
      (hc : c.toNat = 0x10000 + (high - 0xD800) * 0x400 + (low - 0xDC00))
      (hdigits : IsUnit digits high) (hmore : IsUnit more low) :
      Spells ('\\' :: 'u' :: (digits ++ '\\' :: 'u' :: more)) c

/-- A text that stands for characters one after the other. -/
inductive Spelling : List Char → List Char → Prop
  | nil : Spelling [] []
  | cons {text texts : List Char} {c : Char} {cs : List Char} (h : Spells text c)
      (hs : Spelling texts cs) : Spelling (text ++ texts) (c :: cs)

/-- Characters that need no escape stand for themselves. -/
theorem spelling_self {s : List Char} (h : ∀ c ∈ s, c ≠ '"' ∧ c ≠ '\\' ∧ 32 ≤ c.toNat) :
    Spelling s s := by
  induction s with
  | nil => exact .nil
  | cons c s ih =>
    obtain ⟨hquote, hback, hcontrol⟩ := h c List.mem_cons_self
    exact .cons (.plain hquote hback hcontrol) (ih fun x hx => h x (List.mem_cons_of_mem c hx))

/-- Texts that follow each other stand for the characters of both. -/
theorem Spelling.append {text texts s r : List Char} (h : Spelling text s)
    (hs : Spelling texts r) : Spelling (text ++ texts) (s ++ r) := by
  induction h with
  | nil => exact hs
  | cons h _ ih =>
    rw [List.append_assoc]
    exact .cons h ih

/-- A text that stands for a string, quotes included. -/
def Quotes (text : List Char) (s : String) : Prop :=
  ∃ inner, Spelling inner s.toList ∧ text = '"' :: (inner ++ ['"'])

/-! ## Reading them -/

/-- A hexadecimal digit is read as its value. -/
theorem hexValue?_of_isDigit {c : Char} {value : Nat} (h : IsDigit c value) :
    hexValue? c = some value := by
  have hall : ∀ v, v < 16 → hexValue? (Nat.digitChar v) = some v ∧
      hexValue? (Nat.digitChar v).toUpper = some v := by decide
  obtain ⟨hvalue, rfl | rfl⟩ := h
  · exact (hall value hvalue).1
  · exact (hall value hvalue).2

/-- Four hexadecimal digits are read as their number. -/
theorem scanHex_isUnit {digits : List Char} {n : Nat} (h : IsUnit digits n) (cs : List Char) :
    scanHex (digits ++ cs) = .ok (n, cs) := by
  obtain ⟨ha, hb, hc, hd⟩ := h
  simp only [List.cons_append, List.nil_append, scanHex, hexValue?_of_isDigit ha,
    hexValue?_of_isDigit hb, hexValue?_of_isDigit hc, hexValue?_of_isDigit hd]

/-- No character is a surrogate. -/
theorem not_surrogate (c : Char) : ¬ (0xD800 ≤ c.toNat ∧ c.toNat ≤ 0xDFFF) := by
  have hvalid : c.toNat < 0xD800 ∨ 0xDFFF < c.toNat ∧ c.toNat < 0x110000 := c.valid
  omega

/-- The number of a character stands for it. -/
theorem scanEscape_unit {digits : List Char} {c : Char} (h : IsUnit digits c.toNat)
    (cs : List Char) : scanEscape ('u' :: (digits ++ cs)) = .ok (c, cs) := by
  have hsurrogate := not_surrogate c
  have hlow : ¬ (0xDC00 ≤ c.toNat ∧ c.toNat ≤ 0xDFFF) := by omega
  have hhigh : ¬ (0xD800 ≤ c.toNat ∧ c.toNat ≤ 0xDBFF) := by omega
  simp only [scanEscape, scanHex_isUnit h, hlow, hhigh, if_false, Char.ofNat_toNat]

/-- The numbers of its two surrogates stand for a character. -/
theorem scanEscape_pair {digits more : List Char} {high low : Nat} {c : Char}
    (hhigh : 0xD800 ≤ high ∧ high ≤ 0xDBFF) (hlow : 0xDC00 ≤ low ∧ low ≤ 0xDFFF)
    (hc : c.toNat = 0x10000 + (high - 0xD800) * 0x400 + (low - 0xDC00))
    (hdigits : IsUnit digits high) (hmore : IsUnit more low) (cs : List Char) :
    scanEscape ('u' :: (digits ++ '\\' :: 'u' :: (more ++ cs))) = .ok (c, cs) := by
  have hfirst : ¬ (0xDC00 ≤ high ∧ high ≤ 0xDFFF) := by omega
  simp only [scanEscape, scanHex_isUnit hdigits, hfirst, hhigh, and_self, if_false, if_true,
    scanLowSurrogate, scanHex_isUnit hmore, hlow, ← hc, Char.ofNat_toNat]

/-- Inside a string an escape is read as the character that it stands for. -/
theorem scanChars_escape {more rest : List Char} {c : Char} (acc : List Char)
    (h : scanEscape more = .ok (c, rest)) :
    scanChars acc ('\\' :: more) = scanChars (c :: acc) rest := by
  rw [scanChars]
  simp only [Char.reduceEq, if_false, if_true]
  split
  · next hf => simp [h] at hf
  · next hx =>
    obtain ⟨rfl, rfl⟩ : c = _ ∧ rest = _ := by simpa [h] using hx
    rfl

/-- **Inside a string a text is read as the character that it stands for.** -/
theorem scanChars_spells {text : List Char} {c : Char} (h : Spells text c) (acc cs : List Char) :
    scanChars acc (text ++ cs) = scanChars (c :: acc) cs := by
  cases h with
  | plain hquote hback hcontrol =>
    rw [List.cons_append, List.nil_append, scanChars]
    simp only [hquote, hback, Nat.not_lt.2 hcontrol, if_false]
  | short h =>
    apply scanChars_escape
    simp only [shortEscapes, List.mem_cons, Prod.mk.injEq, List.not_mem_nil, or_false] at h
    rcases h with ⟨rfl, rfl⟩ | ⟨rfl, rfl⟩ | ⟨rfl, rfl⟩ | ⟨rfl, rfl⟩ | ⟨rfl, rfl⟩ | ⟨rfl, rfl⟩ |
      ⟨rfl, rfl⟩ | ⟨rfl, rfl⟩ <;> rfl
  | unit h => exact scanChars_escape acc (scanEscape_unit h cs)
  | pair hhigh hlow hc hdigits hmore =>
    rw [List.cons_append, List.cons_append, List.append_assoc, List.cons_append, List.cons_append]
    exact scanChars_escape acc (scanEscape_pair hhigh hlow hc hdigits hmore cs)

/-- Inside a string a text is read as the characters that it stands for, up to the closing
quote. -/
theorem scanChars_spelling {text s : List Char} (h : Spelling text s) (acc cs : List Char) :
    scanChars acc (text ++ '"' :: cs) = .ok (acc.reverse ++ s, cs) := by
  induction h generalizing acc with
  | nil => rw [List.nil_append, scanChars]; simp
  | cons h _ ih =>
    rw [List.append_assoc, scanChars_spells h, ih]
    simp

/-- **A string is read from every text that stands for it.** -/
theorem scanString_spelling {text : List Char} {s : String} (h : Spelling text s.toList)
    (cs : List Char) : scanString (text ++ '"' :: cs) = .ok (s, cs) := by
  simp [scanString, scanChars_spelling h]

/-! ## Writing one of them -/

/-- A hexadecimal digit that is written has its value. -/
theorem isDigit_hexDigit (n : Nat) : IsDigit (hexDigit n) (n % 16) :=
  ⟨Nat.mod_lt n (by decide), .inl rfl⟩

/-- A control character is written with its number. -/
theorem isUnit_control {n : Nat} (h : n < 32) :
    IsUnit ['0', '0', hexDigit (n / 16), hexDigit n] n := by
  have hzero : IsDigit '0' 0 := ⟨by decide, .inl rfl⟩
  have hunit := IsUnit.intro hzero hzero (isDigit_hexDigit (n / 16)) (isDigit_hexDigit n)
  have hvalue : ((0 * 16 + 0) * 16 + n / 16 % 16) * 16 + n % 16 = n := by omega
  rwa [hvalue] at hunit

/-- **What is written for a character stands for it.** -/
theorem spells_escapeChar (c : Char) : Spells (escapeChar c) c := by
  unfold escapeChar
  split
  · next h => subst h; exact .short (by decide)
  split
  · next h => subst h; exact .short (by decide)
  split
  · next h => subst h; exact .short (by decide)
  split
  · next h => subst h; exact .short (by decide)
  split
  · next h => subst h; exact .short (by decide)
  split
  · next h => subst h; exact .short (by decide)
  split
  · next h => subst h; exact .short (by decide)
  split
  · next h => exact .unit (isUnit_control h)
  · next hquote hback _ _ _ _ _ hcontrol => exact .plain hquote hback (Nat.not_lt.1 hcontrol)

/-- What is written for characters stands for them. -/
theorem spelling_flatMap (s : List Char) : Spelling (s.flatMap escapeChar) s := by
  induction s with
  | nil => exact .nil
  | cons c s ih => exact .cons (spells_escapeChar c) ih

/-- **What is written for a string stands for it.** -/
theorem quotes_printString (s : String) : Quotes (printString s) s :=
  ⟨s.toList.flatMap escapeChar, spelling_flatMap s.toList, rfl⟩

end PostingTerminal.Json
