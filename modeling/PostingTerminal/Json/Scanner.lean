import PostingTerminal.Json.Fault

/-!
# Tokens of a JSON text

Reading works on what is left of the text.  Each function takes a token off the front or says
what is wrong and where.  A string can also be skipped, which checks its escapes but not that
surrogates come in pairs, and so can a number, which checks its shape but not its size.

A number is read as a significand of at most 64 bits and a power of ten: digits beyond those
bits only count towards the power.  The double is the product of the two, or the quotient for
a negative power.
-/

namespace PostingTerminal.Json

/-- A value taken off the front of a text and what is left of it. -/
abbrev Scan (α : Type) := Except Fault (α × List Char)

/-- Whether a character may stand between tokens. -/
def isSpace (c : Char) : Bool := c == ' ' || c == '\n' || c == '\t' || c == '\r'

/-- Passes over the blanks before a token. -/
def skipSpace (cs : List Char) : List Char := cs.dropWhile isSpace

/-- The value of a hexadecimal digit. -/
def hexValue? (c : Char) : Option Nat :=
  if '0' ≤ c ∧ c ≤ '9' then some (c.toNat - '0'.toNat)
  else if 'a' ≤ c ∧ c ≤ 'f' then some (c.toNat - 'a'.toNat + 10)
  else if 'A' ≤ c ∧ c ≤ 'F' then some (c.toNat - 'A'.toNat + 10)
  else none

/-- Takes four hexadecimal digits off the front.  Four bytes are looked at, whether or not
they are digits; fewer than four end the string. -/
def scanHex : List Char → Scan Nat
  | a :: b :: c :: d :: rest =>
    match hexValue? a, hexValue? b, hexValue? c, hexValue? d with
    | some a, some b, some c, some d => .ok (((a * 16 + b) * 16 + c) * 16 + d, rest)
    | _, _, _, _ => .error ⟨.invalidEscape, some ⟨a :: b :: c :: d :: rest, 4⟩⟩
  | cs =>
    if byteCount cs < 4 then .error (faultBefore .endInString [])
    else .error ⟨.invalidEscape, some ⟨cs, 4⟩⟩

/-- The second half of a pair of surrogates, the first of which has been read. -/
def scanLowSurrogate (high : Nat) : List Char → Scan Char
  | '\\' :: 'u' :: cs =>
    match scanHex cs with
    | .error f => .error f
    | .ok (low, rest) =>
      if 0xDC00 ≤ low ∧ low ≤ 0xDFFF then
        .ok (Char.ofNat (0x10000 + (high - 0xD800) * 0x400 + (low - 0xDC00)), rest)
      else .error (faultBefore .loneSurrogate rest)
  | ['\\'] => .error (faultBefore .endInString [])
  | '\\' :: cs => .error (faultAt .hexEscapeEnded cs)
  | [] => .error (faultBefore .endInString [])
  | cs => .error (faultAt .hexEscapeEnded cs)

/-- The character that an escape stands for, the backslash having been read. -/
def scanEscape : List Char → Scan Char
  | '"' :: cs => .ok ('"', cs)
  | '\\' :: cs => .ok ('\\', cs)
  | '/' :: cs => .ok ('/', cs)
  | 'b' :: cs => .ok ('\x08', cs)
  | 'f' :: cs => .ok ('\x0c', cs)
  | 'n' :: cs => .ok ('\n', cs)
  | 'r' :: cs => .ok ('\r', cs)
  | 't' :: cs => .ok ('\t', cs)
  | 'u' :: cs =>
    match scanHex cs with
    | .error f => .error f
    | .ok (n, rest) =>
      if 0xDC00 ≤ n ∧ n ≤ 0xDFFF then .error (faultBefore .loneSurrogate rest)
      else if 0xD800 ≤ n ∧ n ≤ 0xDBFF then scanLowSurrogate n rest
      else .ok (Char.ofNat n, rest)
  | [] => .error (faultBefore .endInString [])
  | cs => .error (faultAt .invalidEscape cs)

/-- Reading four hexadecimal digits uses up some of the text. -/
theorem scanHex_length {cs rest : List Char} {n : Nat} (h : scanHex cs = .ok (n, rest)) :
    rest.length < cs.length := by
  unfold scanHex at h
  split at h
  · split at h
    · simp only [Except.ok.injEq, Prod.mk.injEq] at h
      obtain ⟨-, rfl⟩ := h
      simp only [List.length_cons]
      omega
    · simp at h
  · split at h <;> simp at h

/-- Reading the second half of a surrogate pair uses up some of the text. -/
theorem scanLowSurrogate_length {cs rest : List Char} {high : Nat} {c : Char}
    (h : scanLowSurrogate high cs = .ok (c, rest)) : rest.length < cs.length := by
  unfold scanLowSurrogate at h
  split at h
  · split at h
    · simp at h
    · next hx =>
      split at h
      · simp only [Except.ok.injEq, Prod.mk.injEq] at h
        obtain ⟨-, rfl⟩ := h
        have := scanHex_length hx
        simp only [List.length_cons]
        omega
      · simp at h
  all_goals simp at h

/-- Reading what follows a backslash uses up some of the text. -/
theorem scanEscape_length {cs rest : List Char} {c : Char} (h : scanEscape cs = .ok (c, rest)) :
    rest.length < cs.length := by
  unfold scanEscape at h
  split at h
  case h_9 =>
    split at h
    · simp at h
    · next hx =>
      have h1 := scanHex_length hx
      split at h
      · simp at h
      · split at h
        · have h2 := scanLowSurrogate_length h
          simp only [List.length_cons]
          omega
        · simp only [Except.ok.injEq, Prod.mk.injEq] at h
          obtain ⟨-, rfl⟩ := h
          simp only [List.length_cons]
          omega
  all_goals first
    | (simp only [Except.ok.injEq, Prod.mk.injEq] at h
       obtain ⟨-, rfl⟩ := h
       simp)
    | simp at h

/-- The rest of a string whose opening quote, and the characters `acc` in reverse, have been
read. -/
def scanChars (acc : List Char) (cs : List Char) : Scan (List Char) :=
  match cs with
  | [] => .error (faultBefore .endInString [])
  | c :: rest =>
    if c = '"' then .ok (acc.reverse, rest)
    else if c = '\\' then
      match h : scanEscape rest with
      | .error f => .error f
      | .ok (e, more) =>
        have : more.length < rest.length := scanEscape_length h
        scanChars (e :: acc) more
    else if c.toNat < 32 then .error (faultAt .controlCharacter cs)
    else scanChars (c :: acc) rest
termination_by cs.length
decreasing_by all_goals simp only [List.length_cons]; omega

/-- The string whose opening quote has been read. -/
def scanString (cs : List Char) : Scan String :=
  match scanChars [] cs with
  | .error f => .error f
  | .ok (s, rest) => .ok (String.ofList s, rest)

/-- Passes over the rest of a string whose opening quote has been read.  The digits of a
hexadecimal escape are checked where the escape begins and then passed over like any other
character. -/
def skipString : List Char → Except Fault (List Char)
  | [] => .error (faultBefore .endInString [])
  | '"' :: cs => .ok cs
  | ['\\'] => .error (faultBefore .endInString [])
  | '\\' :: e :: cs =>
    if e = 'u' then
      match scanHex cs with
      | .error f => .error f
      | .ok _ => skipString cs
    else if e ∈ ['"', '\\', '/', 'b', 'f', 'n', 'r', 't'] then skipString cs
    else .error (faultAt .invalidEscape (e :: cs))
  | c :: cs => if c.toNat < 32 then .error (faultBefore .controlCharacter (c :: cs)) else skipString cs

/-- Takes the given letters off the front. -/
def scanWord : (letters : List Char) → List Char → Except Fault (List Char)
  | [], cs => .ok cs
  | _ :: _, [] => .error (faultBefore .endInValue [])
  | l :: ls, c :: cs => if c = l then scanWord ls cs else .error (faultAt .wordExpected (c :: cs))

/-- Whether the next character is a digit. -/
def startsDigit : List Char → Bool
  | c :: _ => c.isDigit
  | [] => false

/-- The largest whole number of 64 bits. -/
def maxWord : Nat := 0xFFFFFFFFFFFFFFFF

/-- The significand of a number and the power of ten it has to be multiplied by. -/
structure Significand where
  value : Nat
  power : Int

/-- Appends the digits of the whole part.  The first digit that does not fit, and all after
it, only count towards the power. -/
def Significand.wholeDigits (s : Significand) : List Char → Significand
  | [] => s
  | d :: ds =>
    let next := 10 * s.value + Decimal.digitValue d
    if next ≤ maxWord then wholeDigits ⟨next, s.power⟩ ds
    else ⟨s.value, s.power + (ds.length + 1 : Nat)⟩

/-- Appends the digits after the point, up to the first one that does not fit. -/
def Significand.fractionDigits (s : Significand) : List Char → Significand
  | [] => s
  | d :: ds =>
    let next := 10 * s.value + Decimal.digitValue d
    if next ≤ maxWord then fractionDigits ⟨next, s.power - 1⟩ ds else s

/-- The double nearest to a power of ten from 0 to 308. -/
def powerOfTen (n : Nat) : Float := Float.ofScientific 1 false n

/-- The double of a significand times a power of ten, if it is finite.  A power below
`10 ^ -308` is reached in steps; three of them take every significand to zero. -/
def scaled (x : Float) (power : Int) : (steps : Nat) → Option Float
  | 0 => some x
  | steps + 1 =>
    if power.natAbs ≤ 308 then
      if power ≥ 0 then
        let y := x * powerOfTen power.natAbs
        if y.isInf then none else some y
      else some (x / powerOfTen power.natAbs)
    else if x == 0.0 then some x
    else if power ≥ 0 then none
    else scaled (x / powerOfTen 308) (power + 308) steps

/-- The signed double of a significand, read up to `rest`. -/
def Significand.toFloat (s : Significand) (negative : Bool) (rest : List Char) : Scan Number :=
  match scaled (Float.ofScientific s.value false 0) s.power 5 with
  | none => .error (faultBefore .numberOutOfRange rest)
  | some x => .ok (.float (if negative then -x else x), rest)

/-- The double of a significand with a complete exponent, read up to `rest`. -/
def Significand.raised (s : Significand) (negative below : Bool) (exponent : Nat)
    (rest : List Char) : Scan Number :=
  let power : Int := if below then -(exponent : Int) else exponent
  Significand.toFloat ⟨s.value, s.power + power⟩ negative rest

/-- The digits of an exponent.  An exponent beyond 31 bits is too large or makes a zero,
whatever follows. -/
def scanExponentDigits (s : Significand) (negative below : Bool) (exponent : Nat) :
    List Char → Scan Number
  | [] => s.raised negative below exponent []
  | d :: rest =>
    if d.isDigit then
      let next := 10 * exponent + Decimal.digitValue d
      if next ≥ 0x80000000 then
        if s.value ≠ 0 ∧ !below then .error (faultAt .numberOutOfRange (d :: rest))
        else .ok (.float (if negative then -0.0 else 0.0), rest.dropWhile Char.isDigit)
      else scanExponentDigits s negative below next rest
    else s.raised negative below exponent (d :: rest)

/-- The exponent of a number, its letter having been read. -/
def scanExponent (s : Significand) (negative : Bool) (cs : List Char) : Scan Number :=
  let (below, cs) :=
    match cs with
    | '+' :: more => (false, more)
    | '-' :: more => (true, more)
    | _ => (false, cs)
  match cs with
  | [] => .error (faultBefore .endInValue [])
  | d :: _ =>
    if d.isDigit then scanExponentDigits s negative below 0 cs
    else .error (faultAt .invalidNumber cs)

/-- What follows the digits of a double: an exponent or nothing. -/
def scanAfterDigits (s : Significand) (negative : Bool) (cs : List Char) : Scan Number :=
  match cs with
  | 'e' :: more => scanExponent s negative more
  | 'E' :: more => scanExponent s negative more
  | _ => s.toFloat negative cs

/-- The whole number of a significand that lost no digit: whole if it fits into 64 bits with
its sign, a double otherwise. -/
def wholeNumber (negative : Bool) (n : Nat) : Number :=
  if !negative then .int n
  else if n = 0 ∨ n > 0x8000000000000000 then .float (-(Float.ofScientific n false 0))
  else .int (-(n : Int))

/-- What follows the whole part of a number. -/
def scanAfterWhole (s : Significand) (negative : Bool) (cs : List Char) : Scan Number :=
  match cs with
  | '.' :: more =>
    if startsDigit more then
      scanAfterDigits (s.fractionDigits (more.takeWhile Char.isDigit)) negative
        (more.dropWhile Char.isDigit)
    else if more.isEmpty then .error (faultBefore .endInValue [])
    else .error (faultAt .invalidNumber more)
  | 'e' :: more => scanExponent s negative more
  | 'E' :: more => scanExponent s negative more
  | _ => if s.power = 0 then .ok (wholeNumber negative s.value, cs) else s.toFloat negative cs

/-- A number, its sign having been read. -/
def scanNumber (negative : Bool) (cs : List Char) : Scan Number :=
  match cs with
  | [] => .error (faultBefore .endInValue [])
  | d :: rest =>
    if d = '0' then
      if startsDigit rest then .error (faultAt .invalidNumber rest)
      else scanAfterWhole ⟨0, 0⟩ negative rest
    else if d.isDigit then
      scanAfterWhole (Significand.wholeDigits ⟨0, 0⟩ (cs.takeWhile Char.isDigit)) negative
        (cs.dropWhile Char.isDigit)
    else .error (faultAt .invalidNumber cs)

/-- Passes over the exponent of a number, its letter having been read. -/
def skipExponent (cs : List Char) : Except Fault (List Char) :=
  let cs :=
    match cs with
    | '+' :: more => more
    | '-' :: more => more
    | _ => cs
  if startsDigit cs then .ok (cs.dropWhile Char.isDigit) else .error (faultAt .invalidNumber cs)

/-- Passes over what follows the digits of a number: an exponent or nothing. -/
def skipAfterDigits (cs : List Char) : Except Fault (List Char) :=
  match cs with
  | 'e' :: more => skipExponent more
  | 'E' :: more => skipExponent more
  | _ => .ok cs

/-- Passes over a number, its sign having been read. -/
def skipNumber (cs : List Char) : Except Fault (List Char) :=
  match cs with
  | [] => .error (faultAt .invalidNumber [])
  | d :: rest =>
    if d = '0' ∧ startsDigit rest then .error (faultAt .invalidNumber rest)
    else if d.isDigit then
      match cs.dropWhile Char.isDigit with
      | '.' :: more =>
        if startsDigit more then skipAfterDigits (more.dropWhile Char.isDigit)
        else .error (faultAt .invalidNumber more)
      | after => skipAfterDigits after
    else .error (faultAt .invalidNumber cs)

end PostingTerminal.Json
