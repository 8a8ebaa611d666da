import PostingTerminal.Error

/-!
# Fresh draft ids

A fresh id is the word `draft` and a random 128-bit number in hexadecimal, in which the six
bits that tell version and variant of the number are fixed.  The other 122 bits are free, so
numbers that differ below `2 ^ 122` give ids that differ.
-/

namespace PostingTerminal

/-- A number in hexadecimal, in lower case and with a fixed count of digits. -/
def hexDigits : (count : Nat) → Nat → List Char
  | 0, _ => []
  | count + 1, n => hexDigits count (n / 16) ++ [Nat.digitChar (n % 16)]

/-- The 128-bit number with 122 given bits, version 4 and the common variant. -/
def versioned (n : Nat) : Nat :=
  let low := n % (1 <<< 62)
  let middle := (n >>> 62) % (1 <<< 12)
  let high := (n >>> 74) % (1 <<< 48)
  (high <<< 80) + (4 <<< 76) + (middle <<< 64) + (2 <<< 62) + low

/-- The fresh id made from a number. -/
def DraftId.ofNumber (n : Nat) : DraftId :=
  ⟨String.ofList ("draft_".toList ++ hexDigits 32 (versioned n))⟩

/-- Whether a character is a hexadecimal digit in lower case. -/
def isHexDigit (c : Char) : Bool := c.isDigit || ('a' ≤ c && c ≤ 'f')

/-- Whether an id has the shape of a fresh one. -/
def DraftId.isFreshShape (id : DraftId) : Bool :=
  let cs := id.text.toList
  cs.take 6 == "draft_".toList && cs.length == 38 && (cs.drop 6).all isHexDigit
    && cs[18]? == some '4' && ['8', '9', 'a', 'b'].contains (cs[22]?.getD ' ')

/-- Gives the fresh ids of a run, one for each draft begun. -/
abbrev IdSupply := Nat → DraftId

/-- The supply that counts up from a number. -/
def IdSupply.from (seed : Nat) : IdSupply := fun n => .ofNumber (seed + n)

end PostingTerminal
