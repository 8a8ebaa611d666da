/-!
# Sorted tables of code points

A class of characters is given by the ranges of code points that belong to it, in increasing
order.  Looking a character up walks the table and stops at the first range that starts
beyond it, so what a look-up accepts lies in one of the ranges.
-/

namespace PostingTerminal.Text

/-- Ranges of code points, each with its first and its last member, in increasing order. -/
abbrev Ranges := List (Nat × Nat)

namespace Ranges

/-- Whether a code point lies in one of the ranges, the table being in increasing order. -/
def contains : Ranges → Nat → Bool
  | [], _ => false
  | (first, last) :: rest, c => first ≤ c && (c ≤ last || contains rest c)

/-- Whether a character's code point lies in one of the ranges. -/
def containsChar (table : Ranges) (c : Char) : Bool := table.contains c.toNat

end Ranges

end PostingTerminal.Text
