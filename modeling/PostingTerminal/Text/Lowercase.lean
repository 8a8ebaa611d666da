import PostingTerminal.Text.Casing

/-!
# Lower-casing of a whole text

Every letter goes to its lower-case form on its own, with two exceptions.  The dotted capital
I has a two-character form.  The capital sigma is written as a final sigma at the end of a
word and as a medial one elsewhere: a word ends where a letter with case stands before the
sigma and none after it, characters that case ignores being passed over on both sides.
-/

namespace PostingTerminal.Text

/-- Whether the first character that case does not ignore has case. -/
def startsCased (cs : List Char) : Bool :=
  match cs.dropWhile isCaseIgnorable with
  | [] => false
  | c :: _ => isCased c

/-- Lower-cases a text, given whether a letter with case stands before it. -/
def lowerFrom : Bool → List Char → List Char
  | _, [] => []
  | afterCased, c :: cs =>
    let lowered :=
      if c = 'Σ' then if afterCased && !startsCased cs then ['ς'] else ['σ']
      else if c = 'İ' then ['i', '\u0307']
      else [simpleLower c]
    lowered ++ lowerFrom (if isCaseIgnorable c then afterCased else isCased c) cs

/-- The lower-case form of a text. -/
def lower (cs : List Char) : List Char := lowerFrom false cs

end PostingTerminal.Text
