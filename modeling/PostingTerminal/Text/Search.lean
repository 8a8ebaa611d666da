/-!
# Searching and cutting texts

Whether one text occurs in another, and cutting a text at every character of a class.
-/

namespace PostingTerminal.Text

/-- Whether `needle` occurs somewhere in the text. -/
def occursIn (needle : List Char) : List Char → Bool
  | [] => needle.isEmpty
  | c :: cs => needle.isPrefixOf (c :: cs) || occursIn needle cs

/-- Whether one string occurs somewhere in another. -/
def contains (text needle : String) : Bool := occursIn needle.toList text.toList

/-- The pieces of a text between the characters of a class, empty ones included. -/
def cutAt (separates : Char → Bool) : List Char → List (List Char)
  | [] => [[]]
  | c :: cs =>
    if separates c then [] :: cutAt separates cs
    else
      match cutAt separates cs with
      | [] => [[c]]
      | piece :: rest => (c :: piece) :: rest

/-- A text contains another exactly where the other stands between two rests. -/
theorem occursIn_iff {needle text : List Char} :
    occursIn needle text = true ↔ ∃ before after, text = before ++ needle ++ after := by
  induction text with
  | nil =>
    constructor
    · intro h
      exact ⟨[], [], by simpa [occursIn] using h⟩
    · rintro ⟨before, after, h⟩
      have : needle = [] := by
        cases needle with
        | nil => rfl
        | cons c cs => cases before <;> simp at h
      simp [occursIn, this]
  | cons c cs ih =>
    simp only [occursIn, Bool.or_eq_true, List.isPrefixOf_iff_prefix, ih]
    constructor
    · rintro (⟨after, h⟩ | ⟨before, after, h⟩)
      · exact ⟨[], after, by simp [h]⟩
      · exact ⟨c :: before, after, by simp [h]⟩
    · rintro ⟨before, after, h⟩
      cases before with
      | nil => exact Or.inl ⟨after, by simpa using h.symm⟩
      | cons b before =>
        simp only [List.cons_append, List.cons.injEq] at h
        exact Or.inr ⟨before, after, h.2⟩

end PostingTerminal.Text
