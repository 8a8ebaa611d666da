import Mathlib.Data.List.Basic
import PostingTerminal.Decimal.Shortest
import PostingTerminal.Text.Printable

/-!
# The line breaks in a text

* `breaks` — the characters of a text that end a line wherever text is shown in lines, in order.
* `breaks_append`, `breaks_intercalate` — texts that are put together keep their breaks.
* `breaks_toString`, `breaks_decimal` — numbers have none.
* `breaks_quoted` — **a quoted text has none**, whatever text is quoted.
-/

namespace PostingTerminal.Text

/-- The characters that end a line: the line feed, the vertical tab, the form feed, the carriage
return, the next-line character and the separators of lines and paragraphs. -/
def lineBreaks : List Char :=
  ['\n', '\x0b', '\x0c', '\r', Char.ofNat 133, Char.ofNat 8232, Char.ofNat 8233]

/-- Whether a character ends a line. -/
def isLineBreak (c : Char) : Bool := c ∈ lineBreaks

/-- **The line breaks in a text**, in order. -/
def breaks (text : String) : List Char := text.toList.filter isLineBreak

/-- No character of a list ends a line. -/
def Unbroken (cs : List Char) : Prop := ∀ c ∈ cs, isLineBreak c = false

instance (cs : List Char) : Decidable (Unbroken cs) :=
  cs.decidableBAll (isLineBreak · = false)

/-- A text is unbroken if it has no line breaks. -/
theorem breaks_eq_nil_iff {text : String} : breaks text = [] ↔ Unbroken text.toList := by
  simp [breaks, Unbroken]

/-- An unbroken text has no line break. -/
theorem breaks_ofList {cs : List Char} (h : Unbroken cs) : breaks (String.ofList cs) = [] := by
  rwa [breaks_eq_nil_iff, String.toList_ofList]

/-! ## Texts put together -/

/-- The line breaks of two texts are those of the first and then those of the second. -/
theorem breaks_append (a b : String) : breaks (a ++ b) = breaks a ++ breaks b := by
  simp [breaks, String.toList_append]

/-- A label without breaks in front of a text adds none. -/
theorem breaks_label {label : List Char} (h : Unbroken label) (text : String) :
    breaks (String.ofList label ++ text) = breaks text := by
  rw [breaks_append, breaks_ofList h, List.nil_append]

/-- Nor does something unbroken behind it. -/
theorem breaks_trailer {trailer : String} (h : breaks trailer = []) (text : String) :
    breaks (text ++ trailer) = breaks text := by
  rw [breaks_append, h, List.append_nil]

/-- Nor do labels on both sides. -/
theorem breaks_enclosed {front back : List Char} (hfront : Unbroken front) (hback : Unbroken back)
    (text : String) : breaks (String.ofList front ++ text ++ String.ofList back) = breaks text := by
  rw [breaks_trailer (breaks_ofList hback), breaks_label hfront]

/-- The line breaks of many texts are those of each in turn. -/
theorem breaks_join (texts : List String) : breaks (String.join texts) = texts.flatMap breaks := by
  induction texts with
  | nil => rfl
  | cons text texts ih => rw [String.join_cons, breaks_append, ih, List.flatMap_cons]

/-- A separator without breaks adds none. -/
theorem breaks_intercalate {separator : String} (h : breaks separator = []) (texts : List String) :
    breaks (separator.intercalate texts) = texts.flatMap breaks := by
  induction texts with
  | nil => rw [String.intercalate_nil]; rfl
  | cons text texts ih =>
    cases texts with
    | nil => rw [String.intercalate_singleton, List.flatMap_singleton]
    | cons next texts =>
      rw [String.intercalate_cons_cons, breaks_append, breaks_append, h, ih, List.append_nil,
        ← List.flatMap_cons]

/-- Two unbroken texts make an unbroken one. -/
theorem unbroken_append {cs ds : List Char} (hcs : Unbroken cs) (hds : Unbroken ds) :
    Unbroken (cs ++ ds) :=
  List.forall_mem_append.2 ⟨hcs, hds⟩

/-- A character that breaks no line leaves a text unbroken. -/
theorem unbroken_cons {c : Char} {cs : List Char} (hc : isLineBreak c = false)
    (hcs : Unbroken cs) : Unbroken (c :: cs) :=
  List.forall_mem_cons.2 ⟨hc, hcs⟩

/-- A character that breaks no line leaves a text unbroken however often it is repeated. -/
theorem unbroken_replicate {c : Char} (hc : isLineBreak c = false) (n : Nat) :
    Unbroken (List.replicate n c) := by
  intro d hd
  rwa [List.eq_of_mem_replicate hd]

/-! ## Numbers -/

/-- The characters that stand for digits are no line breaks. -/
theorem isLineBreak_digitChar (n : Nat) : isLineBreak n.digitChar = false := by
  simp [isLineBreak, lineBreaks]

/-- The digits of a number are unbroken. -/
theorem unbroken_toDigits (b n : Nat) : Unbroken (Nat.toDigits b n) := by
  have hcore (fuel : Nat) : ∀ n ds, Unbroken ds → Unbroken (Nat.toDigitsCore b fuel n ds) := by
    induction fuel with
    | zero => exact fun _ _ hds => hds
    | succ fuel ih =>
      intro n ds hds
      have hcons := unbroken_cons (isLineBreak_digitChar (n % b)) hds
      unfold Nat.toDigitsCore
      dsimp only
      split
      · exact hcons
      · exact ih _ _ hcons
  exact hcore _ _ [] nofun

/-- A natural number is shown in one line. -/
theorem breaks_toString (n : Nat) : breaks (toString n) = [] := by
  rw [Nat.toString_eq_ofList_toDigits]
  exact breaks_ofList (unbroken_toDigits 10 n)

/-- So is an integer. -/
theorem breaks_toString_int (n : Int) : breaks (toString n) = [] := by
  cases n with
  | ofNat n => exact breaks_toString n
  | negSucc n =>
    show breaks ("-" ++ toString (n + 1)) = []
    exact (breaks_label (by decide) _).trans (breaks_toString (n + 1))

open Decimal

/-- Digits with a point are unbroken. -/
theorem unbroken_positional (d : Digits) (marksWhole : Bool) :
    Unbroken (d.positional marksWhole) := by
  have hdigits := unbroken_toDigits 10 d.digits
  have hzeros : ∀ n, Unbroken (List.replicate n '0') := unbroken_replicate rfl
  unfold Digits.positional
  dsimp only
  split
  · refine unbroken_append (unbroken_append hdigits (hzeros _)) ?_
    cases marksWhole <;> decide
  · have hpadded := unbroken_append
      (hzeros (d.exponent.natAbs + 1 - (Nat.toDigits 10 d.digits).length)) hdigits
    refine unbroken_append ?_ (unbroken_cons rfl ?_)
    · exact fun c hc => hpadded c (List.mem_of_mem_take hc)
    · exact fun c hc => hpadded c (List.mem_of_mem_drop hc)

/-- So are digits with an exponent. -/
theorem unbroken_scientific (d : Digits) : Unbroken d.scientific := by
  have hdigits := unbroken_toDigits 10 d.digits
  unfold Digits.scientific
  have hzeros : ∀ n, Unbroken (List.replicate n '0') := unbroken_replicate rfl
  refine unbroken_append (unbroken_append ?_ (unbroken_cons rfl (unbroken_cons ?_ (hzeros _))))
    (unbroken_toDigits 10 _)
  · split
    · exact nofun
    · next heq => rwa [heq] at hdigits
    · next x more _ heq =>
      rw [heq] at hdigits
      obtain ⟨hx, hmore⟩ := List.forall_mem_cons.1 hdigits
      exact unbroken_cons hx (unbroken_cons rfl hmore)
  · split <;> rfl

/-- **A double is shown in one line.** -/
theorem breaks_decimal (style : Style) (x : Float) : breaks (style.text x) = [] := by
  have hsign : Unbroken (if x.toBits.toNat.testBit 63 then ['-'] else []) := by
    split <;> decide
  unfold Style.text
  dsimp only
  generalize (if x.toBits.toNat.testBit 63 then ['-'] else []) = sign at hsign ⊢
  split
  · rfl
  split
  · exact breaks_ofList (unbroken_append hsign (by decide))
  split
  · refine breaks_ofList (unbroken_append hsign (unbroken_cons rfl ?_))
    split <;> decide
  · refine breaks_ofList (unbroken_append hsign ?_)
    split
    · exact unbroken_positional _ _
    · exact unbroken_scientific _

/-! ## Quoted text -/

/-- A line break has no glyph of its own. -/
theorem isPrintable_of_isLineBreak {c : Char} (h : isLineBreak c = true) :
    isPrintable c = false := by
  have hnone : lineBreaks.all (!isPrintable ·) := by decide +kernel
  simpa using List.all_eq_true.1 hnone c (of_decide_eq_true h)

/-- Whatever a character is shown as is unbroken. -/
theorem unbroken_quoteChar (c : Char) : Unbroken (quoteChar c) := by
  unfold quoteChar
  split
  case h_6 =>
    split_ifs with hzero hprintable
    · decide
    · refine unbroken_cons (Bool.eq_false_iff.2 fun hbreak => ?_) nofun
      rw [isPrintable_of_isLineBreak hbreak] at hprintable
      cases hprintable
    · exact unbroken_append (unbroken_append (by decide) (unbroken_toDigits 16 _)) (by decide)
  all_goals decide

/-- **A quoted text is shown in one line.** -/
theorem breaks_quoted (s : String) : breaks (quoted s) = [] := by
  apply breaks_ofList
  refine unbroken_append (unbroken_cons rfl ?_) (by decide)
  intro d hd
  obtain ⟨c, -, hc⟩ := List.mem_flatMap.1 hd
  exact unbroken_quoteChar c d hc

end PostingTerminal.Text
