import Mathlib.Algebra.Group.Nat.Defs
import PostingTerminal.Draft.Id
import PostingTerminal.Proofs.CommandLine.Plain

/-!
# What fresh ids look like

* `isFreshShape_ofNumber` — **the id made from any number has the shape of a fresh one**.
* `plain_of_isFreshShape` — the characters of such an id have no meaning in a command line, so
  that it can be written there as it is.
-/

namespace PostingTerminal

/-- The digits of a number are digits. -/
theorem isHexDigit_of_mem {count n : Nat} {c : Char} (h : c ∈ hexDigits count n) :
    isHexDigit c = true := by
  have hdigit : ∀ m < 16, isHexDigit (Nat.digitChar m) = true := by decide
  induction count generalizing n with
  | zero => cases h
  | succ count ih =>
    rw [hexDigits, List.mem_append, List.mem_singleton] at h
    rcases h with h | rfl
    · exact ih h
    · exact hdigit _ (Nat.mod_lt n (by decide))

/-- As many digits are written as are asked for. -/
theorem length_hexDigits (count n : Nat) : (hexDigits count n).length = count := by
  induction count generalizing n with
  | zero => rfl
  | succ count ih => rw [hexDigits, List.length_append, ih]; rfl

/-- The digits at the end of a number. -/
theorem hexDigits_add (count more n : Nat) :
    hexDigits (count + more) n = hexDigits count (n / 16 ^ more) ++ hexDigits more n := by
  induction more generalizing n with
  | zero => simp [hexDigits]
  | succ more ih =>
    rw [← Nat.add_assoc, hexDigits, ih, hexDigits, List.append_assoc, Nat.div_div_eq_div_mul,
      Nat.pow_succ']

/-- One digit of a number, with others behind it. -/
theorem hexDigits_getElem? (before behind n : Nat) :
    (hexDigits (before + 1 + behind) n)[before]?
      = some (Nat.digitChar (n / 16 ^ behind % 16)) := by
  rw [hexDigits_add, List.getElem?_append_left (by rw [length_hexDigits]; omega), hexDigits,
    List.getElem?_append_right (Nat.le_of_eq (length_hexDigits _ _)), length_hexDigits,
    Nat.sub_self]
  rfl

/-- The six bits that are fixed. -/
theorem versioned_bits (n : Nat) :
    versioned n / 16 ^ 19 % 16 = 4 ∧ 8 ≤ versioned n / 16 ^ 15 % 16 ∧
      versioned n / 16 ^ 15 % 16 < 12 := by
  have hlow : n % (1 <<< 62) < 2 ^ 62 := Nat.mod_lt _ (by decide)
  have hmiddle : (n >>> 62) % (1 <<< 12) < 2 ^ 12 := Nat.mod_lt _ (by decide)
  unfold versioned
  simp only [Nat.shiftLeft_eq] at *
  generalize n % (1 * 2 ^ 62) = low at *
  generalize (n >>> 62) % (1 * 2 ^ 12) = middle at *
  generalize (n >>> 74) % (1 * 2 ^ 48) = high at *
  omega

/-- **The id made from a number has the shape of a fresh one.** -/
theorem isFreshShape_ofNumber (n : Nat) : (DraftId.ofNumber n).isFreshShape = true := by
  obtain ⟨hversion, hlower, hupper⟩ := versioned_bits n
  have hword : "draft_".toList.length = 6 := rfl
  have hlength := length_hexDigits 32 (versioned n)
  have hdigits : (hexDigits 32 (versioned n)).all isHexDigit = true :=
    List.all_eq_true.2 fun _ => isHexDigit_of_mem
  have h12 : (hexDigits 32 (versioned n))[12]? = some '4' := by
    rw [hexDigits_getElem? 12 19, hversion]
    rfl
  have hvariant : ∀ m < 12, 8 ≤ m → ['8', '9', 'a', 'b'].contains (Nat.digitChar m) = true := by
    decide
  have h16 := hexDigits_getElem? 16 15 (versioned n)
  have hin := hvariant _ hupper hlower
  unfold DraftId.isFreshShape DraftId.ofNumber
  simp only [String.toList_ofList]
  generalize hexDigits 32 (versioned n) = digits at *
  rw [List.take_left' hword, List.drop_left' hword, List.length_append, hlength, hdigits,
    List.getElem?_append_right (by decide), List.getElem?_append_right (by decide), hword,
    h12, h16, Option.getD_some, hin]
  rfl

/-- A hexadecimal digit is plain. -/
theorem isPlain_of_isHexDigit {c : Char} (h : isHexDigit c = true) :
    CommandLine.isPlain c = true := by
  have hrange : (48 ≤ c.toNat ∧ c.toNat ≤ 57) ∨ (97 ≤ c.toNat ∧ c.toNat ≤ 102) := by
    simp only [isHexDigit, Char.isDigit, Bool.or_eq_true, Bool.and_eq_true, decide_eq_true_eq] at h
    exact h
  have hne (d : Char) (hd : d.toNat < 48 ∨ d.toNat = 92) : c ≠ d := by
    rintro rfl
    omega
  have hblank : Text.isBlank c = false := by
    simp only [Text.isBlank]
    simp
    omega
  simp [CommandLine.isPlain, hblank, CommandLine.isQuote, hne]

/-- How a fresh id is spelled: with the letters of its word and 32 hexadecimal digits. -/
theorem spelling_of_isFreshShape {id : DraftId} (h : id.isFreshShape = true) :
    id.text.toList.length = 38 ∧
      ∀ c ∈ id.text.toList, c ∈ "draft_".toList ∨ isHexDigit c = true := by
  simp only [DraftId.isFreshShape, Bool.and_eq_true, beq_iff_eq] at h
  obtain ⟨⟨⟨⟨hword, hlength⟩, hdigits⟩, -⟩, -⟩ := h
  refine ⟨hlength, fun c hc => ?_⟩
  rw [← List.take_append_drop 6 id.text.toList, hword, List.mem_append] at hc
  exact hc.imp_right (List.all_eq_true.1 hdigits c)

/-- **The characters of a fresh id have no meaning in a command line.** -/
theorem plain_of_isFreshShape {id : DraftId} (h : id.isFreshShape = true) :
    id.text.toList ≠ [] ∧ ∀ c ∈ id.text.toList, CommandLine.isPlain c = true := by
  obtain ⟨hlength, hspelling⟩ := spelling_of_isFreshShape h
  constructor
  · intro hnil
    rw [hnil] at hlength
    cases hlength
  · intro c hc
    have hplain : "draft_".toList.all CommandLine.isPlain = true := by decide
    rcases hspelling c hc with hc | hc
    · exact List.all_eq_true.1 hplain c hc
    · exact isPlain_of_isHexDigit hc

end PostingTerminal
