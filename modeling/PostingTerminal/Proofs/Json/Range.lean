import PostingTerminal.Json.Decoder

/-!
# What decoders can give

A value that has been read off a text is one that the text can spell, and not every value of its
type is.

* `Decoder.Gives` — whatever a decoder reads has a property.
* `natural_gives` — **a whole number that is read fits into 64 bits**.  One with more digits is
  read as a double, and so is one with a point or an exponent.
* `Record.gives` — **a record that is read** has every property that its blank has and that
  putting in a member keeps.
-/

namespace PostingTerminal.Json

variable {α β : Type}

/-- Whatever is read off the front of a text has a property. -/
def Scan.Gives (scan : Scan α) (P : α → Prop) : Prop := ∀ a rest, scan = .ok (a, rest) → P a

/-- Whatever a decoder reads off a text has a property. -/
def Decoder.Gives (d : Decoder α) (P : α → Prop) : Prop := ∀ bound cs, (d.scan bound cs).Gives P

/-- Whatever is read has the property that everything has. -/
theorem Decoder.gives_true (d : Decoder α) : d.Gives fun _ => True := fun _ _ _ _ _ => trivial

/-! ## Numbers -/

/-- A number is no whole number of more than 64 bits. -/
def Number.InRange (n : Number) : Prop := ∀ i, n = .int i → i ≤ maxWord

/-- A float is in range. -/
theorem Number.inRange_float (x : Float) : (Number.float x).InRange := nofun

/-- The digits of the whole part that are kept fit into 64 bits. -/
theorem Significand.wholeDigits_le {s : Significand} (h : s.value ≤ maxWord) (ds : List Char) :
    (s.wholeDigits ds).value ≤ maxWord := by
  induction ds generalizing s with
  | nil => exact h
  | cons d ds ih =>
    rw [Significand.wholeDigits]
    split
    · next hnext => exact ih hnext
    · exact h

/-- A float that digits are turned into is in range. -/
theorem Significand.toFloat_gives (s : Significand) (negative : Bool) (cs : List Char) :
    (s.toFloat negative cs).Gives Number.InRange := by
  intro n rest h
  unfold Significand.toFloat at h
  split at h
  · cases h
  · cases h
    exact Number.inRange_float _

/-- A number with an exponent is in range, read from its digits on. -/
theorem scanExponentDigits_gives (s : Significand) (negative below : Bool) (exponent : Nat)
    (cs : List Char) : (scanExponentDigits s negative below exponent cs).Gives Number.InRange := by
  fun_induction scanExponentDigits s negative below exponent cs with
  | case1 => exact Significand.toFloat_gives _ _ _
  | case2 => exact nofun
  | case3 =>
    rintro n rest ⟨⟩
    exact Number.inRange_float _
  | case4 _ d more hd _ _ ih => exact ih
  | case5 => exact Significand.toFloat_gives _ _ _

/-- A number with an exponent is in range, read from its letter on. -/
theorem scanExponent_gives (s : Significand) (negative : Bool) (cs : List Char) :
    (scanExponent s negative cs).Gives Number.InRange := by
  unfold scanExponent
  intro n rest h
  split at h
  split at h
  · cases h
  · split at h
    · exact scanExponentDigits_gives _ _ _ _ _ n rest h
    · cases h

/-- A number with a fraction is in range, read from the end of its digits on. -/
theorem scanAfterDigits_gives (s : Significand) (negative : Bool) (cs : List Char) :
    (scanAfterDigits s negative cs).Gives Number.InRange := by
  unfold scanAfterDigits
  split
  · exact scanExponent_gives _ _ _
  · exact scanExponent_gives _ _ _
  · exact Significand.toFloat_gives _ _ _

/-- A whole number with its sign is not larger than without. -/
theorem wholeNumber_inRange (negative : Bool) {n : Nat} (hn : n ≤ maxWord) :
    (wholeNumber negative n).InRange := by
  intro i h
  unfold wholeNumber at h
  split at h
  · cases h
    exact Int.ofNat_le.2 hn
  · split at h
    · cases h
    · cases h
      omega

/-- A number is in range that is read from the end of its whole part on. -/
theorem scanAfterWhole_gives {s : Significand} (hs : s.value ≤ maxWord) (negative : Bool)
    (cs : List Char) : (scanAfterWhole s negative cs).Gives Number.InRange := by
  unfold scanAfterWhole
  split
  · split
    · exact scanAfterDigits_gives _ _ _
    · split <;> exact nofun
  · exact scanExponent_gives _ _ _
  · exact scanExponent_gives _ _ _
  · split
    · rintro n rest ⟨⟩
      exact wholeNumber_inRange negative hs
    · exact Significand.toFloat_gives _ _ _

/-- **Every number that is read is in range.** -/
theorem scanNumber_gives (negative : Bool) (cs : List Char) :
    (scanNumber negative cs).Gives Number.InRange := by
  intro n rest h
  unfold scanNumber at h
  split at h
  · cases h
  · split at h
    · split at h
      · cases h
      · exact scanAfterWhole_gives (Nat.zero_le _) _ _ n rest h
    · split at h
      · exact scanAfterWhole_gives (Significand.wholeDigits_le (Nat.zero_le _) _) _ _ n rest h
      · cases h

/-- A number in range that is a whole number from zero on fits into 64 bits. -/
theorem naturalOf_le {expected : String} {number : Number} {n : Nat} (hrange : number.InRange)
    (h : Decoder.naturalOf expected number = .ok n) : n ≤ maxWord := by
  unfold Decoder.naturalOf at h
  split at h
  · next i =>
    split at h
    · cases h
      exact Int.toNat_le.2 (hrange i rfl)
    · cases h
  · cases h

/-- **A whole number that is read fits into 64 bits.** -/
theorem natural_gives (expected : String) : (Decoder.natural expected).Gives (· ≤ maxWord) := by
  intro bound cs n rest h
  simp only [Decoder.natural] at h
  split at h
  -- The number has a sign.
  · split at h
    · cases h
    · next number more hscan =>
      split at h
      · cases h
      · next m hnatural =>
        cases h
        exact naturalOf_le (scanNumber_gives _ _ _ _ hscan) hnatural
  -- It has none, or there is no number.
  · split at h
    · split at h
      · cases h
      · next number more hscan =>
        split at h
        · cases h
        · next m hnatural =>
          cases h
          exact naturalOf_le (scanNumber_gives _ _ _ _ hscan) hnatural
    · cases h

/-! ## Members and records -/

/-- What a function makes of what is read. -/
theorem Decoder.Gives.map {d : Decoder α} {P : α → Prop} (h : d.Gives P) (f : α → β)
    {Q : β → Prop} (hf : ∀ a, P a → Q (f a)) : (d.map f).Gives Q := by
  intro bound cs b rest hscan
  simp only [Decoder.map] at hscan
  split at hscan
  · cases hscan
  · next a more hread =>
    cases hscan
    exact hf a (h bound cs a _ hread)

section records

variable {r : Record α} {P : α → Prop}

/-- Putting in a member that has been read keeps a property. -/
def Member.Keeps (m : Member α) (P : α → Prop) : Prop :=
  m.decode.Gives fun put => ∀ a, P a → P (put a)

/-- Members that keep a property give a record that has it. -/
theorem Record.scanMembers_gives (hr : ∀ m ∈ r.members, m.Keeps P) {bound steps : Nat}
    {first : Bool} {seen : List String} {a : α} {cs : List Char} (ha : P a) :
    (r.scanMembers bound steps first seen a cs).Gives P := by
  intro b rest h
  induction steps generalizing first seen a cs with
  | zero => cases h
  | succ steps ih =>
    -- There is no next key, one that no member has, or that of a member.
    rw [Record.scanMembers] at h
    split at h
    · cases h
    · split at h
      · cases h
      · cases h
        exact ha
    · split at h
      · split at h
        · cases h
        · split at h
          · cases h
          · exact ih ha h
      · next m hfind =>
        split at h
        · cases h
        · split at h
          · cases h
          · split at h
            · cases h
            · next put behind hvalue =>
              have hm : m.Keeps P := hr m (List.mem_of_find?_eq_some hfind)
              exact ih (hm _ _ put behind hvalue a ha) h

/-- Members that keep a property give a record that has it, read from a list. -/
theorem Record.scanInOrder_gives {bound : Nat} {members : List (Member α)}
    (hm : ∀ m ∈ members, m.Keeps P) {index : Nat} {a : α} {cs : List Char} (ha : P a) :
    (r.scanInOrder bound members index a cs).Gives P := by
  intro b rest h
  induction members generalizing index a cs with
  | nil =>
    unfold Record.scanInOrder Record.scanListEnd at h
    split at h
    · cases h
    · cases h
      exact ha
    · split at h <;> cases h
    · cases h
  | cons m members ih =>
    rw [Record.scanInOrder] at h
    split at h
    · cases h
    · split at h
      · cases h
      · cases h
        exact ha
    · split at h
      · cases h
      · next put behind hvalue =>
        have hput := hm m List.mem_cons_self _ _ put behind hvalue a ha
        exact ih (fun x hx => hm x (List.mem_cons_of_mem m hx)) hput h

/-- **A record that is read** has every property that its blank has and that members keep. -/
theorem Record.gives (hblank : P r.blank) (hr : ∀ m ∈ r.members, m.Keeps P) :
    r.decoder.Gives P := by
  intro bound cs a rest h
  simp only [Record.decoder] at h
  split at h
  · exact Record.scanMembers_gives hr hblank a rest h
  · exact Record.scanInOrder_gives hr hblank a rest h
  · cases h

end records

/-- A text that decodes gives what its decoder can give. -/
theorem Decoder.Gives.fromText {d : Decoder α} {P : α → Prop} (h : d.Gives P) {text : String}
    {a : α} (hread : d.fromText text = .ok a) : P a := by
  unfold Decoder.fromText Decoder.scanAll at hread
  split at hread
  · cases hread
  · next b hscan =>
    cases hread
    split at hscan
    · cases hscan
    · next b rest hb =>
      split at hscan
      · cases hscan
        exact h _ _ a rest hb
      · cases hscan

end PostingTerminal.Json
