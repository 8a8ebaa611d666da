import Mathlib.Data.List.Nodup
import PostingTerminal.Proofs.Json.Grammar

/-!
# Reading lists and objects of any form

A record reads what it knows of an object and passes over the rest.

* `list_reads_isList` — a list is read from every text of it, if its items are read.
* `valuesOf` — the texts of the values that an object has under a key.
* `record_reads_isObject` — **a record is read from an object that may have more members than it
  knows**, whatever their values, if every member that it knows is there at most once.
* `foldl_put`, `foldl_decidedBy` — a part of a record, or all of it, that one key alone decides is
  what that key makes of it.
-/

namespace PostingTerminal.Json

/-! ## Lists -/

/-- The next item stands behind what separates it from those before. -/
theorem nextItem_separator {first : Bool} {separator text : List Char}
    (hseparator : Separates first separator) (ht : IsItem text) (rest : List Char) :
    nextItem first (separator ++ (text ++ rest)) = .ok (true, text ++ rest) := by
  obtain ⟨c, cs, rfl, hc, hend⟩ := ht
  have hskip {gap : List Char} (hgap : IsGap gap) :
      skipSpace (gap ++ (c :: cs ++ rest)) = c :: (cs ++ rest) :=
    skipSpace_append_cons hgap hc (cs ++ rest)
  cases first with
  | true =>
    unfold nextItem
    rw [hskip hseparator]
    split
    · next heq => cases heq
    · next heq => exact absurd (List.cons.inj heq).1 hend
    · next heq => simp [← heq]
  | false =>
    obtain ⟨before, behind, hbefore, hbehind, rfl⟩ := hseparator
    rw [List.append_assoc, List.cons_append]
    unfold nextItem
    rw [skipSpace_append_cons hbefore (by decide)]
    split
    · next heq => cases heq
    · next heq => exact absurd (List.cons.inj heq).1 (by decide)
    · next heq =>
      obtain ⟨rfl, rfl⟩ := List.cons.inj heq
      simp only [Bool.false_eq_true, if_false, if_true, hskip hbehind]
      split
      · next heq => cases heq
      · next heq => exact absurd (List.cons.inj heq).1 hend
      · rfl

/-- The closing bracket ends the list. -/
theorem nextItem_close {outer : List Char} (hout : IsGap outer) (first : Bool)
    (rest : List Char) : nextItem first (outer ++ ']' :: rest) = .ok (false, rest) := by
  unfold nextItem
  rw [skipSpace_append_cons hout (by decide)]
  rfl

section lists

variable {α : Type} {d : Decoder α}

/-- The items of a list are read up to its end. -/
theorem scanItems_row {first : Bool} {text : List Char} {as : List α}
    (h : Row (fun t a => IsItem t ∧ d.Reads t a) ']' first text as) {bound steps : Nat}
    (hbound : text.length ≤ bound) (hsteps : text.length ≤ steps) (rest : List Char) :
    scanItems (d.scan bound) steps first (text ++ rest) = .ok (as, rest) := by
  induction h generalizing steps with
  | close hgap =>
    simp only [List.length_append, List.length_singleton] at hsteps
    obtain ⟨steps, rfl⟩ : ∃ n, steps = n + 1 := ⟨steps - 1, by omega⟩
    rw [List.append_assoc, List.singleton_append, scanItems, nextItem_close hgap]
  | @item first separator text more _ _ hseparator ht hmore ih =>
    obtain ⟨hitem, hreads⟩ := ht
    have hlength : 0 < text.length := List.length_pos_iff.2 hitem.ne_nil
    simp only [List.length_append] at hbound hsteps
    obtain ⟨steps, rfl⟩ : ∃ n, steps = n + 1 := ⟨steps - 1, by omega⟩
    have hread := hreads bound [] (more ++ rest) (by omega) isGap_nil
      (hmore.endsNumber (.inl rfl) rest)
    rw [List.nil_append] at hread
    rw [List.append_assoc, List.append_assoc, scanItems, nextItem_separator hseparator hitem]
    simp only [hread, ih (show more.length ≤ bound by omega) (show more.length ≤ steps by omega)]

/-- **A list is read from every text of a list** whose items are read. -/
theorem list_reads_isList {Item : List Char → α → Prop} {text : List Char} {as : List α}
    (h : IsList Item text as) (hitem : ∀ t, ∀ a ∈ as, Item t a → IsItem t ∧ d.Reads t a) :
    (Decoder.list d).Reads text as := by
  obtain ⟨body, rfl, hrow⟩ := h
  have hrow : Row (fun t a => IsItem t ∧ d.Reads t a) ']' true body (as.map id) := hrow.map hitem
  rw [List.map_id] at hrow
  intro bound gap rest hbound hgap _
  rw [List.length_cons] at hbound
  simp only [Decoder.list, List.cons_append, skipSpace_append_cons hgap (c := '[') rfl]
  exact scanItems_row hrow (by omega) (by omega) rest

end lists

/-! ## Records -/

/-- The next key stands behind what separates it from the members before. -/
theorem nextKey_separator {first : Bool} {separator text : List Char} {key : String}
    (hseparator : Separates first separator) (ht : Quotes text key) (rest : List Char) :
    nextKey first (separator ++ (text ++ rest)) = .ok (some key, rest) := by
  obtain ⟨inner, hinner, rfl⟩ := ht
  have hskip {gap : List Char} (hgap : IsGap gap) :
      skipSpace (gap ++ '"' :: (inner ++ '"' :: rest)) = '"' :: (inner ++ '"' :: rest) :=
    skipSpace_append_cons hgap (by decide) _
  rw [List.cons_append, List.append_assoc, List.singleton_append]
  cases first with
  | true =>
    unfold nextKey
    rw [hskip hseparator]
    simp [scanString_spelling hinner]
  | false =>
    obtain ⟨before, behind, hbefore, hbehind, rfl⟩ := hseparator
    rw [List.append_assoc, List.cons_append]
    unfold nextKey
    rw [skipSpace_append_cons hbefore (by decide)]
    simp [hskip hbehind, scanString_spelling hinner]

/-- The colon after a key may stand behind a gap. -/
theorem scanColon_colon {gap : List Char} (hg : IsGap gap) (rest : List Char) :
    scanColon (gap ++ ':' :: rest) = .ok rest := by
  unfold scanColon
  rw [skipSpace_append_cons hg (by decide)]
  rfl

/-- The closing bracket ends the object. -/
theorem nextKey_close {outer : List Char} (hout : IsGap outer) (first : Bool)
    (rest : List Char) : nextKey first (outer ++ '}' :: rest) = .ok (none, rest) := by
  unfold nextKey
  rw [skipSpace_append_cons hout (by decide)]
  rfl

/-- The texts of the values that an object has under a key. -/
def valuesOf (key : String) (members : List (String × List Char)) : List (List Char) :=
  (members.filter (·.1 == key)).map (·.2)

/-- The first member comes first among those of its key. -/
theorem valuesOf_cons (key : String) (m : String × List Char)
    (members : List (String × List Char)) :
    valuesOf key (m :: members)
      = if m.1 = key then m.2 :: valuesOf key members else valuesOf key members := by
  by_cases h : m.1 = key <;> simp [valuesOf, h]

/-- The values of a key are those of the members that have it. -/
theorem mem_valuesOf {key : String} {members : List (String × List Char)} {value : List Char} :
    value ∈ valuesOf key members ↔ (key, value) ∈ members := by
  simp [valuesOf]

/-- A key has as many values as members have it. -/
theorem length_valuesOf (key : String) (members : List (String × List Char)) :
    (valuesOf key members).length = (members.map (·.1)).count key := by
  rw [valuesOf, List.length_map, List.count, List.countP_map, List.countP_eq_length_filter]
  rfl

/-- The texts of the values under a key are those of the members with the key. -/
theorem valuesOf_map (key : String) (members : List (String × Value)) (text : Value → List Char) :
    valuesOf key (members.map fun m => (m.1, text m.2))
      = (members.filter (·.1 == key)).map fun m => text m.2 := by
  rw [valuesOf, List.filter_map, List.map_map]
  rfl

/-- An object whose values under a key are not none has the key. -/
theorem key_mem_of_valuesOf {key : String} {members : List (String × List Char)}
    (h : valuesOf key members ≠ []) : key ∈ members.map (·.1) := by
  obtain ⟨value, hvalue⟩ := List.exists_mem_of_ne_nil _ h
  exact List.mem_map_of_mem (mem_valuesOf.1 hvalue)

section records

variable {α : Type} {r : Record α}

/-- **What a record takes from a member**: what it reads, if it knows the key, and nothing from any
other value. -/
inductive Takes (r : Record α) (key : String) (value : List Char) : (α → α) → Prop
  | known {m : Member α} {put : α → α} (hfind : r.members.find? (·.key == key) = some m)
      (h : m.decode.Reads value put) : Takes r key value put
  | unknown (hfind : r.members.find? (·.key == key) = none) (h : IsJson value) :
      Takes r key value id

/-- Whether a record knows a key. -/
def Record.knows (r : Record α) (key : String) : Bool :=
  (r.members.find? (·.key == key)).isSome

/-- The keys that a record knows are those of its members. -/
theorem Record.knows_iff {key : String} : r.knows key = true ↔ ∃ m ∈ r.members, m.key = key := by
  simp only [Record.knows, List.find?_isSome, beq_iff_eq]

/-- A member of an object, by its key and by what the record takes from it. -/
def Taken (r : Record α) (text : List Char) (taken : String × (α → α)) : Prop :=
  ∃ value, IsMember text (taken.1, value) ∧ Takes r taken.1 value taken.2

/-- A member is read, or passed over, and reading goes on behind it. -/
theorem scanMembers_takes {key : String} {value : List Char} {put : α → α}
    (htakes : Takes r key value put) {bound : Nat} (hbound : value.length ≤ bound)
    {first : Bool} {seen : List String} (hseen : r.knows key = true → key ∉ seen)
    {gap more cs afterKey : List Char} (hgap : IsGap gap) (hmore : EndsNumber more)
    (hkey : nextKey first cs = .ok (some key, afterKey))
    (hafter : scanColon afterKey = .ok (gap ++ (value ++ more))) (steps : Nat) (a : α) :
    r.scanMembers bound (steps + 1) first seen a cs
      = r.scanMembers bound steps false ([key].filter r.knows ++ seen) (put a) more := by
  cases htakes with
  | known hfind h =>
    have hknows : r.knows key = true := by rw [Record.knows, hfind]; rfl
    have hread := h bound gap more hbound hgap hmore
    simp [Record.scanMembers, hkey, hfind, hseen hknows, hafter, hread, hknows]
  | unknown hfind h =>
    have hknows : r.knows key = false := by rw [Record.knows, hfind]; rfl
    have hskip := skipValue_isJson h hbound hgap hmore
    simp [Record.scanMembers, hkey, hfind, hafter, hskip, hknows]

/-- No member is missing once every one that must be present has been seen. -/
theorem missing_eq_none {seen : List String}
    (h : ∀ m ∈ r.members, m.mayBeAbsent = false → m.key ∈ seen) : r.missing seen = none := by
  simp only [Record.missing, Option.map_eq_none_iff, List.find?_eq_none]
  intro m hm
  cases habsent : m.mayBeAbsent with
  | true => simp
  | false => simp [h m hm habsent]

/-- What the members of an object make of a record. -/
def putTaken (taken : List (String × (α → α))) (a : α) : α := taken.foldl (fun a e => e.2 a) a

/-- **The members of an object are read or passed over up to its end**, by induction on those that
are left. -/
theorem scanMembers_row {first : Bool} {text : List Char} {taken : List (String × (α → α))}
    (h : Row (Taken r) '}' first text taken) {seen : List String}
    (hnodup : ((taken.map (·.1)).filter r.knows ++ seen).Nodup)
    (hall : ∀ m ∈ r.members, m.mayBeAbsent = false → m.key ∈ seen ∨ m.key ∈ taken.map (·.1))
    {bound steps : Nat} (hbound : text.length ≤ bound) (hsteps : text.length ≤ steps) (a : α)
    (rest : List Char) :
    r.scanMembers bound steps first seen a (text ++ rest) = .ok (putTaken taken a, rest) := by
  induction h generalizing steps seen a with
  | close hgap =>
    simp only [List.length_append, List.length_singleton] at hsteps
    obtain ⟨steps, rfl⟩ : ∃ n, steps = n + 1 := ⟨steps - 1, by omega⟩
    have hmissing : r.missing seen = none :=
      missing_eq_none fun m hm habsent => by simpa using hall m hm habsent
    rw [List.append_assoc, List.singleton_append, Record.scanMembers, nextKey_close hgap]
    simp only [hmissing]
    rfl
  | @item first separator text more e taken hseparator ht hmore ih =>
    obtain ⟨key, put⟩ := e
    obtain ⟨value, ⟨keyText, before, behind, hkey, hbefore, hbehind, rfl⟩, htakes⟩ := ht
    simp only [List.length_append, List.length_cons] at hbound hsteps
    obtain ⟨steps, rfl⟩ : ∃ n, steps = n + 1 := ⟨steps - 1, by omega⟩
    have hfresh : r.knows key = true → key ∉ seen := by
      intro hknows hmem
      simp [hknows, hmem] at hnodup
    have hread := scanMembers_takes htakes (show value.length ≤ bound by omega) hfresh hbehind
      (hmore.endsNumber (.inr rfl) rest) (nextKey_separator hseparator hkey _)
      (scanColon_colon hbefore _) steps a
    simp only [List.append_assoc, List.cons_append] at hread ⊢
    rw [hread]
    apply ih _ _ (by omega) (by omega)
    · cases hknows : r.knows key with
      | true =>
        simp only [List.map_cons, List.filter_cons_of_pos hknows, List.filter_nil,
          List.cons_append, List.nil_append] at hnodup ⊢
        exact List.nodup_middle.2 hnodup
      | false => simpa [hknows] using hnodup
    · intro m hm habsent
      rw [List.mem_append]
      rcases hall m hm habsent with hseen | hkeys
      · exact .inl (.inr hseen)
      · rcases List.mem_cons.1 hkeys with hmkey | hkeys
        · refine .inl (.inl (List.mem_filter.2 ⟨List.mem_singleton.2 hmkey, ?_⟩))
          exact Record.knows_iff.2 ⟨m, hm, rfl⟩
        · exact .inr hkeys

/-- **A record is read from an object of members that it takes**, if no key that it knows is there
twice and every one that must be there is. -/
theorem record_reads_row {body : List Char} {taken : List (String × (α → α))}
    (h : Row (Taken r) '}' true body taken) (hnodup : ((taken.map (·.1)).filter r.knows).Nodup)
    (hall : ∀ m ∈ r.members, m.mayBeAbsent = false → m.key ∈ taken.map (·.1)) :
    r.decoder.Reads ('{' :: body) (putTaken taken r.blank) := by
  intro bound gap rest hbound hgap _
  rw [List.length_cons] at hbound
  simp only [Record.decoder, List.cons_append, skipSpace_append_cons hgap (c := '{') rfl]
  apply scanMembers_row h _ _ (by omega) (by omega)
  · rwa [List.append_nil]
  · exact fun m hm hmust => .inr (hall m hm hmust)

/-- What an object supplies for a member of a record: one value that is read, or none where there
need not be one. -/
inductive Supplies (members : List (String × List Char)) (m : Member α) : (α → α) → Prop
  | once {value : List Char} {put : α → α} (h : valuesOf m.key members = [value])
      (hread : m.decode.Reads value put) : Supplies members m put
  | absent {put : α → α} (h : valuesOf m.key members = []) (hmay : m.mayBeAbsent = true) :
      Supplies members m put

section supplies

variable {members : List (String × List Char)} {m : Member α} {put : α → α}

/-- A value that is supplied for a member is read as it puts. -/
theorem Supplies.reads (h : Supplies members m put) {value : List Char}
    (hvalue : value ∈ valuesOf m.key members) : m.decode.Reads value put := by
  cases h with
  | once heq hread =>
    rw [heq, List.mem_singleton] at hvalue
    rwa [hvalue]
  | absent heq _ =>
    rw [heq] at hvalue
    cases hvalue

/-- No member is supplied twice. -/
theorem Supplies.length_le (h : Supplies members m put) :
    (valuesOf m.key members).length ≤ 1 := by
  cases h with
  | once heq _ => rw [heq]; exact Nat.le_refl 1
  | absent heq _ => rw [heq]; exact Nat.zero_le 1

/-- A member that may not be absent is supplied. -/
theorem Supplies.ne_nil (h : Supplies members m put) (hmust : m.mayBeAbsent = false) :
    valuesOf m.key members ≠ [] := by
  cases h with
  | once heq _ => rw [heq]; exact List.cons_ne_nil _ _
  | absent _ hmay =>
    rw [hmust] at hmay
    cases hmay

/-- A member that must be present is supplied by its value. -/
theorem supplies_required {β : Type} {key : String} {d : Decoder β} {value : List Char} {b : β}
    {f : β → α → α} (h : valuesOf key members = [value]) (hread : d.Reads value b) :
    Supplies members (.required key d f) (f b) :=
  .once h (hread.map f)

/-- So is a member that has a default. -/
theorem supplies_defaulted {β : Type} {key : String} {d : Decoder β} {value : List Char} {b : β}
    {f : β → α → α} (h : valuesOf key members = [value]) (hread : d.Reads value b) :
    Supplies members (.defaulted key d f) (f b) :=
  .once h (hread.map f)

/-- No key that the record knows is there twice. -/
theorem nodup_known (h : ∀ m ∈ r.members, (valuesOf m.key members).length ≤ 1) :
    ((members.map (·.1)).filter r.knows).Nodup := by
  rw [List.nodup_iff_count_le_one]
  intro key
  by_cases hknows : r.knows key = true
  · obtain ⟨m, hm, rfl⟩ := Record.knows_iff.1 hknows
    have hlength := h m hm
    rw [length_valuesOf] at hlength
    exact Nat.le_trans (List.filter_sublist.count_le m.key) hlength
  · rw [List.count_eq_zero_of_not_mem]
    · exact Nat.zero_le 1
    · exact fun hmem => hknows (List.mem_filter.1 hmem).2

end supplies

/-- **A record is read from an object that may have more members than it knows**, if the object
supplies what the record knows.  The blank becomes what the values make of it; a value under any
other key is passed over, whatever it is. -/
theorem record_reads_isObject {text : List Char} {members : List (String × List Char)}
    (h : IsObject text members) {put : String → α → α}
    (hsupplies : ∀ m ∈ r.members, Supplies members m (put m.key))
    (hothers : ∀ m ∈ members, m.1 ∉ r.members.map (·.key) → IsJson m.2 ∧ put m.1 = id) :
    r.decoder.Reads text (members.foldl (fun a m => put m.1 a) r.blank) := by
  obtain ⟨body, rfl, hrow⟩ := h
  have htaken : Row (Taken r) '}' true body (members.map fun m => (m.1, put m.1)) := by
    apply hrow.map
    intro t m hm hmember
    refine ⟨m.2, hmember, ?_⟩
    cases hfind : r.members.find? (·.key == m.1) with
    | none =>
      have hunknown : m.1 ∉ r.members.map (·.key) := by
        intro hmem
        obtain ⟨known, hknown, hkey⟩ := List.mem_map.1 hmem
        exact List.find?_eq_none.1 hfind known hknown (beq_iff_eq.2 hkey)
      obtain ⟨hjson, hput⟩ := hothers m hm hunknown
      rw [hput]
      exact .unknown hfind hjson
    | some known =>
      have hkey : known.key = m.1 := by simpa using List.find?_some hfind
      apply Takes.known hfind
      rw [← hkey]
      apply (hsupplies known (List.mem_of_find?_eq_some hfind)).reads
      rw [mem_valuesOf, hkey]
      exact hm
  have hkeys : (members.map fun m => (m.1, put m.1)).map (·.1) = members.map (·.1) := by
    rw [List.map_map]
    rfl
  have hread := record_reads_row htaken
    (by rw [hkeys]; exact nodup_known fun m hm => (hsupplies m hm).length_le)
    (by
      intro m hm hmust
      rw [hkeys]
      exact key_mem_of_valuesOf ((hsupplies m hm).ne_nil hmust))
  rwa [putTaken, List.foldl_map] at hread

end records

/-- A part of a record that one key alone decides is what that key makes of it. -/
theorem foldl_put {α β : Type} {part : α → β} {key : String} {b : β} {put : String → α → α}
    (hput : ∀ k a, part (put k a) = if k = key then b else part a)
    (members : List (String × List Char)) (a : α) :
    part (members.foldl (fun a m => put m.1 a) a)
      = if valuesOf key members = [] then part a else b := by
  induction members generalizing a with
  | nil => rfl
  | cons m members ih =>
    rw [List.foldl_cons, ih, hput, valuesOf_cons]
    by_cases hkey : m.1 = key
    · simp [hkey]
    · simp [hkey]

/-- What a value under a key makes of a record that one key alone decides. -/
def decidedBy {α : Type} (key : String) (a : α) (k : String) : α → α :=
  if k = key then fun _ => a else id

/-- Under its own key the value decides. -/
theorem decidedBy_self {α : Type} (key : String) (a : α) : decidedBy key a key = fun _ => a :=
  if_pos rfl

/-- Under any other key nothing changes. -/
theorem decidedBy_ne {α : Type} {key k : String} (a : α) (h : k ≠ key) :
    decidedBy key a k = id :=
  if_neg h

/-- Such a record is what its key makes of it. -/
theorem foldl_decidedBy {α : Type} {key : String} {a : α} {members : List (String × List Char)}
    {value : List Char} (h : valuesOf key members = [value]) (b : α) :
    members.foldl (fun b m => decidedBy key a m.1 b) b = a := by
  have hput (k : String) (b : α) :
      id (decidedBy key a k b) = if k = key then a else id b := by
    unfold decidedBy
    split_ifs <;> rfl
  have hresult := foldl_put hput members b
  rwa [h, if_neg (List.cons_ne_nil _ _)] at hresult

end PostingTerminal.Json
