import PostingTerminal.Proofs.Json.Objects

/-!
# Lists and records in any layout

A list or an object is written as texts between brackets, with commas between them and gaps
around them; `enclosed` is that form.

* `list_reads` — a list is read from the texts of its items, whatever the gaps.
* `record_reads` — a record is read from the texts of its members, in whatever order they
  stand, if every member that must be present is there and none is there twice.  What is read
  is the blank with the members put in (`Entry.putAll`).
* `Layout` — a way to write values whose lists and objects have this form, so that they are texts
  of the grammar (`Layout.isList`, `Layout.isObject`).  The compact and
  the pretty text are the two layouts of the library (`Layout.compact`, `Layout.pretty`), so a
  statement about every layout is a statement about both.
-/

namespace PostingTerminal.Json

/-! ## Texts between brackets -/

/-- Texts up to the closing bracket: commas before all but the first, a gap before each and
another gap before a bracket that follows a text. -/
def enclosedFrom (closer : Char) (inner outer : List Char) :
    (first : Bool) → List (List Char) → List Char
  | first, [] => (if first then [] else outer) ++ [closer]
  | first, t :: ts =>
    (if first then [] else [',']) ++ (inner ++ (t ++ enclosedFrom closer inner outer false ts))

/-- Texts between brackets. -/
def enclosed (opener closer : Char) (inner outer : List Char) (ts : List (List Char)) :
    List Char :=
  opener :: enclosedFrom closer inner outer true ts

/-- Texts between brackets are a row of what they are texts of. -/
theorem row_enclosedFrom {α : Type} {Item : List Char → α → Prop} {closer : Char}
    {inner outer : List Char} (hin : IsGap inner) (hout : IsGap outer) {text : α → List Char}
    {as : List α} (h : ∀ a ∈ as, Item (text a) a) (first : Bool) :
    Row Item closer first (enclosedFrom closer inner outer first (as.map text)) as := by
  induction as generalizing first with
  | nil =>
    apply Row.close
    cases first with
    | true => exact isGap_nil
    | false => exact hout
  | cons a as ih =>
    have hmore := ih (fun b hb => h b (List.mem_cons_of_mem a hb)) false
    have ha := h a List.mem_cons_self
    cases first with
    | true =>
      have hitem := Row.item (show Separates true inner from hin) ha hmore
      exact hitem
    | false =>
      have hitem := Row.item (show Separates false (',' :: inner) from
        ⟨[], inner, isGap_nil, hin, rfl⟩) ha hmore
      exact hitem

/-! ## Lists -/

/-- **A list is read from the texts of its items.** -/
theorem list_reads {α : Type} {d : Decoder α} {inner outer : List Char} (hin : IsGap inner)
    (hout : IsGap outer) (items : List (List Char × α))
    (hitems : ∀ p ∈ items, IsItem p.1 ∧ d.Reads p.1 p.2) :
    (Decoder.list d).Reads (enclosed '[' ']' inner outer (items.map (·.1)))
      (items.map (·.2)) := by
  have hrow : Row (fun t a => IsItem t ∧ d.Reads t a) ']' true
      (enclosedFrom ']' inner outer true (items.map (·.1))) (items.map (·.2)) :=
    (row_enclosedFrom hin hout hitems true).map fun _ _ _ h => h
  exact list_reads_isList ⟨_, rfl, hrow⟩ fun _ _ _ h => h

/-! ## Records -/

/-- A member of an object: its key, a colon, a gap and the text of its value. -/
def memberText (colon : List Char) (key : String) (text : List Char) : List Char :=
  printString key ++ ':' :: (colon ++ text)

/-- A member that a record knows, with a text of its value and what is read from it. -/
structure Entry {α : Type} (r : Record α) where
  key : String
  text : List Char
  put : α → α
  member : Member α
  found : r.members.find? (·.key == key) = some member
  reads : member.decode.Reads text put

namespace Entry

variable {α : Type} {r : Record α}

/-- What a record becomes when members are put into it in turn. -/
def putAll (entries : List (Entry r)) (a : α) : α := entries.foldl (fun a e => e.put a) a

/-- The texts of members as they stand in an object. -/
def texts (colon : List Char) (entries : List (Entry r)) : List (List Char) :=
  entries.map fun e => memberText colon e.key e.text

end Entry

section records

variable {α : Type} {r : Record α}

/-- A record takes a member that it knows. -/
theorem Entry.taken (e : Entry r) {text : List Char} (h : IsMember text (e.key, e.text)) :
    Taken r text (e.key, e.put) :=
  ⟨e.text, h, .known e.found e.reads⟩

/-- **A record is read from the texts of its members**, in whatever order they stand, if every
member that must be present is there and none is there twice. -/
theorem record_reads {inner outer colon : List Char} (hin : IsGap inner) (hout : IsGap outer)
    (hcolon : IsGap colon) (entries : List (Entry r)) (hnodup : (entries.map (·.key)).Nodup)
    (hall : ∀ m ∈ r.members, m.mayBeAbsent = false → m.key ∈ entries.map (·.key)) :
    r.decoder.Reads (enclosed '{' '}' inner outer (Entry.texts colon entries))
      (Entry.putAll entries r.blank) := by
  have hentry (e : Entry r) : Taken r (memberText colon e.key e.text) (e.key, e.put) :=
    e.taken ⟨_, [], colon, quotes_printString e.key, isGap_nil, hcolon, rfl⟩
  have hrow : Row (Taken r) '}' true
      (enclosedFrom '}' inner outer true (Entry.texts colon entries))
      (entries.map fun e => (e.key, e.put)) :=
    (row_enclosedFrom hin hout (fun e _ => hentry e) true).map fun _ _ _ h => h
  have hkeys : (entries.map fun e => (e.key, e.put)).map (·.1) = entries.map (·.key) := by
    rw [List.map_map]
    rfl
  have hread := record_reads_row hrow (by rw [hkeys]; exact hnodup.filter _)
    (by rw [hkeys]; exact hall)
  rwa [putTaken, List.foldl_map] at hread

end records

/-! ## Layouts -/

/-- **A layout**: a way to write values in which scalars have one form and lists and objects
are texts between brackets, with gaps that depend on the depth. -/
structure Layout where
  /-- The text of a value at a depth. -/
  text : Nat → Value → List Char
  inner : Nat → List Char
  outer : Nat → List Char
  colon : List Char
  inner_gap : ∀ depth, IsGap (inner depth)
  outer_gap : ∀ depth, IsGap (outer depth)
  colon_gap : IsGap colon
  text_null : ∀ depth, text depth .null = Value.compact .null
  text_bool : ∀ depth b, text depth (.bool b) = Value.compact (.bool b)
  text_number : ∀ depth n, text depth (.number n) = Value.compact (.number n)
  text_string : ∀ depth s, text depth (.string s) = printString s
  text_list : ∀ depth items, text depth (.list items)
    = enclosed '[' ']' (inner depth) (outer depth) (items.map (text (depth + 1)))
  text_object : ∀ depth members, text depth (.object members)
    = enclosed '{' '}' (inner depth) (outer depth)
        (members.map fun m => memberText colon m.1 (text (depth + 1) m.2))

/-- Items in compact form are texts without gaps. -/
theorem compactItems_eq (items : List Value) :
    compactItems items = enclosedFrom ']' [] [] false (items.map Value.compact) := by
  induction items with
  | nil => rfl
  | cons v items ih => simp [compactItems, enclosedFrom, ih]

/-- Members in compact form are texts without gaps. -/
theorem compactMembers_eq (members : List (String × Value)) :
    compactMembers members = enclosedFrom '}' [] [] false
      (members.map fun m => memberText [] m.1 m.2.compact) := by
  induction members with
  | nil => rfl
  | cons m members ih => simp [compactMembers, enclosedFrom, memberText, ih]

/-- Items in pretty form are texts behind indentations. -/
theorem prettyItems_eq (depth : Nat) (items : List Value) :
    prettyItems depth items = enclosedFrom ']' (indentation (depth + 1)) (indentation depth)
      false (items.map (Value.pretty (depth + 1))) := by
  induction items with
  | nil => rfl
  | cons v items ih => simp [prettyItems, enclosedFrom, ih]

/-- Members in pretty form are texts behind indentations. -/
theorem prettyMembers_eq (depth : Nat) (members : List (String × Value)) :
    prettyMembers depth members
      = enclosedFrom '}' (indentation (depth + 1)) (indentation depth) false
          (members.map fun m => memberText [' '] m.1 (m.2.pretty (depth + 1))) := by
  induction members with
  | nil => rfl
  | cons m members ih => simp [prettyMembers, enclosedFrom, memberText, ih]

/-- An indentation is a gap. -/
theorem isGap_indentation (depth : Nat) : IsGap (indentation depth) := by
  intro c hc
  simp only [indentation, List.mem_cons, List.mem_replicate] at hc
  rcases hc with rfl | ⟨-, rfl⟩ <;> rfl

/-- The layout without gaps. -/
def Layout.compact : Layout where
  text _ := Value.compact
  inner _ := []
  outer _ := []
  colon := []
  inner_gap _ := isGap_nil
  outer_gap _ := isGap_nil
  colon_gap := isGap_nil
  text_null _ := rfl
  text_bool _ _ := rfl
  text_number _ _ := rfl
  text_string _ _ := by simp [Value.compact]
  text_list _ items := by
    cases items with
    | nil => simp [Value.compact, enclosed, enclosedFrom]
    | cons v items => simp [Value.compact, enclosed, enclosedFrom, compactItems_eq]
  text_object _ members := by
    cases members with
    | nil => simp [Value.compact, enclosed, enclosedFrom]
    | cons m members =>
      simp [Value.compact, enclosed, enclosedFrom, memberText, compactMembers_eq]

/-- The layout with every item and member on a line of its own. -/
def Layout.pretty : Layout where
  text := Value.pretty
  inner depth := indentation (depth + 1)
  outer := indentation
  colon := [' ']
  inner_gap depth := isGap_indentation (depth + 1)
  outer_gap := isGap_indentation
  colon_gap := by simp [IsGap, isSpace]
  text_null _ := by simp [Value.pretty, Value.compact]
  text_bool _ b := by cases b <;> simp [Value.pretty, Value.compact]
  text_number _ _ := by simp [Value.pretty, Value.compact]
  text_string _ _ := by simp [Value.pretty]
  text_list _ items := by
    cases items with
    | nil => simp [Value.pretty, enclosed, enclosedFrom]
    | cons v items => simp [Value.pretty, enclosed, enclosedFrom, prettyItems_eq]
  text_object _ members := by
    cases members with
    | nil => simp [Value.pretty, enclosed, enclosedFrom]
    | cons m members =>
      simp [Value.pretty, enclosed, enclosedFrom, memberText, prettyMembers_eq]

/-- The text of a string in a layout stands for it. -/
theorem Layout.quotes (l : Layout) (depth : Nat) (s : String) :
    Quotes (l.text depth (.string s)) s := by
  rw [l.text_string]
  exact quotes_printString s

/-- The text of a list in a layout is a text of it. -/
theorem Layout.isList (l : Layout) (depth : Nat) {α : Type} {Item : List Char → α → Prop}
    {toJson : α → Value} {as : List α} (h : ∀ a ∈ as, Item (l.text (depth + 1) (toJson a)) a) :
    IsList Item (l.text depth (.list (as.map toJson))) as := by
  rw [l.text_list, List.map_map]
  exact ⟨_, rfl, row_enclosedFrom (l.inner_gap depth) (l.outer_gap depth) h true⟩

/-- So is the text of an object. -/
theorem Layout.isObject (l : Layout) (depth : Nat) (members : List (String × Value)) :
    IsObject (l.text depth (.object members))
      (members.map fun m => (m.1, l.text (depth + 1) m.2)) := by
  have hmember (m : String × Value) :
      IsMember (memberText l.colon m.1 (l.text (depth + 1) m.2)) (m.1, l.text (depth + 1) m.2) :=
    ⟨_, [], l.colon, quotes_printString m.1, isGap_nil, l.colon_gap, rfl⟩
  rw [l.text_object]
  exact ⟨_, rfl, (row_enclosedFrom (l.inner_gap depth) (l.outer_gap depth)
    (fun m _ => hmember m) true).map fun _ _ _ h => h⟩

end PostingTerminal.Json
