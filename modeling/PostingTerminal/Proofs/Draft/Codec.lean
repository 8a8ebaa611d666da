import PostingTerminal.Draft.Format
import PostingTerminal.Proofs.Json.Layout

/-!
# A draft is read back from its text

* `segment_reads` — a segment is read from its text in any layout, also where the list of
  media addresses is left out because it is empty.
* `draft_reads` — a draft whose times fit into 64 bits is read from its text in any layout.
* `ofText_layout` — hence so is the whole text, and the one that a store writes
  (`ofText_prettyText`).

A time is a `Nat` here and 64 bits wide in a text, so `Draft.FitsWord` says that both times
of a draft can be written.
-/

namespace PostingTerminal

open Json

/-! ## Values of one type in a layout -/

section layouts

variable (l : Layout) (depth : Nat)

/-- A string is read from its text in a layout. -/
theorem layout_string_reads (s : String) :
    Decoder.string.Reads (l.text depth (.string s)) s := by
  rw [l.text_string]
  exact string_reads s

/-- A string that may be missing is read from its text in a layout. -/
theorem layout_optional_reads (s : Option String) :
    Decoder.string.optional.Reads (l.text depth (Value.ofOption s)) s := by
  cases s with
  | none =>
    simp only [Value.ofOption, l.text_null]
    exact optional_reads_null _
  | some s =>
    simp only [Value.ofOption, l.text_string]
    exact optional_string_reads s

/-- A truth value is read from its text in a layout. -/
theorem layout_flag_reads (b : Bool) : Decoder.flag.Reads (l.text depth (.bool b)) b := by
  rw [l.text_bool]
  exact flag_reads b

/-- A number that fits into 64 bits is read from its text in a layout. -/
theorem layout_natural_reads {n : Nat} (hn : n ≤ maxWord) (expected : String) :
    (Decoder.natural expected).Reads (l.text depth (Value.ofNat n)) n := by
  rw [Value.ofNat, l.text_number]
  exact natural_reads hn expected

/-- A list is read from its text in a layout if its items are. -/
theorem layout_list_reads {β : Type} {d : Decoder β} (toJson : β → Value) (items : List β)
    (h : ∀ b ∈ items, IsItem (l.text (depth + 1) (toJson b)) ∧
      d.Reads (l.text (depth + 1) (toJson b)) b) :
    (Decoder.list d).Reads (l.text depth (.list (items.map toJson))) items := by
  rw [l.text_list]
  have hread := Json.list_reads (d := d) (l.inner_gap depth) (l.outer_gap depth)
    (items.map fun b => (l.text (depth + 1) (toJson b), b)) (by
      intro p hp
      obtain ⟨b, hb, rfl⟩ := List.mem_map.1 hp
      exact h b hb)
  simpa [List.map_map, Function.comp_def] using hread

/-- A list of strings is read from its text in a layout. -/
theorem layout_strings_reads (items : List String) :
    (Decoder.list .string).Reads (l.text depth (Value.ofStrings items)) items := by
  apply layout_list_reads l depth Value.string items
  intro s _
  refine ⟨?_, layout_string_reads l (depth + 1) s⟩
  rw [l.text_string]
  exact ⟨'"', _, rfl, rfl, by decide⟩

/-- An object is an item of a list. -/
theorem isItem_object (members : List (String × Value)) :
    IsItem (l.text depth (.object members)) := by
  rw [l.text_object]
  exact ⟨'{', _, rfl, rfl, by decide⟩

/-- A member of an object in a layout, read by a member of a record. -/
def layoutEntry {α : Type} {r : Record α} (key : String) (v : Value) (m : Member α)
    (put : α → α) (found : r.members.find? (·.key == key) = some m)
    (reads : m.decode.Reads (l.text (depth + 1) v) put) : Entry r :=
  ⟨key, l.text (depth + 1) v, put, m, found, reads⟩

/-- A record is read from an object in a layout, if every member of the object is read by a
member of the record. -/
theorem layout_record_reads {α : Type} {r : Record α} (members : List (String × Value))
    (entries : List (Entry r))
    (hentries : members.map (fun m => memberText l.colon m.1 (l.text (depth + 1) m.2))
      = Entry.texts l.colon entries)
    (keys : List String) (hkeys : entries.map (·.key) = keys) (hnodup : keys.Nodup)
    (hall : r.members.all (fun m => m.mayBeAbsent || keys.contains m.key) = true) :
    r.decoder.Reads (l.text depth (.object members)) (Entry.putAll entries r.blank) := by
  subst hkeys
  rw [l.text_object, hentries]
  apply record_reads (l.inner_gap depth) (l.outer_gap depth) l.colon_gap entries hnodup
  intro m hm habsent
  have hm := List.all_eq_true.1 hall m hm
  simpa [habsent] using hm

end layouts

/-! ## Segments and drafts -/

section drafts

variable (l : Layout) (depth : Nat)

/-- **A segment is read from its text** in any layout. -/
theorem segment_reads (s : Segment) : Segment.decoder.Reads (l.text depth s.toJson) s := by
  let content : Entry Segment.record := layoutEntry l depth "content" (.string s.content)
    (.required "content" .string fun v s => { s with content := v }) _ rfl
    ((layout_string_reads l (depth + 1) s.content).map _)
  let flag : Entry Segment.record := layoutEntry l depth "media_included"
    (.bool s.mediaIncluded)
    (.defaulted "media_included" .flag fun v s => { s with mediaIncluded := v }) _ rfl
    ((layout_flag_reads l (depth + 1) s.mediaIncluded).map _)
  let urls : Entry Segment.record := layoutEntry l depth "media_urls"
    (Value.ofStrings s.mediaUrls)
    (.defaulted "media_urls" (.list .string) fun v s => { s with mediaUrls := v }) _ rfl
    ((layout_strings_reads l (depth + 1) s.mediaUrls).map _)
  cases hurls : s.mediaUrls.isEmpty with
  | true =>
    have hread := layout_record_reads l depth
      [("content", .string s.content), ("media_included", .bool s.mediaIncluded)]
      [content, flag] rfl ["content", "media_included"] rfl (by decide) rfl
    have hput : Entry.putAll [content, flag] Segment.record.blank = s := by
      have hnil : s.mediaUrls = [] := List.isEmpty_iff.1 hurls
      show Segment.mk s.content s.mediaIncluded [] = s
      rw [← hnil]
    rw [hput] at hread
    simpa [Segment.decoder, Segment.toJson, hurls] using hread
  | false =>
    have hread := layout_record_reads l depth
      [("content", .string s.content), ("media_included", .bool s.mediaIncluded),
        ("media_urls", Value.ofStrings s.mediaUrls)]
      [content, flag, urls] rfl ["content", "media_included", "media_urls"] rfl
      (by decide) rfl
    have hput : Entry.putAll [content, flag, urls] Segment.record.blank = s := rfl
    rw [hput] at hread
    simpa [Segment.decoder, Segment.toJson, hurls] using hread

/-- The status of a draft is read from its name in a layout. -/
theorem status_reads (status : DraftStatus) :
    DraftStatus.decoder.Reads (l.text depth (.string status.name)) status := by
  rw [l.text_string]
  apply choice_reads
  cases status <;> rfl

/-- Both times of a draft fit into 64 bits. -/
structure Draft.FitsWord (d : Draft) : Prop where
  createdAt : d.createdAt ≤ maxWord
  updatedAt : d.updatedAt ≤ maxWord

/-- **A draft is read from its text** in any layout. -/
theorem draft_reads {d : Draft} (h : d.FitsWord) :
    Draft.decoder.Reads (l.text depth d.toJson) d := by
  have hsegments : (Decoder.list Segment.decoder).Reads
      (l.text (depth + 1) (.list (d.segments.map (·.toJson)))) d.segments :=
    layout_list_reads l (depth + 1) Segment.toJson d.segments fun s _ =>
      ⟨isItem_object l _ _, segment_reads l _ s⟩
  have hids : (Decoder.list .string).Reads
      (l.text (depth + 1) (MessageId.listToJson d.messageIds)) (d.messageIds.map (·.text)) :=
    layout_strings_reads l (depth + 1) _
  let entries : List (Entry Draft.record) := [
    layoutEntry l depth "id" (.string d.id.text)
      (.required "id" .string fun v d => { d with id := ⟨v⟩ }) _ rfl
      ((layout_string_reads l (depth + 1) d.id.text).map _),
    layoutEntry l depth "topic" (Value.ofOption d.topic)
      (.nullable "topic" .string fun v d => { d with topic := v }) _ rfl
      ((layout_optional_reads l (depth + 1) d.topic).map _),
    layoutEntry l depth "segments" (.list (d.segments.map Segment.toJson))
      (.required "segments" (.list Segment.decoder) fun v d => { d with segments := v }) _ rfl
      (hsegments.map _),
    layoutEntry l depth "status" (.string d.status.name)
      (.required "status" DraftStatus.decoder fun v d => { d with status := v }) _ rfl
      ((status_reads l (depth + 1) d.status).map _),
    layoutEntry l depth "message_ids" (MessageId.listToJson d.messageIds)
      (.required "message_ids" (.list .string) fun v d => { d with messageIds := v.map .mk })
      _ rfl (hids.map _),
    layoutEntry l depth "created_at" (Value.ofNat d.createdAt)
      (.required "created_at" (.natural "u64") fun v d => { d with createdAt := v }) _ rfl
      ((layout_natural_reads l (depth + 1) h.createdAt _).map _),
    layoutEntry l depth "updated_at" (Value.ofNat d.updatedAt)
      (.required "updated_at" (.natural "u64") fun v d => { d with updatedAt := v }) _ rfl
      ((layout_natural_reads l (depth + 1) h.updatedAt _).map _)]
  have hput : Entry.putAll entries Draft.record.blank = d := by
    have hmessages : (d.messageIds.map (·.text)).map MessageId.mk = d.messageIds := by
      simp [List.map_map, Function.comp_def]
    show Draft.mk d.id d.topic d.segments d.status ((d.messageIds.map (·.text)).map .mk)
      d.createdAt d.updatedAt = d
    rw [hmessages]
  have hread : Draft.decoder.Reads (l.text depth d.toJson)
      (Entry.putAll entries Draft.record.blank) :=
    layout_record_reads l depth _ entries rfl
      ["id", "topic", "segments", "status", "message_ids", "created_at", "updated_at"]
      rfl (by decide) rfl
  rw [hput] at hread
  exact hread

end drafts

/-- **A text of a draft gives the draft back**, in any layout. -/
theorem ofText_layout (l : Layout) {d : Draft} (h : d.FitsWord) :
    Draft.ofText (String.ofList (l.text 0 d.toJson)) = .ok d := by
  have hread : Draft.decoder.scanAll (l.text 0 d.toJson) = .ok d := (draft_reads l 0 h).scanAll
  simp [Draft.ofText, Decoder.fromText, hread]

/-- **The text that a store writes gives the draft back.** -/
theorem ofText_prettyText {d : Draft} (h : d.FitsWord) :
    Draft.ofText d.toJson.prettyText = .ok d := ofText_layout Layout.pretty h

end PostingTerminal
