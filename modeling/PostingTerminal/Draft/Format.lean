import PostingTerminal.Draft.Basic
import PostingTerminal.Json.Printer

/-!
# Drafts as JSON

A draft is written as an object with its members in a fixed order.  The list of media
addresses of a segment is left out when it is empty, and read as empty when it is not there.
-/

namespace PostingTerminal

open Json (Value)

/-- A segment as JSON. -/
def Segment.toJson (s : Segment) : Value :=
  let urls := if s.mediaUrls.isEmpty then [] else [("media_urls", Value.ofStrings s.mediaUrls)]
  .object ([("content", .string s.content), ("media_included", .bool s.mediaIncluded)] ++ urls)

/-- The members of a segment. -/
def Segment.record : Json.Record Segment where
  name := "Segment"
  blank := .ofText ""
  members := [
    .required "content" .string fun v s => { s with content := v },
    .defaulted "media_included" .flag fun v s => { s with mediaIncluded := v },
    .defaulted "media_urls" (.list .string) fun v s => { s with mediaUrls := v }]

/-- Reads a segment. -/
def Segment.decoder : Json.Decoder Segment := Segment.record.decoder

/-- Message ids as JSON. -/
def MessageId.listToJson (ids : List MessageId) : Value := Value.ofStrings (ids.map (·.text))

/-- A draft as JSON. -/
def Draft.toJson (d : Draft) : Value :=
  .object [
    ("id", .string d.id.text),
    ("topic", Value.ofOption d.topic),
    ("segments", .list (d.segments.map (·.toJson))),
    ("status", .string d.status.name),
    ("message_ids", MessageId.listToJson d.messageIds),
    ("created_at", Value.ofNat d.createdAt),
    ("updated_at", Value.ofNat d.updatedAt)]

/-- The members of a draft. -/
def Draft.record : Json.Record Draft where
  name := "ThreadDraft"
  blank := .new ⟨""⟩ [] none 0
  members := [
    .required "id" .string fun v d => { d with id := ⟨v⟩ },
    .nullable "topic" .string fun v d => { d with topic := v },
    .required "segments" (.list Segment.decoder) fun v d => { d with segments := v },
    .required "status" DraftStatus.decoder fun v d => { d with status := v },
    .required "message_ids" (.list .string) fun v d => { d with messageIds := v.map .mk },
    .required "created_at" (.natural "u64") fun v d => { d with createdAt := v },
    .required "updated_at" (.natural "u64") fun v d => { d with updatedAt := v }]

/-- Reads a draft. -/
def Draft.decoder : Json.Decoder Draft := Draft.record.decoder

/-- Reads the text of a draft. -/
def Draft.ofText (text : String) : Except Error Draft :=
  match Draft.decoder.fromText text with
  | .error e => .error (.decoding e)
  | .ok d => .ok d

end PostingTerminal
