import PostingTerminal.Llm.Client
import PostingTerminal.Proofs.Json.Layout

/-!
# Replies that hold a completion

* `HoldsOne` — a text of an object with exactly one value under a key, whatever else it has.
* `Format.IsReply` — a text of the object that a service replies with, in the format it speaks.
* `Client.Answered` — the service replies so to the next request.
* `complete_of_answered` — **the completion in such a reply is its first text**.
* `isReply_layout` — in every layout the object of a reply is such a text.
-/

namespace PostingTerminal.Llm

open Json

/-- A text of an object with exactly one value under a key.  The other members may be anything. -/
def HoldsOne (key : String) (IsValue : List Char → Prop) (text : List Char) : Prop :=
  ∃ members value, IsObject text members ∧ valuesOf key members = [value] ∧ IsValue value ∧
    ∀ m ∈ members, m.1 ≠ key → IsJson m.2

/-- **A text of a reply in a format**, by the texts of its blocks or choices. -/
def Format.IsReply : Format → List Char → List String → Prop
  | .anthropic, body, texts =>
    HoldsOne "content" (IsList (fun block s => HoldsOne "text" (Quotes · s) block) · texts) body
  | .openAI, body, texts =>
    HoldsOne "choices" (IsList (fun choice s =>
      HoldsOne "message" (HoldsOne "content" (Quotes · s)) choice) · texts) body

/-- A text of an object starts with its bracket. -/
theorem HoldsOne.isItem {key : String} {IsValue : List Char → Prop} {text : List Char}
    (h : HoldsOne key IsValue text) : IsItem text := by
  obtain ⟨members, value, ⟨body, rfl, -⟩, -⟩ := h
  exact ⟨_, _, rfl, by decide, by decide⟩

/-- A record with one member is read from every object that has it once. -/
theorem soleMember_reads {α : Type} {name key : String} {blank a : α} {d : Json.Decoder α}
    {IsValue : List Char → Prop} {text : List Char} (h : HoldsOne key IsValue text)
    (hread : ∀ value, IsValue value → d.Reads value a) :
    (soleMember name key blank d).decoder.Reads text a := by
  obtain ⟨members, value, hobject, hvalues, hvalue, hothers⟩ := h
  have hreads : (soleMember name key blank d).decoder.Reads text
      (members.foldl (fun b m => decidedBy key a m.1 b) blank) := by
    apply record_reads_isObject hobject
    · intro m hm
      obtain rfl := List.mem_singleton.1 hm
      show Supplies members (.required key d fun v _ => v) (decidedBy key a key)
      rw [decidedBy_self]
      exact supplies_required hvalues (hread value hvalue)
    · intro m hm hunknown
      have hkey : m.1 ≠ key := fun h => hunknown (List.mem_singleton.2 h)
      exact ⟨hothers m hm hkey, decidedBy_ne a hkey⟩
  rwa [foldl_decidedBy hvalues] at hreads

/-- A reply is read as its texts. -/
theorem texts_reads {format : Format} {body : List Char} {texts : List String}
    (h : format.IsReply body texts) : format.texts.Reads body texts := by
  cases format with
  | anthropic =>
    apply soleMember_reads h
    intro blocks hblocks
    apply list_reads_isList hblocks
    intro block s _ hblock
    exact ⟨hblock.isItem, soleMember_reads hblock fun _ => string_reads_of_quotes⟩
  | openAI =>
    apply soleMember_reads h
    intro choices hchoices
    apply list_reads_isList hchoices
    intro choice s _ hchoice
    exact ⟨hchoice.isItem, soleMember_reads hchoice fun _ hmessage =>
      soleMember_reads hmessage fun _ => string_reads_of_quotes⟩

/-- The service answers the next request after a delay with status 200 and a reply in the client's
format, of which an answer is the first text. -/
structure Client.Answered (c : Client) (s : Service) (delay : Nat) (answer : String) : Prop where
  sent : c.canSend = true
  reply : ∃ before body behind others, IsGap before ∧ IsGap behind ∧
    c.format.IsReply body (answer :: others) ∧
    s.next = .answer delay (.ok ⟨200, String.ofList (before ++ (body ++ behind))⟩)

/-- **The completion in a reply is its first text.** -/
theorem complete_of_answered {c : Client} {s : Service} {delay : Nat} {answer : String}
    (h : c.Answered s delay answer) (system user : String) :
    (c.complete system user s).1 = .answer delay (.ok answer) := by
  obtain ⟨hsent, before, body, behind, others, hbefore, hbehind, hreply, hnext⟩ := h
  have hread := (texts_reads hreply).scanAll_gaps hbefore hbehind
  simp [Client.complete, hsent, Service.ask, hnext, Response.map, Client.result, Client.completion,
    Reply.content, Decoder.fromText, hread]

/-! ## Writing a reply -/

/-- The text of an object in a layout holds the only value that it has under a key. -/
theorem holdsOne_layout (l : Layout) (depth : Nat) {members : List (String × Value)} {key : String}
    {v : Value} {IsValue : List Char → Prop} (hone : members.filter (·.1 == key) = [(key, v)])
    (hvalue : IsValue (l.text (depth + 1) v))
    (hothers : ∀ m ∈ members, m.1 ≠ key → IsJson (l.text (depth + 1) m.2)) :
    HoldsOne key IsValue (l.text depth (.object members)) := by
  refine ⟨_, l.text (depth + 1) v, l.isObject depth members, ?_, hvalue, ?_⟩
  · rw [valuesOf_map, hone]
    rfl
  · intro m hm hkey
    obtain ⟨n, hn, rfl⟩ := List.mem_map.1 hm
    exact hothers n hn hkey

/-- A block of a reply as JSON. -/
def blockJson (s : String) : Value := .object [("type", .string "text"), ("text", .string s)]

/-- A choice of a reply as JSON. -/
def choiceJson (s : String) : Value :=
  .object [("message", .object [("role", .string "assistant"), ("content", .string s)])]

/-- The object of a reply with the given texts, as JSON. -/
def Format.replyJson : Format → List String → Value
  | .anthropic, texts => .object [("content", .list (texts.map blockJson))]
  | .openAI, texts => .object [("choices", .list (texts.map choiceJson))]

/-- **In every layout such an object is a text of a reply.** -/
theorem isReply_layout (l : Layout) (format : Format) (texts : List String) :
    format.IsReply (l.text 0 (format.replyJson texts)) texts := by
  cases format with
  | anthropic =>
    refine holdsOne_layout l 0 rfl (l.isList 1 fun s _ => ?_) (by simp)
    apply holdsOne_layout l 2 rfl (l.quotes 3 s)
    simpa using .string (l.quotes 3 "text")
  | openAI =>
    refine holdsOne_layout l 0 rfl (l.isList 1 fun s _ => ?_) (by simp)
    refine holdsOne_layout l 2 rfl ?_ (by simp)
    apply holdsOne_layout l 3 rfl (l.quotes 4 s)
    simpa using .string (l.quotes 4 "assistant")

end PostingTerminal.Llm
