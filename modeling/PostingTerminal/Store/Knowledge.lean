import PostingTerminal.Error
import PostingTerminal.Text.Alphanumeric
import PostingTerminal.Text.Lowercase
import PostingTerminal.Text.Search

/-!
# What the agent remembers

Memories are kept in the order in which they came.  A memory is relevant to a topic if its
text contains one of the topic's words, the case of letters aside.  The words of a topic are
its runs of letters and digits that are longer than two bytes.
-/

namespace PostingTerminal.Store

/-- Where a memory comes from. -/
inductive MemoryKind where
  | worldKnowledge
  | selfKnowledge
  | threadPost
  deriving DecidableEq, Repr

/-- The name of a kind of memory. -/
def MemoryKind.name : MemoryKind → String
  | .worldKnowledge => "world_knowledge"
  | .selfKnowledge => "self_knowledge"
  | .threadPost => "thread_post"

/-- Reads a kind of memory by its name. -/
def MemoryKind.decoder : Json.Decoder MemoryKind :=
  .choice ([.worldKnowledge, .selfKnowledge, .threadPost].map fun k => (k.name, k))

/-- Something remembered. -/
structure Memory where
  kind : MemoryKind
  text : String
  deriving DecidableEq, Repr

/-- The words of a topic, in lower case. -/
def topicWords (topic : List Char) : List (List Char) :=
  let runs := Text.cutAt (fun c => !Text.isAlphanumeric c) topic
  (runs.filter fun w => Json.byteCount w > 2).map Text.lower

/-- Whether a memory contains one of the words. -/
def Memory.mentions (words : List (List Char)) (m : Memory) : Bool :=
  let text := Text.lower m.text.toList
  words.any fun w => Text.occursIn w text

/-- Memories, the oldest first. -/
structure Knowledge where
  memories : List Memory
  deriving DecidableEq, Repr

namespace Knowledge

/-- Nothing remembered. -/
def empty : Knowledge := ⟨[]⟩

/-- How many memories are shown for a topic. -/
def maxResults : Nat := 10

/-- Remembers a text. -/
def remember (k : Knowledge) (kind : MemoryKind) (text : String) : Knowledge :=
  ⟨k.memories ++ [⟨kind, text⟩]⟩

/-- The memories that mention a word of the topic, the newest first. -/
def matching (k : Knowledge) (topic : String) : List Memory :=
  k.memories.reverse.filter (Memory.mentions (topicWords topic.toList))

/-- The newest relevant memories, one on a line. -/
def relevant (k : Knowledge) (topic : String) : String :=
  "\n".intercalate (((k.matching topic).take maxResults).map fun m => "- " ++ m.text)

end Knowledge

end PostingTerminal.Store
