import PostingTerminal.Response
import PostingTerminal.Settings
import PostingTerminal.Json.Printer
import PostingTerminal.Text.Search

/-!
# Asking a language model

A client asks a model for a completion of a system text and a user text, in one of two
formats, which the address of the service decides.  A completion is one exchange: a request
with headers and a JSON body, and a reply with a status and a body.  What comes of each
request is known beforehand here: a reply, or the cause for which there is none.  Either may
take time, and there is no limit on waiting for it.
-/

namespace PostingTerminal.Llm

open Json (Value)

/-- The format that a service speaks. -/
inductive Format where
  | anthropic
  | openAI
  deriving DecidableEq, Repr

/-- The format of the service at an address. -/
def Format.ofUrl (url : String) : Format :=
  if Text.contains url "anthropic.com" then .anthropic else .openAI

/-- The name of a format. -/
def Format.name : Format → String
  | .anthropic => "Anthropic"
  | .openAI => "OpenAI"

/-- What a client needs to ask. -/
structure Client where
  apiKey : String
  format : Format
  model : String
  deriving DecidableEq, Repr

/-- The address asked unless another one is given. -/
def defaultUrl : String := "https://api.anthropic.com/v1/messages"

/-- The model asked unless another one is given. -/
def defaultModel : String := "claude-3-haiku-20240307"

/-- The client for an address. -/
def Client.new (apiKey url model : String) : Client := ⟨apiKey, .ofUrl url, model⟩

/-- The variables that describe a client. -/
def Client.environmentNames : List String := ["LLM_API_KEY", "LLM_API_URL", "LLM_MODEL"]

/-- The client that the environment describes; without a key there is none. -/
def Client.ofEnvironment (env : Environment) : Except Error Client :=
  match env.lookup "LLM_API_KEY" with
  | none => .error (.llm .keyNotSet)
  | some key =>
    .ok (.new key ((env.lookup "LLM_API_URL").getD defaultUrl)
      ((env.lookup "LLM_MODEL").getD defaultModel))

/-- A request as it is sent. -/
structure Request where
  headers : List (String × String)
  body : String
  deriving DecidableEq, Repr

/-- A reply as it is received. -/
structure Reply where
  status : Nat
  body : String
  deriving DecidableEq, Repr

/-- The most tokens that a completion may have. -/
def maxTokens : Nat := 2048

/-- One message of a conversation as JSON. -/
def messageJson (role content : String) : Value :=
  .object [("role", .string role), ("content", .string content)]

/-- Whether a character may stand in a header: no control character but the tab. -/
def isHeaderChar (c : Char) : Bool := c == '\t' || (32 ≤ c.toNat && c.toNat != 127)

/-- Whether the key can be sent in a header. -/
def Client.canSend (c : Client) : Bool := c.apiKey.toList.all isHeaderChar

/-- Whether a character is no part of a header's value when it stands at an end of it. -/
def isHeaderBlank (c : Char) : Bool := c == ' ' || c == '\t'

/-- The value of a header: a text without the blanks at its ends. -/
def headerValue (text : String) : String :=
  let front := text.toList.dropWhile isHeaderBlank
  String.ofList (front.reverse.dropWhile isHeaderBlank).reverse

/-- The request for a completion. -/
def Client.request (c : Client) (system user : String) : Request :=
  let size := ("max_tokens", Value.ofNat maxTokens)
  match c.format with
  | .anthropic =>
    { headers := [("x-api-key", headerValue c.apiKey), ("anthropic-version", "2023-06-01"),
        ("content-type", "application/json")]
      body := (Value.object [("model", .string c.model), size, ("system", .string system),
        ("messages", .list [messageJson "user" user])]).compactText }
  | .openAI =>
    { headers := [("authorization", headerValue ("Bearer " ++ c.apiKey)),
        ("content-type", "application/json")]
      body := (Value.object [("model", .string c.model), size,
        ("messages", .list [messageJson "system" system, messageJson "user" user])]).compactText }

/-! ## Replies -/

/-- A record with one member that must be present. -/
def soleMember {α : Type} (name key : String) (blank : α) (d : Json.Decoder α) : Json.Record α :=
  ⟨name, blank, [.required key d fun v _ => v]⟩

/-- Reads the texts of a reply, in the order of its blocks or choices. -/
def Format.texts : Format → Json.Decoder (List String)
  | .anthropic =>
    (soleMember "AnthropicResponse" "content" []
      (.list (soleMember "ContentBlock" "text" "" .string).decoder)).decoder
  | .openAI =>
    (soleMember "OpenAIResponse" "choices" []
      (.list (soleMember "Choice" "message" ""
        (soleMember "ChoiceMessage" "content" "" .string).decoder).decoder)).decoder

/-- The standard phrase for a status. -/
def statusPhrase (status : Nat) : String :=
  let phrases : List (Nat × String) :=
    [(100, "Continue"), (101, "Switching Protocols"), (102, "Processing"),
      (200, "OK"), (201, "Created"), (202, "Accepted"), (203, "Non Authoritative Information"),
      (204, "No Content"), (205, "Reset Content"), (206, "Partial Content"),
      (207, "Multi-Status"), (208, "Already Reported"), (226, "IM Used"),
      (300, "Multiple Choices"), (301, "Moved Permanently"), (302, "Found"), (303, "See Other"),
      (304, "Not Modified"), (305, "Use Proxy"), (307, "Temporary Redirect"),
      (308, "Permanent Redirect"),
      (400, "Bad Request"), (401, "Unauthorized"), (402, "Payment Required"),
      (403, "Forbidden"), (404, "Not Found"), (405, "Method Not Allowed"),
      (406, "Not Acceptable"), (407, "Proxy Authentication Required"),
      (408, "Request Timeout"), (409, "Conflict"), (410, "Gone"), (411, "Length Required"),
      (412, "Precondition Failed"), (413, "Payload Too Large"), (414, "URI Too Long"),
      (415, "Unsupported Media Type"), (416, "Range Not Satisfiable"),
      (417, "Expectation Failed"), (418, "I'm a teapot"), (421, "Misdirected Request"),
      (422, "Unprocessable Entity"), (423, "Locked"), (424, "Failed Dependency"),
      (426, "Upgrade Required"), (428, "Precondition Required"), (429, "Too Many Requests"),
      (431, "Request Header Fields Too Large"), (451, "Unavailable For Legal Reasons"),
      (500, "Internal Server Error"), (501, "Not Implemented"), (502, "Bad Gateway"),
      (503, "Service Unavailable"), (504, "Gateway Timeout"),
      (505, "HTTP Version Not Supported"), (506, "Variant Also Negotiates"),
      (507, "Insufficient Storage"), (508, "Loop Detected"), (510, "Not Extended"),
      (511, "Network Authentication Required")]
  (phrases.lookup status).getD "<unknown status code>"

/-- What a reply carries: its body, but nothing under a status that allows none. -/
def Reply.content (reply : Reply) : String :=
  if reply.status = 204 ∨ reply.status = 304 then "" else reply.body

/-- A text without the byte order mark that it may begin with. -/
def unmarked (text : String) : String :=
  match text.toList with
  | '\ufeff' :: rest => String.ofList rest
  | _ => text

/-- The completion in a reply: its first text. -/
def Client.completion (c : Client) (reply : Reply) : Except Error String :=
  if 200 ≤ reply.status ∧ reply.status < 300 then
    match c.format.texts.fromText reply.content with
    | .error e => .error (.llm (.undecodableReply e))
    | .ok [] => .error (.llm .emptyReply)
    | .ok (text :: _) => .ok text
  else .error (.llm (.refused reply.status (statusPhrase reply.status) (unmarked reply.content)))

/-- What comes of sending a request: a reply, or the cause why none is received. -/
abbrev Exchange := Except String Reply

/-- A service: what comes of each request, by its number, and the requests it has been sent. -/
structure Service where
  exchanges : Nat → Response Exchange
  requests : List Request

namespace Service

/-- A service that has been sent nothing. -/
def new (exchanges : Nat → Response Exchange) : Service := ⟨exchanges, []⟩

/-- What comes of the next request. -/
def next (s : Service) : Response Exchange := s.exchanges s.requests.length

/-- Sends a request. -/
def ask (s : Service) (request : Request) : Response Exchange × Service :=
  (s.next, { s with requests := s.requests ++ [request] })

end Service

/-- The completion that comes of sending a request. -/
def Client.result (c : Client) : Exchange → Except Error String
  | .error cause => .error (.llm (.other cause))
  | .ok reply => c.completion reply

/-- Asks for a completion.  With a key that cannot be sent nothing is asked. -/
def Client.complete (c : Client) (system user : String) (s : Service) :
    Response (Except Error String) × Service :=
  if c.canSend then
    let (response, s) := s.ask (c.request system user)
    (response.map c.result, s)
  else (.answer 0 (.error (.llm .unsendableKey)), s)

end PostingTerminal.Llm
