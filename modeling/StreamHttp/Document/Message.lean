import StreamHttp.Arguments.Basic
import StreamHttp.Document.Basic
import StreamHttp.Exchange.Request
import StreamHttp.Message.Response

/-!
Requests, responses, payloads and arguments as documents.
-/

namespace StreamHttp.Document

/-- What documents call the types of an application: its objects, its errors, and the shapes that
arguments are converted to. -/
structure Vocabulary where
  objects : List (String × String) := []
  errors : List (String × String) := []
  shapes : List (String × Json.Shape) := []
  /-- The errors that are looked for in every chain. -/
  watched : List String := []

def Vocabulary.object? (vocabulary : Vocabulary) (name : String) : Option String :=
  vocabulary.objects.lookup name

def Vocabulary.error? (vocabulary : Vocabulary) (name : String) : Option String :=
  vocabulary.errors.lookup name

def cookie (document : Json) : Cookie where
  name := text document "name"
  value := text document "value"
  path := text? document "path"
  maxAgeMillis := number? document "max_age_ms"
  httpOnly := flag document "http_only"
  secure := flag document "secure"

def Vocabulary.shape (vocabulary : Vocabulary) (name : String) : Json.Shape :=
  match vocabulary.shapes.lookup name, name with
  | some shape, _ => shape
  | none, "i64" => .signed64
  | none, "u32" => .unsigned32
  | none, "u8" => .unsigned8
  | none, "f64" => .real
  | none, "bool" => .truth
  | none, "json" => .any
  | none, "strings" => .listOf .text
  | none, "i64s" => .listOf .signed64
  | none, _ => .text

def writable (document : Json) : Writable where
  write charset := (Bytes.ofString (charset ++ ":") ++ bytes document "v", text? document "fail")

def payloadWithin (vocabulary : Vocabulary) : Nat → Json → Payload
  | 0, _ => .empty
  | depth + 1, document =>
      match text document "t" with
      | "text" => .text (text document "v")
      | "bytes" => .bytes (bytes document "v")
      | "json" => .json (get document "v")
      | "list" => .list ((items document "v").map (payloadWithin vocabulary depth))
      | "writable" => .writable (writable document)
      | name =>
          match vocabulary.object? name with
          | some typeName => .object typeName document
          | none => .empty

def payload (vocabulary : Vocabulary) (document : Json) : Payload :=
  payloadWithin vocabulary Json.depthLimit document

mutual

def ofPayload : Payload → Json
  | .text content => .object [("t", .string "text"), ("v", .string content)]
  | .bytes content => .object [("t", .string "bytes"), ("v", ofBytes content)]
  | .json value => .object [("t", .string "json"), ("v", value)]
  | .list content => .object [("t", .string "list"), ("v", .array (ofPayloads content))]
  | .empty => .object [("t", .string "empty")]
  | .writable _ => .object [("t", .string "writable")]
  | .object name _ => .object [("t", .string name)]

def ofPayloads : List Payload → List Json
  | [] => []
  | item :: rest => ofPayload item :: ofPayloads rest

end

def response (vocabulary : Vocabulary) (document : Json) : Response :=
  let plain : Response :=
    { status := ⟨number document "status" 200⟩
      ownReason := text? document "reason"
      headers := Headers.ofPairs (pairs document "headers")
      body := payload vocabulary (get document "body") }
  ((items document "cookies").map cookie).foldl Response.addCookie plain

def ofResponse (response : Response) : Json :=
  Json.ofMembers
    [("status", nat response.status.code), ("reason", .string response.reason),
      ("headers", pairList response.headers.pairs), ("body", ofPayload response.body)]

def request (document : Json) : Except Target.Problem Intake := do
  let target ← Target.parse (textOr document "uri" "/")
  let value? := document.member? "json"
  let headers := Headers.ofPairs (pairs document "headers")
  let headers := if value?.isSome then headers.add "Content-Type" MediaType.json.render else headers
  let content :=
    if isSet document "body" then bytes document "body"
    else (value?.map fun value => Bytes.ofString value.render).getD []
  let body := match field? document "source" with
    | some reading => Body.ofReader (.own (source reading)) (number? document "expected")
    | none => Body.ofBytes content
  return Intake.ofBody (Head.make (textOr document "method" "GET") target headers) body

def argument (document : Json) : Argument :=
  match text document "t" with
  | "json" => .json (get document "v")
  | "bytes" => .bytes (bytes document "v")
  | "stream" => .stream (Body.ofBytes (bytes document "v"))
  | _ => .text (text document "v")

def ofArgument : Argument → String × Json
  | .text content => ("text", .string content)
  | .json value => ("json", value)
  | .bytes content => ("bytes", ofBytes content)
  | .stream body => ("stream", optional nat body.expected)

def ofArguments (arguments : Arguments) : Json :=
  .array (arguments.entries.map fun entry =>
    let (kind, value) := ofArgument entry.2
    .array [.string entry.1, .string kind, value])

def ofMedia (media : MediaType) : Json := .string media.render

def ofHead (head : Head) : Json :=
  Json.ofMembers
    [("method", .string head.method), ("path", .string head.path),
      ("query", optional .string head.target.query), ("headers", pairList head.headers.pairs),
      ("params", pairList head.query.pairs),
      ("cookies", pairList (head.cookies.list.map fun cookie => (cookie.name, cookie.value))),
      ("content_type", optional ofMedia head.contentType?),
      ("permits_body", .bool head.permitsBody)]

end StreamHttp.Document
