import StreamHttp.Document.Message
import StreamHttp.Failure.Chain

/-!
Errors as documents.
-/

namespace StreamHttp.Document

def bodyError (document : Json) : BodyError :=
  match text document "k" with
  | "too_large" => .tooLarge (number document "limit" 0)
  | "io" => .failed (text document "msg")
  | _ => .alreadyClaimed

def bindingError (document : Json) : BindingError :=
  match text document "k" with
  | "conversion" => .conversion (text document "name") (text document "msg")
  | "media" => .unsupportedMediaType (text document "msg")
  | "body" => .body (bodyError (get document "body"))
  | _ => .missing (text document "name")

def codecError (document : Json) : CodecError :=
  match text document "k" with
  | "no_encoder" => .noEncoder (text document "msg") "thing"
  | "no_decoder" => .noDecoder (text document "msg")
  | "decode" => .decode (text document "msg")
  | _ => .encode (text document "msg")

/-- Reads an error as the plain error it is, where there is one. The document's depth is limited. -/
def causeWithin (vocabulary : Vocabulary) : Nat → Json → Cause
  | 0, _ => .dispatch .notFound
  | depth + 1, document =>
      let message := text document "msg"
      match text document "e" with
      | "binding" => .binding (bindingError document)
      | "codec" => .codec (codecError document)
      | "body" => .body (bodyError document)
      | "string" => .text message
      | "io" => .io message
      | "not_found" => .dispatch .notFound
      | "not_allowed" =>
          .dispatch (.methodNotAllowed (textOr document "method" "GET") (text document "path")
            (texts document "allowed"))
      | "duplicate" => .dispatch (.duplicateRoute (text document "path") (texts document "routes"))
      | "bad_request" => .dispatch (DispatchError.badRequest message)
      | "status" =>
          .dispatch (.status ⟨number document "code" 500⟩ message
            ((field? document "body").map (payload vocabulary)))
      | "wrap" => .dispatch (.handler (causeWithin vocabulary depth (get document "inner")))
      | name =>
          match vocabulary.error? name, field? document "source" with
          | some typeName, some source =>
              .applicationFrom typeName message (causeWithin vocabulary depth source)
          | some typeName, none => .application typeName message
          | none, _ => .dispatch .notFound

/-- The error of a document; an error that is none of the dispatch itself comes from a handler. -/
def error (vocabulary : Vocabulary) (document : Json) : DispatchError :=
  match causeWithin vocabulary Json.depthLimit document with
  | .dispatch error => error
  | .binding error => .binding error
  | .codec error => .codec error
  | .body error => .body error
  | cause => .handler cause

def errorKind (vocabulary : Vocabulary) (name : String) : ErrorKind :=
  match vocabulary.error? name, name with
  | some typeName, _ => .application typeName
  | none, "binding" => .binding
  | none, "codec" => .codec
  | none, "body" => .body
  | none, "io" => .io
  | none, _ => .dispatch

def errorName : DispatchError → String
  | .notFound => "NotFound"
  | .methodNotAllowed _ _ _ => "MethodNotAllowed"
  | .duplicateRoute _ _ => "DuplicateRoute"
  | .binding _ => "Binding"
  | .status _ _ _ => "Status"
  | .codec _ => "Codec"
  | .body _ => "Body"
  | .handler _ => "Handler"

def bodyErrorName : BodyError → String
  | .alreadyClaimed => "AlreadyClaimed"
  | .tooLarge _ => "TooLarge"
  | .failed _ => "Io"

def bindingErrorName : BindingError → String
  | .missing _ => "Missing"
  | .conversion _ _ => "Conversion"
  | .unsupportedMediaType _ => "UnsupportedMediaType"
  | .body _ => "Body"

def codecErrorName : CodecError → String
  | .noEncoder _ _ => "NoEncoder"
  | .noDecoder _ => "NoDecoder"
  | .encode _ => "Encode"
  | .decode _ => "Decode"

def fault (kind message : String) : Json :=
  .object [("error", .string kind), ("message", .string message)]

/-- What is to be known about an error: its kind, message and status, the messages of its chain, and
which kinds of error the chain holds. -/
def ofError (vocabulary : Vocabulary) (error : DispatchError) : Json :=
  let find (name : String) := error.find? (errorKind vocabulary name)
  let messageOf (cause : Cause) : Json := .string cause.message
  Json.ofMembers
    [("kind", .string (errorName error)), ("message", .string error.message),
      ("status", nat error.statusOf.code),
      ("chain", textList (error.asCause.chain.map Cause.message)),
      ("finds", Json.ofMembers
        ((vocabulary.watched.map fun name => (name, optional messageOf (find name)))
          ++ ["binding", "body", "dispatch"].map fun name => (name, .bool (find name).isSome)))]

end StreamHttp.Document
