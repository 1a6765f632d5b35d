import StreamHttp.Message.Cookie
import StreamHttp.Message.Headers
import StreamHttp.Message.Payload
import StreamHttp.Message.Status
import StreamHttp.Text.Annotated

/-!
Responses. A reason phrase of its own belongs to the status it was given for: a new status drops it.
-/

namespace StreamHttp

structure Response where
  status : Status := Status.ok
  ownReason : Option String := none
  headers : Headers := {}
  body : Payload := .empty

namespace Response

def ofStatus (status : Status) : Response := { status }

def setStatus (response : Response) (status : Status) : Response :=
  { response with status, ownReason := none }

def reason (response : Response) : String :=
  response.ownReason.getD (response.status.reason?.getD "Unknown")

def addHeader (response : Response) (name value : String) : Response :=
  { response with headers := response.headers.add name value }

def setHeader (response : Response) (name value : String) : Response :=
  { response with headers := response.headers.set name value }

def addCookie (response : Response) (cookie : Cookie) : Response :=
  response.addHeader "Set-Cookie" cookie.render

def contentType? (response : Response) : Option MediaType := response.headers.contentType?

def setContentType (response : Response) (media : MediaType) : Response :=
  { response with headers := response.headers.setContentType media }

/-- The bytes of an encoded body; `none` while it waits for a codec. -/
def encodedBody? (response : Response) : Option Bytes :=
  match response.body with
  | .empty => some []
  | .bytes bytes => some bytes
  | _ => none

def annotated (response : Response) : String :=
  Annotated.record "Response"
    [("status", response.status.render),
      ("reason", Annotated.option quoted response.ownReason),
      ("headers", Annotated.pairs response.headers.pairs),
      ("body", response.body.annotated)]

end Response

end StreamHttp
