import StreamHttp.Message.Payload
import StreamHttp.Message.Status
import StreamHttp.Message.Token
import StreamHttp.Stream.Body

/-!
What can go wrong between the lookup of a route and its encoded response, and the status that each
failure answers with. A failure of an application is a chain of causes, each with the one behind it.
-/

namespace StreamHttp

inductive BindingError where
  | missing (name : String)
  | conversion (name reason : String)
  | unsupportedMediaType (mediaType : String)
  | body (error : BodyError)
  deriving DecidableEq, Repr

namespace BindingError

def message : BindingError → String
  | .missing name => "Required argument [" ++ name ++ "] not specified"
  | .conversion name reason => "Failed to convert argument [" ++ name ++ "]: " ++ reason
  | .unsupportedMediaType mediaType => "Content type [" ++ mediaType ++ "] not supported"
  | .body error => "Request body could not be read: " ++ error.message

def status : BindingError → Status
  | .missing _ => .badRequest
  | .conversion _ _ => .badRequest
  | .unsupportedMediaType _ => .unsupportedMediaType
  | .body (.tooLarge _) => .payloadTooLarge
  | .body _ => .badRequest

end BindingError

inductive CodecError where
  | noEncoder (mediaType typeName : String)
  | noDecoder (mediaType : String)
  | encode (reason : String)
  | decode (reason : String)
  deriving DecidableEq, Repr

def CodecError.message : CodecError → String
  | .noEncoder mediaType typeName =>
      "Cannot encode value of type [" ++ typeName
        ++ "]. No possible encoders found for media type: " ++ mediaType
  | .noDecoder mediaType => "No decoder found for media type: " ++ mediaType
  | .encode reason => "Error encoding body: " ++ reason
  | .decode reason => "Error decoding body: " ++ reason

mutual

inductive DispatchError where
  | notFound
  | methodNotAllowed (method : Method) (path : String) (allowed : List Method)
  | duplicateRoute (path : String) (routes : List String)
  | binding (error : BindingError)
  /-- A status that a handler chose as its answer. -/
  | status (status : Status) (message : String) (body : Option Payload)
  | codec (error : CodecError)
  | body (error : BodyError)
  | handler (cause : Cause)

/-- An error as the application sees it. Errors of its own have a type and may name their source. -/
inductive Cause where
  | dispatch (error : DispatchError)
  | binding (error : BindingError)
  | codec (error : CodecError)
  | body (error : BodyError)
  | io (message : String)
  | text (message : String)
  | application (typeName message : String)
  | applicationFrom (typeName message : String) (source : Cause)

end

def commaList (items : List String) : String := ", ".intercalate items

mutual

def DispatchError.message : DispatchError → String
  | .notFound => "Page Not Found"
  | .methodNotAllowed method path allowed =>
      "Method [" ++ method ++ "] not allowed for URI [" ++ path ++ "]. Allowed methods: "
        ++ commaList allowed
  | .duplicateRoute _ routes =>
      "More than 1 route matched the incoming request: " ++ commaList routes
  | .binding error => error.message
  | .status _ message _ => message
  | .codec error => error.message
  | .body error => error.message
  | .handler cause => cause.message

def Cause.message : Cause → String
  | .dispatch error => error.message
  | .binding error => error.message
  | .codec error => error.message
  | .body error => error.message
  | .io message => message
  | .text message => message
  | .application _ message => message
  | .applicationFrom _ message _ => message

end

namespace DispatchError

def badRequest (message : String) : DispatchError := .status .badRequest message none

def statusOf : DispatchError → Status
  | .notFound => .notFound
  | .methodNotAllowed _ _ _ => .methodNotAllowed
  | .binding error => error.status
  | .status chosen _ _ => chosen
  | .body (.tooLarge _) => .payloadTooLarge
  | .duplicateRoute _ _ => .internalError
  | .codec _ => .internalError
  | .body _ => .internalError
  | .handler _ => .internalError

def allow? : DispatchError → Option String
  | .methodNotAllowed _ _ allowed => some (commaList allowed)
  | _ => none

/-- The body that answers with nothing but a message. -/
def bodyOf (message : String) : Payload := .json (.object [("message", .string message)])

end DispatchError

end StreamHttp
