import StreamHttp.Failure.Basic

/-!
The chain of an error: the error that was wrapped, the error that caused it, and so on. Error routes
and exception handlers are chosen by the first link of a kind they were registered for.
-/

namespace StreamHttp

inductive ErrorKind where
  | dispatch
  | binding
  | codec
  | body
  | io
  | application (typeName : String)
  deriving DecidableEq, Repr

def BodyError.sources : BodyError → List Cause
  | .failed message => [.io message]
  | _ => []

def BindingError.sources : BindingError → List Cause
  | .body error => .body error :: error.sources
  | _ => []

mutual

/-- The errors behind an error. One that shows another error as its own has that one's sources. -/
def DispatchError.sources : DispatchError → List Cause
  | .notFound => []
  | .methodNotAllowed _ _ _ => []
  | .duplicateRoute _ _ => []
  | .status _ _ _ => []
  | .binding error => error.sources
  | .codec _ => []
  | .body error => error.sources
  | .handler cause => cause :: cause.sources

def Cause.sources : Cause → List Cause
  | .dispatch error => error.sources
  | .binding error => error.sources
  | .codec _ => []
  | .body error => error.sources
  | .io _ => []
  | .text _ => []
  | .application _ _ => []
  | .applicationFrom _ _ source => source :: source.sources

end

namespace Cause

def chain (cause : Cause) : List Cause := cause :: cause.sources

def isOf : ErrorKind → Cause → Bool
  | .dispatch, .dispatch _ => true
  | .binding, .binding _ => true
  | .codec, .codec _ => true
  | .body, .body _ => true
  | .io, .io _ => true
  | .application name, .application typeName _ => name == typeName
  | .application name, .applicationFrom typeName _ _ => name == typeName
  | _, _ => false

end Cause

namespace DispatchError

/-- The error that routes and handlers are matched with: the wrapped one, or this one. -/
def asCause : DispatchError → Cause
  | .binding error => .binding error
  | .codec error => .codec error
  | .body error => .body error
  | .handler cause => cause
  | error => .dispatch error

def find? (kind : ErrorKind) (error : DispatchError) : Option Cause :=
  error.asCause.chain.find? (·.isOf kind)

end DispatchError

end StreamHttp
