import StreamHttp.Exchange.Request
import StreamHttp.Failure.Chain
import StreamHttp.Message.Response

/-!
Handlers for errors by their kind. The outermost error of a chain that has a handler is answered;
of several handlers for it, by the one registered last.
-/

namespace StreamHttp

structure ExceptionHandler where
  kind : ErrorKind
  typeName : String
  respond : Cause → Head → Response

namespace ExceptionHandler

def handle (handlers : List ExceptionHandler) (cause : Cause) (head : Head) : Option Response :=
  cause.chain.findSome? fun link =>
    (handlers.reverse.find? fun handler => link.isOf handler.kind).map fun handler =>
      handler.respond link head

end ExceptionHandler

end StreamHttp
