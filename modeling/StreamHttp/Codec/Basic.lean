import StreamHttp.Failure.Basic
import StreamHttp.Message.MediaType

/-!
Codecs write payloads as bytes and read bytes as values, for a family of media types. In a registry
the codec that was registered last is asked first.
-/

namespace StreamHttp

structure Codec where
  name : String
  supports : MediaType → Bool
  canEncode : Payload → Bool
  encode : Payload → String → Except CodecError Bytes
  decode : Bytes → Except CodecError Json

/-- Codecs in the order of their registration. -/
abbrev Codecs := List Codec

namespace Codecs

def encoder? (codecs : Codecs) (media : MediaType) (payload : Payload) : Option Codec :=
  codecs.reverse.find? fun codec => codec.supports media && codec.canEncode payload

def decoder? (codecs : Codecs) (media : MediaType) : Option Codec :=
  codecs.reverse.find? (·.supports media)

def decode (codecs : Codecs) (media : MediaType) (bytes : Bytes) : Except CodecError Json :=
  match codecs.decoder? media with
  | some codec => codec.decode bytes
  | none => .error (.noDecoder media.render)

end Codecs

end StreamHttp
