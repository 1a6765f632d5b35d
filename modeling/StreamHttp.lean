import StreamHttp.Container
import StreamHttp.Main
import StreamHttp.Proofs.Arguments.Forms
import StreamHttp.Proofs.Codec.Encoders
import StreamHttp.Proofs.Exchange.Decoration
import StreamHttp.Proofs.Exchange.Deferral
import StreamHttp.Proofs.Exchange.ErrorAnswer
import StreamHttp.Proofs.Exchange.FailedHandlers
import StreamHttp.Proofs.Exchange.FillIn
import StreamHttp.Proofs.Exchange.Onion
import StreamHttp.Proofs.Failure.Wrapping
import StreamHttp.Proofs.Message.Cookies
import StreamHttp.Proofs.Message.Edits
import StreamHttp.Proofs.Message.MediaTypes
import StreamHttp.Proofs.Routing.Shadowing
import StreamHttp.Proofs.Routing.Spelling
import StreamHttp.Proofs.Serve.Bodiless
import StreamHttp.Proofs.Serve.Conservation
import StreamHttp.Proofs.Serve.Identified
import StreamHttp.Proofs.Serve.Pipelining
import StreamHttp.Proofs.Serve.ReadBoundaries
import StreamHttp.Proofs.Serve.Resumption
import StreamHttp.Proofs.Serve.Stopping
import StreamHttp.Proofs.Serve.Transcript
import StreamHttp.Proofs.Serve.Truncation
import StreamHttp.Proofs.Shutdown.Overlap
import StreamHttp.Proofs.Stream.Claim
import StreamHttp.Proofs.Stream.Halves
import StreamHttp.Proofs.Wire.AnnouncedLength
import StreamHttp.Proofs.Wire.Outgoing
import StreamHttp.Proofs.Wire.Recovery
import StreamHttp.Script.Blueprint
import StreamHttp.Settings.FileTree
