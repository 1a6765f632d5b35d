import StreamHttp.Fault
import StreamHttp.Stream.Limited
import StreamHttp.Stream.Tee

/-!
Readers of body bytes. A reader owns its source, or is a handle on something shared: the window that
the current request has on the session, or one half of a split reader. What is shared lives beside
the readers, in `Streams`, so a handle tells nothing about how far it has read. A handle that was
split is spent: only the split reads from it. A handle is good for the exchange it was made in.
-/

namespace StreamHttp

inductive Handle where
  | window
  /-- A half of the split with the given number. -/
  | half (split : Nat) (side : Side)
  deriving DecidableEq, Repr

inductive Reader where
  | own (source : Source)
  | shared (handle : Handle)

/-- What readers share: the session behind the window of the current request, and the split sources,
the newest first. A split reads from a reader that is older than itself. -/
structure Streams where
  window : Limited Session
  splits : List (Tee Reader) := []
  /-- What ended the program that uses them, if anything did. -/
  fault : Option Fault := none

namespace Reader

def window : Reader := .shared .window

def handle? : Reader → Option Handle
  | .own _ => none
  | .shared handle => some handle

/-- One read. The split sources before a half's own take no part in it. -/
def readShared (count : Nat) : List (Tee Reader) → Reader → Limited Session →
    Except String Bytes × Reader × List (Tee Reader) × Limited Session
  | splits, .own source, limited =>
      let (result, source) := source.read count
      (result, .own source, splits, limited)
  | splits, .shared .window, limited =>
      let (result, limited) := limited.read Session.read count
      (result, .shared .window, splits, limited)
  | [], .shared (.half number side), limited => (.ok [], .shared (.half number side), [], limited)
  | tee :: older, .shared (.half number side), limited =>
      if number == older.length then
        let pull (source : Reader) (around : List (Tee Reader) × Limited Session) :=
          let (result, source, older, limited) := readShared Tee.chunkSize older source around.2
          (result, source, (older, limited))
        let (result, tee, (older, limited)) := tee.read pull count side (older, limited)
        (result, .shared (.half number side), tee :: older, limited)
      else
        let (result, reader, older, limited) :=
          readShared count older (.shared (.half number side)) limited
        (result, reader, tee :: older, limited)

/-- What a reader has in store. -/
def storeOf : List (Tee Reader) → Reader → Limited Session → Delivery
  | _, .own source, _ => source.delivery
  | _, .shared .window, limited => limited.delivery
  | [], .shared (.half _ _), _ => .finished
  | tee :: older, .shared (.half number side), limited =>
      if number == older.length then tee.delivery (storeOf older tee.source limited) side
      else storeOf older (.shared (.half number side)) limited

end Reader

namespace Streams

/-- No session, as for a request that did not come from a stream. -/
def none : Streams := { window := Limited.ofSize {} 0 }

def ofSession (session : Session) (size : Nat) : Streams :=
  { window := Limited.ofSize session size }

def isSpent (streams : Streams) (handle : Handle) : Bool :=
  streams.splits.any fun tee => tee.source.handle? == some handle

/-- The reader, unless it is spent: then one without bytes. -/
def usable (streams : Streams) (reader : Reader) : Reader :=
  match reader with
  | .own source => .own source
  | .shared handle => if streams.isSpent handle then .own {} else .shared handle

def split (streams : Streams) (reader : Reader) : Reader × Reader × Streams :=
  let number := streams.splits.length
  (.shared (.half number .left), .shared (.half number .right),
    { streams with splits := { source := streams.usable reader } :: streams.splits })

def dropHalf (number : Nat) (side : Side) : List (Tee Reader) → List (Tee Reader)
  | [] => []
  | tee :: older =>
      if number == older.length then tee.drop side :: older
      else tee :: dropHalf number side older

/-- Drops a reader. A half that was dropped holds no chunks back any more. -/
def drop (streams : Streams) (reader : Reader) : Streams :=
  match streams.usable reader with
  | .shared (.half number side) =>
      { streams with splits := dropHalf number side streams.splits }
  | _ => streams

def fail (streams : Streams) (fault : Fault) : Streams :=
  { streams with fault := streams.fault.or (some fault) }

/-- What a reader of these streams has in store. -/
def delivery (streams : Streams) (reader : Reader) : Delivery :=
  Reader.storeOf streams.splits (streams.usable reader) streams.window

end Streams

namespace Reader

/-- One read of at most `count` bytes; a spent reader is at its end. -/
def read (count : Nat) (reader : Reader) (streams : Streams) :
    Except String Bytes × Reader × Streams :=
  match reader with
  | .own source =>
      let (result, source) := source.read count
      (result, .own source, streams)
  | .shared handle =>
      if streams.isSpent handle then (.ok [], .shared handle, streams)
      else
        let (result, reader, splits, limited) :=
          readShared count streams.splits (.shared handle) streams.window
        (result, reader, { streams with window := limited, splits })

/-- The next `allowance` bytes, or fewer if the reader ends before. -/
def readUpTo (allowance : Nat) (reader : Reader) (streams : Streams) :
    Except String Bytes × Reader × Streams :=
  gather (fun count (state : Reader × Streams) => state.1.read count state.2)
    ((streams.delivery reader).bytes.length + 1) allowance (reader, streams)

def readToEnd (reader : Reader) (streams : Streams) : Except String Bytes × Reader × Streams :=
  reader.readUpTo ((streams.delivery reader).bytes.length + 1) streams

end Reader

end StreamHttp
