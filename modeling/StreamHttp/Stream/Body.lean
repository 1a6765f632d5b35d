import StreamHttp.Stream.Reader
import StreamHttp.Text.Annotated
import StreamHttp.Text.Numeral

/-!
Message bodies. The bytes of a body can be claimed once: as a stream, by splitting it, by moving it
away, or by discarding it. Buffering claims it too, and from then on gives the same bytes again.
-/

namespace StreamHttp

inductive BodyError where
  | alreadyClaimed
  | tooLarge (limit : Nat)
  | failed (message : String)
  deriving DecidableEq, Repr

def BodyError.message : BodyError → String
  | .alreadyClaimed => "body already claimed"
  | .tooLarge limit => "body exceeds the " ++ toString limit ++ " byte limit"
  | .failed message => "body read failed: " ++ message

inductive Claim where
  | unclaimed (reader : Reader)
  | buffered (bytes : Bytes)
  | claimed

structure Body where
  claim : Claim
  /-- The number of bytes that were announced, if one was. -/
  expected : Option Nat := none

namespace Body

def ofBytes (bytes : Bytes) : Body :=
  { claim := .unclaimed (.own (Source.ofBytes bytes)), expected := some bytes.length }

def empty : Body := ofBytes []

def ofReader (reader : Reader) (expected : Option Nat) : Body :=
  { claim := .unclaimed reader, expected }

def isClaimed (body : Body) : Bool :=
  match body.claim with
  | .unclaimed _ => false
  | _ => true

def claimStream (body : Body) : Except BodyError Reader × Body :=
  match body.claim with
  | .unclaimed reader => (.ok reader, { body with claim := .claimed })
  | _ => (.error .alreadyClaimed, body)

/-- What buffering asks too much of: room for the bytes that were announced, as far as the limit
lets them in, or one byte more than the limit. -/
def fault? (limit : Nat) (body : Body) : Option Fault :=
  (Fault.ofRoom? (min (body.expected.getD 0) limit)).or (Fault.ofSuccessor? limit)

theorem fault_none {limit : Nat} {body : Body} :
    body.fault? limit = none ↔
      min (body.expected.getD 0) limit ≤ Fault.mostRoom ∧ limit < u64Max := by
  rw [fault?, Option.or_eq_none_iff, Fault.of_room_none, Fault.of_successor_none]

/-- Reads everything into memory, unless it is more than `limit` bytes. -/
def buffer (limit : Nat) (body : Body) (streams : Streams) :
    Except BodyError Bytes × Body × Streams :=
  match body.claim with
  | .buffered bytes => (.ok bytes, body, streams)
  | .claimed =>
      if body.expected.any (limit < ·) then (.error (.tooLarge limit), body, streams)
      else (.error .alreadyClaimed, body, streams)
  | .unclaimed reader =>
      if body.expected.any (limit < ·) then (.error (.tooLarge limit), body, streams)
      else
        match body.fault? limit with
        | some fault =>
            (.error (.failed fault.message), { body with claim := .claimed }, streams.fail fault)
        | none =>
            match reader.readUpTo (limit + 1) streams with
            | (.error message, _, streams) =>
                (.error (.failed message), { body with claim := .claimed }, streams)
            | (.ok bytes, _, streams) =>
                if limit < bytes.length then
                  (.error (.tooLarge limit), { body with claim := .claimed }, streams)
                else (.ok bytes, { body with claim := .buffered bytes }, streams)

def split (body : Body) (streams : Streams) : Except BodyError (Body × Body) × Body × Streams :=
  match body.claimStream with
  | (.error error, body) => (.error error, body, streams)
  | (.ok reader, body) =>
      let (left, right, streams) := streams.split reader
      (.ok (ofReader left body.expected, ofReader right body.expected), body, streams)

/-- Moves the unread bytes into a body of their own. -/
def take (body : Body) : Except BodyError Body × Body :=
  match body.claimStream with
  | (.error error, body) => (.error error, body)
  | (.ok reader, body) => (.ok (ofReader reader body.expected), body)

/-- Discards the bytes of a body that nobody claimed, and counts them. -/
def release (body : Body) (streams : Streams) : Except BodyError Nat × Body × Streams :=
  match body.claim with
  | .unclaimed reader =>
      let (result, _, streams) := reader.readToEnd streams
      ((result.map List.length).mapError .failed, { body with claim := .claimed }, streams)
  | _ => (.ok 0, body, streams)

def annotated (body : Body) : String :=
  let state := match body.claim with
    | .unclaimed _ => "unclaimed"
    | .buffered _ => "buffered"
    | .claimed => "claimed"
  Annotated.record "ByteBody"
    [("state", quoted state), ("expected_length", Annotated.option toString body.expected)]

end Body

end StreamHttp
