/-!
Stop requests. A stop is asked for once, by raising a flag and then signalling the receivers that
listen. Who subscribes behind a raised flag gets a receiver that is signalled already and that
nothing further will reach.
-/

namespace StreamHttp

inductive Receiver where
  | listening (signalled : Bool)
  | late (signalled : Bool)
  | dropped
  deriving DecidableEq, Repr

namespace Receiver

def signal : Receiver → Receiver
  | .listening _ => .listening true
  | receiver => receiver

def isReady : Receiver → Bool
  | .listening signalled => signalled
  | .late _ => true
  | .dropped => false

def isListening : Receiver → Bool
  | .listening _ => true
  | _ => false

end Receiver

inductive Reception where
  | signal
  | empty
  | closed
  | dropped
  deriving DecidableEq, Repr

def Receiver.receive : Receiver → Reception × Receiver
  | .listening true => (.signal, .listening false)
  | .listening false => (.empty, .listening false)
  | .late true => (.signal, .late false)
  | .late false => (.closed, .late false)
  | .dropped => (.dropped, .dropped)

/-- The flag, and the receivers handed out, by number. -/
structure Shutdown where
  triggered : Bool := false
  receivers : List Receiver := []
  deriving DecidableEq, Repr

namespace Shutdown

/-- Raises the flag, and tells whether it was down. -/
def raise (shutdown : Shutdown) : Bool × Shutdown :=
  (!shutdown.triggered, { shutdown with triggered := true })

def send (shutdown : Shutdown) : Shutdown :=
  { shutdown with receivers := shutdown.receivers.map Receiver.signal }

def trigger (shutdown : Shutdown) : Bool × Shutdown :=
  match shutdown.raise with
  | (true, shutdown) => (true, shutdown.send)
  | (false, shutdown) => (false, shutdown)

/-- A new receiver, for someone who saw the flag up or down. -/
def obtain (raised : Bool) (shutdown : Shutdown) : Nat × Shutdown :=
  (shutdown.receivers.length,
    { shutdown with
      receivers := shutdown.receivers ++ [if raised then .late true else .listening false] })

def subscribe (shutdown : Shutdown) : Nat × Shutdown := shutdown.obtain shutdown.triggered

def listeners (shutdown : Shutdown) : Nat := shutdown.receivers.countP Receiver.isListening

def isReady (shutdown : Shutdown) (number : Nat) : Bool :=
  (shutdown.receivers[number]?).any Receiver.isReady

def receive (shutdown : Shutdown) (number : Nat) : Reception × Shutdown :=
  match shutdown.receivers[number]? with
  | none => (.dropped, shutdown)
  | some receiver =>
      let (reception, receiver) := receiver.receive
      (reception, { shutdown with receivers := shutdown.receivers.set number receiver })

def drop (shutdown : Shutdown) (number : Nat) : Bool × Shutdown :=
  match shutdown.receivers[number]? with
  | none => (false, shutdown)
  | some .dropped => (false, shutdown)
  | some _ => (true, { shutdown with receivers := shutdown.receivers.set number .dropped })

theorem trigger_trigger (shutdown : Shutdown) :
    shutdown.trigger.2.trigger = (false, shutdown.trigger.2) := by
  rcases shutdown with ⟨triggered, receivers⟩
  cases triggered <;> rfl

end Shutdown

end StreamHttp
