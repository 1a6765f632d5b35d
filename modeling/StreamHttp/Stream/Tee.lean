import StreamHttp.Stream.Delivery

/-!
One source read by two sides. The side that is ahead pulls a chunk from the source, and the chunk is
held until the other side has passed it. The end of the source, and its failure, are remembered, so
that the source is not read again behind them and both sides see the same.
-/

namespace StreamHttp

inductive Side where
  | left
  | right
  deriving DecidableEq, Repr

/-- How a source came to its end. A failure is what its reads were answered in place of bytes: a
text, or whatever else there is to know about it. -/
inductive Ending (ε : Type := String) where
  | finished
  | failed (failure : ε)
  deriving DecidableEq, Repr

/-- Where a side stands: the number of the next chunk, counted from the beginning of the source, and
what is left of the chunk before it. -/
structure Place where
  chunk : Nat := 0
  current : Bytes := []
  deriving DecidableEq, Repr

/-- A side that was dropped has no place. -/
structure Tee (σ : Type) (ε : Type := String) where
  source : σ
  held : List Bytes := []
  /-- The number of the first chunk that is held. -/
  base : Nat := 0
  left : Option Place := some {}
  right : Option Place := some {}
  ending : Option (Ending ε) := none

namespace Tee

variable {σ ρ ε : Type}

def chunkSize : Nat := 8192

def place (tee : Tee σ ε) : Side → Option Place
  | .left => tee.left
  | .right => tee.right

def setPlace (tee : Tee σ ε) (side : Side) (place : Option Place) : Tee σ ε :=
  match side with
  | .left => { tee with left := place }
  | .right => { tee with right := place }

/-- The next chunk of the slowest side; behind all chunks when both were dropped. -/
def slowest (tee : Tee σ ε) : Nat :=
  match tee.left, tee.right with
  | some first, some second => min first.chunk second.chunk
  | some first, none => first.chunk
  | none, some second => second.chunk
  | none, none => tee.base + tee.held.length

def trim (tee : Tee σ ε) : Tee σ ε :=
  let passed := min (tee.slowest - tee.base) tee.held.length
  { tee with held := tee.held.drop passed, base := tee.base + passed }

def drop (tee : Tee σ ε) (side : Side) : Tee σ ε := (tee.setPlace side none).trim

/-- The chunk of a number, or nothing behind the end: a held one, or a new one from the source.
`around` is what the source's reads change besides the source. -/
def fetch (pull : σ → ρ → Except ε Bytes × σ × ρ) (number : Nat) (tee : Tee σ ε) (around : ρ) :
    Except ε Bytes × Tee σ ε × ρ :=
  match tee.held[number - tee.base]? with
  | some chunk => (.ok chunk, tee, around)
  | none =>
      match tee.ending with
      | some (.failed failure) => (.error failure, tee, around)
      | some .finished => (.ok [], tee, around)
      | none =>
          match pull tee.source around with
          | (.error failure, source, around) =>
              (.error failure, { tee with source, ending := some (.failed failure) }, around)
          | (.ok [], source, around) =>
              (.ok [], { tee with source, ending := some .finished }, around)
          | (.ok (byte :: rest), source, around) =>
              (.ok (byte :: rest), { tee with source, held := tee.held ++ [byte :: rest] }, around)

/-- One read by a side: of the chunk it has begun, or of the next one. -/
def read (pull : σ → ρ → Except ε Bytes × σ × ρ) (count : Nat) (side : Side) (tee : Tee σ ε)
    (around : ρ) : Except ε Bytes × Tee σ ε × ρ :=
  match tee.place side with
  | none => (.ok [], tee, around)
  | some ⟨number, []⟩ =>
      match tee.fetch pull number around with
      | (.ok [], tee, around) => (.ok [], tee, around)
      | (.ok (byte :: rest), tee, around) =>
          (.ok ((byte :: rest).take count),
            (tee.setPlace side (some ⟨number + 1, (byte :: rest).drop count⟩)).trim, around)
      | (.error failure, tee, around) => (.error failure, tee, around)
  | some ⟨number, byte :: rest⟩ =>
      (.ok ((byte :: rest).take count),
        tee.setPlace side (some ⟨number, (byte :: rest).drop count⟩), around)

def storeFrom (rest : Delivery) (number : Nat) (tee : Tee σ) : Delivery :=
  let behind := match tee.ending with
    | none => rest
    | some .finished => .finished
    | some (.failed message) => { failure := some message }
  behind.behind (tee.held.drop (number - tee.base)).flatten

/-- What a side has in store, given what the source has. -/
def delivery (rest : Delivery) (side : Side) (tee : Tee σ) : Delivery :=
  match tee.place side with
  | none => .finished
  | some place => (tee.storeFrom rest place.chunk).behind place.current

end Tee

end StreamHttp
