import StreamHttp.Stream.Body

/-!
What filters and handlers do, as data. A program looks at its workspace, changes it, or consumes a
body; it sees the shared streams only through bodies and readers. It may put off the rest of its
work: what is put off is taken up in a further round, and so on until there is a result.
-/

namespace StreamHttp

inductive Program (ω ρ : Type) where
  | done (result : ρ)
  | look (next : ω → Program ω ρ)
  | change (step : ω → ω) (rest : Program ω ρ)
  | later (rest : Program ω ρ)
  | buffer (limit : Nat) (body : Body) (next : Except BodyError Bytes → Body → Program ω ρ)
  /-- Reads until the reader ends or has delivered `allowance` bytes. -/
  | read (allowance : Nat) (reader : Reader) (next : Except String Bytes → Reader → Program ω ρ)
  /-- One read of at most `count` bytes, which may give fewer than there are. -/
  | receive (count : Nat) (reader : Reader) (next : Except String Bytes → Reader → Program ω ρ)
  | drop (reader : Reader) (rest : Program ω ρ)
  | split (body : Body) (next : Except BodyError (Body × Body) → Body → Program ω ρ)
  | release (body : Body) (next : Except BodyError Nat → Body → Program ω ρ)

/-- A program at the end of a round: it is done, or the rest of it is put off. -/
inductive Round (ω ρ : Type) where
  | over (result : ρ)
  | putOff (rest : Program ω ρ)

namespace Program

variable {ω ρ τ : Type}

def bind (program : Program ω ρ) (continuation : ρ → Program ω τ) : Program ω τ :=
  match program with
  | .done result => continuation result
  | .look next => .look fun workspace => (next workspace).bind continuation
  | .change step rest => .change step (rest.bind continuation)
  | .later rest => .later (rest.bind continuation)
  | .buffer limit body next =>
      .buffer limit body fun result body => (next result body).bind continuation
  | .read allowance reader next =>
      .read allowance reader fun result reader => (next result reader).bind continuation
  | .receive count reader next =>
      .receive count reader fun result reader => (next result reader).bind continuation
  | .drop reader rest => .drop reader (rest.bind continuation)
  | .split body next => .split body fun result body => (next result body).bind continuation
  | .release body next => .release body fun result body => (next result body).bind continuation

instance : Monad (Program ω) where
  pure := .done
  bind := bind

def get : Program ω ω := .look .done

def modify (step : ω → ω) : Program ω Unit := .change step (.done ())

def bufferBody (limit : Nat) (body : Body) : Program ω (Except BodyError Bytes × Body) :=
  .buffer limit body fun result body => .done (result, body)

def readUpTo (allowance : Nat) (reader : Reader) : Program ω (Except String Bytes × Reader) :=
  .read allowance reader fun result reader => .done (result, reader)

def splitBody (body : Body) : Program ω (Except BodyError (Body × Body) × Body) :=
  .split body fun result body => .done (result, body)

def releaseBody (body : Body) : Program ω (Except BodyError Nat × Body) :=
  .release body fun result body => .done (result, body)

/-- Runs a program straight through, what it puts off included. -/
def run : Program ω ρ → ω → Streams → ρ × ω × Streams
  | .done result, workspace, streams => (result, workspace, streams)
  | .look next, workspace, streams => (next workspace).run workspace streams
  | .change step rest, workspace, streams => rest.run (step workspace) streams
  | .later rest, workspace, streams => rest.run workspace streams
  | .buffer limit body next, workspace, streams =>
      let (result, body, streams) := body.buffer limit streams
      (next result body).run workspace streams
  | .read allowance reader next, workspace, streams =>
      let (result, reader, streams) := reader.readUpTo allowance streams
      (next result reader).run workspace streams
  | .receive count reader next, workspace, streams =>
      let (result, reader, streams) := reader.read count streams
      (next result reader).run workspace streams
  | .drop reader rest, workspace, streams => rest.run workspace (streams.drop reader)
  | .split body next, workspace, streams =>
      let (result, body, streams) := body.split streams
      (next result body).run workspace streams
  | .release body next, workspace, streams =>
      let (result, body, streams) := body.release streams
      (next result body).run workspace streams

/-- Runs a program up to where it puts off the rest. -/
def round : Program ω ρ → ω → Streams → Round ω ρ × ω × Streams
  | .done result, workspace, streams => (.over result, workspace, streams)
  | .look next, workspace, streams => (next workspace).round workspace streams
  | .change step rest, workspace, streams => rest.round (step workspace) streams
  | .later rest, workspace, streams => (.putOff rest, workspace, streams)
  | .buffer limit body next, workspace, streams =>
      let (result, body, streams) := body.buffer limit streams
      (next result body).round workspace streams
  | .read allowance reader next, workspace, streams =>
      let (result, reader, streams) := reader.readUpTo allowance streams
      (next result reader).round workspace streams
  | .receive count reader next, workspace, streams =>
      let (result, reader, streams) := reader.read count streams
      (next result reader).round workspace streams
  | .drop reader rest, workspace, streams => rest.round workspace (streams.drop reader)
  | .split body next, workspace, streams =>
      let (result, body, streams) := body.split streams
      (next result body).round workspace streams
  | .release body next, workspace, streams =>
      let (result, body, streams) := body.release streams
      (next result body).round workspace streams

/-- How often a run of a program puts off the rest. -/
def delays : Program ω ρ → ω → Streams → Nat
  | .done _, _, _ => 0
  | .look next, workspace, streams => (next workspace).delays workspace streams
  | .change step rest, workspace, streams => rest.delays (step workspace) streams
  | .later rest, workspace, streams => rest.delays workspace streams + 1
  | .buffer limit body next, workspace, streams =>
      let (result, body, streams) := body.buffer limit streams
      (next result body).delays workspace streams
  | .read allowance reader next, workspace, streams =>
      let (result, reader, streams) := reader.readUpTo allowance streams
      (next result reader).delays workspace streams
  | .receive count reader next, workspace, streams =>
      let (result, reader, streams) := reader.read count streams
      (next result reader).delays workspace streams
  | .drop reader rest, workspace, streams => rest.delays workspace (streams.drop reader)
  | .split body next, workspace, streams =>
      let (result, body, streams) := body.split streams
      (next result body).delays workspace streams
  | .release body next, workspace, streams =>
      let (result, body, streams) := body.release streams
      (next result body).delays workspace streams

theorem delays_round {program rest : Program ω ρ} {workspace after : ω} {streams left : Streams}
    (ended : program.round workspace streams = (.putOff rest, after, left)) :
    rest.delays after left < program.delays workspace streams := by
  induction program generalizing workspace streams with
  | done result => cases ended
  | later rest =>
      cases ended
      exact Nat.lt_succ_self _
  | look next induction => exact induction _ ended
  | change step rest induction => exact induction ended
  | buffer limit body next induction => exact induction _ _ ended
  | read allowance reader next induction => exact induction _ _ ended
  | receive count reader next induction => exact induction _ _ ended
  | drop reader rest induction => exact induction ended
  | split body next induction => exact induction _ _ ended
  | release body next induction => exact induction _ _ ended

/-- Takes up what a program puts off, round after round, until there is a result. -/
@[semireducible]
def interpret (program : Program ω ρ) (workspace : ω) (streams : Streams) : ρ × ω × Streams :=
  match _ended : program.round workspace streams with
  | (.over result, workspace, streams) => (result, workspace, streams)
  | (.putOff rest, workspace, streams) => rest.interpret workspace streams
termination_by program.delays workspace streams
decreasing_by exact delays_round _ended

theorem run_round (program : Program ω ρ) (workspace : ω) (streams : Streams) :
    program.run workspace streams =
      match program.round workspace streams with
      | (.over result, workspace, streams) => (result, workspace, streams)
      | (.putOff rest, workspace, streams) => rest.run workspace streams := by
  induction program generalizing workspace streams with
  | done result => rfl
  | later rest => rfl
  | look next induction => exact induction workspace workspace streams
  | change step rest induction => exact induction (step workspace) streams
  | buffer limit body next induction => exact induction _ _ workspace _
  | read allowance reader next induction => exact induction _ _ workspace _
  | receive count reader next induction => exact induction _ _ workspace _
  | drop reader rest induction => exact induction workspace _
  | split body next induction => exact induction _ _ workspace _
  | release body next induction => exact induction _ _ workspace _

/-- Round after round comes to what straight through comes to. -/
theorem interpret_eq_run (program : Program ω ρ) (workspace : ω) (streams : Streams) :
    program.interpret workspace streams = program.run workspace streams := by
  fun_induction interpret program workspace streams with
  | case1 program workspace streams result left after ended => rw [run_round, ended]
  | case2 program workspace streams rest left after ended induction =>
      rw [run_round, ended, induction]

theorem run_bind (program : Program ω ρ) (continuation : ρ → Program ω τ) (workspace : ω)
    (streams : Streams) :
    (program.bind continuation).run workspace streams =
      let (result, workspace, streams) := program.run workspace streams
      (continuation result).run workspace streams := by
  induction program generalizing workspace streams with
  | done result => rfl
  | look next induction => simp only [bind, run, induction]
  | change step rest induction => simp only [bind, run, induction]
  | later rest induction => simp only [bind, run, induction]
  | buffer limit body next induction => simp only [bind, run, induction]
  | read allowance reader next induction => simp only [bind, run, induction]
  | receive count reader next induction => simp only [bind, run, induction]
  | drop reader rest induction => simp only [bind, run, induction]
  | split body next induction => simp only [bind, run, induction]
  | release body next induction => simp only [bind, run, induction]

end Program

end StreamHttp
