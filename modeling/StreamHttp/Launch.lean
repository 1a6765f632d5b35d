import StreamHttp.CommandLine
import StreamHttp.Demo
import StreamHttp.Settings.Basic

/-!
A run of the program: from the command line, the settings file and the input to what is written and
how the program ends. Nothing is written before the settings are known to be good.
-/

namespace StreamHttp

structure Surroundings where
  /-- The content of a file, or why it cannot be read. -/
  file : String → Except String String
  input : Source
  /-- Whether the input is a socket, which answers can go back over. -/
  isSocket : Bool := false
  ids : Nat → String

structure Exit where
  code : Nat
  output : Bytes := []
  /-- What goes back over the socket that is the input. -/
  reply : Bytes := []
  /-- Why the program ends, where it could not do its work. -/
  complaint : Option String := none
  deriving DecidableEq, Repr

namespace Launch

def settings (line : CommandLine) (surroundings : Surroundings) :
    Except SettingsError Settings := do
  let settings ← match line.settingsFile with
    | none => pure {}
    | some path => Settings.ofFile path (surroundings.file path)
  if line.standardStreams then
    return { settings with framing := { settings.framing with useInheritedChannel := false } }
  else return settings

def serve (table : RouteTable Unit) (settings : Settings) (surroundings : Surroundings) : Exit :=
  let ended :=
    Loop.serve (Engine.ofTable table Codecs.standard [] settings.dispatch)
      { inputBufferSize := settings.framing.inputBufferSize } surroundings.ids
      { session := Session.ofSource surroundings.input
        outputBuffer := settings.framing.outputBufferSize
        app := () }
  let (code, complaint) : Nat × Option String :=
    match ended.outcome with
    | .error fault => (101, some fault.message)
    | .ok (.ok _) => (0, none)
    | .ok (.error error) => (1, some error.message)
  if settings.framing.useInheritedChannel && surroundings.isSocket then
    { code, reply := ended.sink.written, complaint }
  else { code, output := ended.sink.written, complaint }

def halt : CommandLine.Halt → Exit
  | .help => { code := 0, output := Bytes.ofString CommandLine.helpText }
  | .version => { code := 0, output := Bytes.ofString CommandLine.versionText }
  | .usage error => { code := 2, complaint := some error.message }

def run (arguments : List String) (surroundings : Surroundings) : Exit :=
  match CommandLine.read arguments with
  | .error reason => halt reason
  | .ok line =>
      match settings line surroundings, Demo.table with
      | .error error, _ => { code := 1, complaint := some error.message }
      | .ok _, .error error => { code := 1, complaint := some error.message }
      | .ok settings, .ok table => serve table settings surroundings

end Launch

end StreamHttp
