import StreamHttp.Exchange.Engine
import StreamHttp.Serve.Loop
import StreamHttp.Toml.Document

/-!
The settings of a served application, read from a TOML document. What the document leaves out has
its default, a name that is not known is passed over, and a value of the wrong type is refused. All
values out of range are reported together.
-/

namespace StreamHttp

structure FramingSettings where
  inputBufferSize : Nat := 8192
  outputBufferSize : Nat := 8192
  /-- Serve over the socket that the process was started with, if there is one. -/
  useInheritedChannel : Bool := true
  deriving DecidableEq, Repr

structure LogSettings where
  level : String := "info"
  ansi : Bool := false
  deriving DecidableEq, Repr

structure Settings where
  framing : FramingSettings := {}
  dispatch : DispatchSettings := {}
  log : LogSettings := {}
  deriving DecidableEq, Repr

structure SettingProblem where
  field : String
  message : String
  deriving DecidableEq, Repr

inductive SettingsError where
  | unreadable (path reason : String)
  | malformed
  | invalid (problems : List SettingProblem)
  deriving DecidableEq, Repr

namespace SettingsError

/-- The text of a malformed document is not described. -/
def message : SettingsError → String
  | .unreadable path reason => "cannot read " ++ path ++ ": " ++ reason
  | .malformed => ""
  | .invalid problems =>
      "validation failed: "
        ++ ", ".intercalate (problems.map fun problem => problem.field ++ ": " ++ problem.message)

end SettingsError

namespace Settings

open Toml

/-- The values of the fields of a record. They are named in a table, or listed in order. -/
def fieldValues (names : List String) : Value → Option (List (Option Value))
  | .table _ entries => some (names.map fun name => valueAt? name entries)
  | .inlineTable _ entries => some (names.map fun name => valueAt? name entries)
  | .list items => some (names.zipIdx.map fun name => items[name.2]?)
  | .tables items => some (names.zipIdx.map fun name => items.reverse[name.2]?)
  | .scalar .datetime => some (names.map fun _ => none)
  | .scalar _ => none

def natural (otherwise : Nat) : Option Value → Option Nat
  | none => some otherwise
  | some (.scalar (.integer value)) => if value < 0 then none else some value.toNat
  | some _ => none

def boolean (otherwise : Bool) : Option Value → Option Bool
  | none => some otherwise
  | some (.scalar (.boolean value)) => some value
  | some _ => none

def string (otherwise : String) : Option Value → Option String
  | none => some otherwise
  | some (.scalar (.string content)) => some content
  | some _ => none

def framingOf : Option Value → Option FramingSettings
  | none => some {}
  | some value => do
      let names := ["input_buffer_size", "output_buffer_size", "use_inherited_channel"]
      match ← fieldValues names value with
      | [input, output, inherited] =>
          let default : FramingSettings := {}
          some
            { inputBufferSize := ← natural default.inputBufferSize input
              outputBufferSize := ← natural default.outputBufferSize output
              useInheritedChannel := ← boolean default.useInheritedChannel inherited }
      | _ => none

def dispatchOf : Option Value → Option DispatchSettings
  | none => some {}
  | some value => do
      match ← fieldValues ["max_buffered_body", "default_charset"] value with
      | [body, charset] =>
          let default : DispatchSettings := {}
          some
            { maxBufferedBody := ← natural default.maxBufferedBody body
              defaultCharset := ← string default.defaultCharset charset }
      | _ => none

def logOf : Option Value → Option LogSettings
  | none => some {}
  | some value => do
      match ← fieldValues ["log_level", "ansi"] value with
      | [level, ansi] =>
          let default : LogSettings := {}
          some { level := ← string default.level level, ansi := ← boolean default.ansi ansi }
      | _ => none

def ofEntries (entries : Entries) : Option Settings := do
  some
    { framing := ← framingOf (valueAt? "framing" entries)
      dispatch := ← dispatchOf (valueAt? "dispatch" entries)
      log := ← logOf (valueAt? "observability" entries) }

def leastBufferSize : Nat := 64

def logLevels : List String := ["trace", "debug", "info", "warn", "error"]

def plainLevel (filter : String) : String :=
  Text.trim (((Text.piecesOf ',' filter).find? fun part => !Text.contains "=" part).getD "info")

def problems (settings : Settings) : List SettingProblem :=
  let level := plainLevel settings.log.level
  let charset := settings.dispatch.defaultCharset
  [(decide (settings.framing.inputBufferSize < leastBufferSize),
      SettingProblem.mk "framing.input_buffer_size"
        ("must be at least " ++ toString leastBufferSize)),
    (settings.framing.outputBufferSize == 0,
      ⟨"framing.output_buffer_size", "must be greater than 0"⟩),
    (settings.dispatch.maxBufferedBody == 0,
      ⟨"dispatch.max_buffered_body", "must be greater than 0"⟩),
    (!Text.sameIgnoringCase charset "utf-8" && !Text.sameIgnoringCase charset "utf8",
      ⟨"dispatch.default_charset", "unsupported charset " ++ quoted charset⟩),
    (!logLevels.contains (Text.asciiLower level),
      ⟨"observability.log_level", "unknown level " ++ quoted level⟩)].filterMap
    fun check => if check.1 then some check.2 else none

def parse (text : String) : Except SettingsError Settings :=
  match (Toml.parse? text).bind ofEntries with
  | none => .error .malformed
  | some settings =>
      match settings.problems with
      | [] => .ok settings
      | problems => .error (.invalid problems)

def ofFile (path : String) (content : Except String String) : Except SettingsError Settings :=
  match content with
  | .ok text => parse text
  | .error reason => .error (.unreadable path reason)

end Settings

end StreamHttp
