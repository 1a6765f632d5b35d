import StreamHttp.Text.Pieces

/-!
The command line. Arguments are taken in turn, so of a request for help and a mistake the one that
stands first decides. An option that needs a value takes it from behind an equals sign or from the
next argument, which must not look like an option.
-/

namespace StreamHttp

structure CommandLine where
  settingsFile : Option String := none
  /-- Serve over standard input and output even where there is a socket. -/
  standardStreams : Bool := false
  logLevel : Option String := none
  deriving DecidableEq, Repr

namespace CommandLine

inductive UsageError where
  | unexpected (argument : String)
  | missingValue (name : String)
  | unwantedValue (name : String)
  | repeated (name : String)
  deriving DecidableEq, Repr

def UsageError.message : UsageError → String
  | .unexpected argument => "unexpected argument '" ++ argument ++ "' found"
  | .missingValue name => "a value is required for '" ++ name ++ "' but none was supplied"
  | .unwantedValue name => "unexpected value for '" ++ name ++ "' found; no more were expected"
  | .repeated name => "the argument '" ++ name ++ "' cannot be used multiple times"

inductive Halt where
  | help
  | version
  | usage (error : UsageError)
  deriving DecidableEq, Repr

inductive Valued where
  | settingsFile
  | logLevel
  deriving DecidableEq, Repr

def Valued.shown : Valued → String
  | .settingsFile => "--config <CONFIG>"
  | .logLevel => "--log-level <LOG_LEVEL>"

inductive Word where
  | valued (option : Valued) (value : Option String)
  | standardStreams
  | halt (reason : Halt)
  | terminator

def longOption (name : String) (value : Option String) : Word :=
  let withoutValue (word : Word) : Word :=
    match value with
    | none => word
    | some _ => .halt (.usage (.unwantedValue ("--" ++ name)))
  match name with
  | "config" => .valued .settingsFile value
  | "log-level" => .valued .logLevel value
  | "stdio" => withoutValue .standardStreams
  | "help" => withoutValue (.halt .help)
  | "version" => withoutValue (.halt .version)
  | _ => .halt (.usage (.unexpected ("--" ++ name)))

def attached : List Char → Option String
  | [] => none
  | '=' :: value => some (String.ofList value)
  | value => some (String.ofList value)

def word (argument : String) : Word :=
  match argument.toList with
  | ['-', '-'] => .terminator
  | '-' :: '-' :: content =>
      let name := String.ofList (content.takeWhile (· != '='))
      match content.dropWhile (· != '=') with
      | [] => longOption name none
      | _ :: value => longOption name (some (String.ofList value))
  | '-' :: 'c' :: content => .valued .settingsFile (attached content)
  | '-' :: 'h' :: _ => .halt .help
  | '-' :: 'V' :: _ => .halt .version
  | _ => .halt (.usage (.unexpected argument))

/-- A dash alone is a value, and so is everything without a dash in front. -/
def isValue (argument : String) : Bool :=
  match argument.toList with
  | '-' :: _ :: _ => false
  | _ => true

def give (line : CommandLine) (option : Valued) (value : String) : Except Halt CommandLine :=
  match option with
  | .settingsFile =>
      if line.settingsFile.isSome then .error (.usage (.repeated option.shown))
      else if value.isEmpty then .error (.usage (.missingValue option.shown))
      else .ok { line with settingsFile := some value }
  | .logLevel =>
      if line.logLevel.isSome then .error (.usage (.repeated option.shown))
      else .ok { line with logLevel := some value }

def readOnto (line : CommandLine) : List String → Except Halt CommandLine
  | [] => .ok line
  | argument :: rest =>
      match word argument with
      | .terminator =>
          match rest with
          | [] => .ok line
          | extra :: _ => .error (.usage (.unexpected extra))
      | .halt reason => .error reason
      | .standardStreams =>
          if line.standardStreams then .error (.usage (.repeated "--stdio"))
          else readOnto { line with standardStreams := true } rest
      | .valued option (some value) =>
          match line.give option value with
          | .error reason => .error reason
          | .ok line => readOnto line rest
      | .valued option none =>
          match rest with
          | [] => .error (.usage (.missingValue option.shown))
          | value :: rest =>
              if isValue value then
                match line.give option value with
                | .error reason => .error reason
                | .ok line => readOnto line rest
              else .error (.usage (.missingValue option.shown))

def read (arguments : List String) : Except Halt CommandLine := readOnto {} arguments

def programName : String := "serverless-dispatch"

def versionText : String := programName ++ " 0.1.0\n"

def optionTexts : List (String × String) :=
  [("  -c, --config <CONFIG>", "Configuration file (TOML). Defaults apply when omitted"),
    ("      --stdio", "Always use stdin/stdout, even when fd 0 is a socket"),
    ("      --log-level <LOG_LEVEL>", "Override the configured log level"),
    ("  -h, --help", "Print help"),
    ("  -V, --version", "Print version")]

/-- The descriptions start in one column, two blanks behind the longest option. -/
def helpText : String :=
  let column := 2 + (optionTexts.map fun option => option.1.length).foldl max 0
  let lines := optionTexts.map fun option =>
    option.1 ++ String.ofList (List.replicate (column - option.1.length) ' ') ++ option.2 ++ "\n"
  "Usage: " ++ programName ++ " [OPTIONS]\n\nOptions:\n" ++ String.join lines

end CommandLine

end StreamHttp
