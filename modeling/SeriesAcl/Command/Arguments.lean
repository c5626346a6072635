import SeriesAcl.Access.Template
import SeriesAcl.Settings.Config

/-!
# Command line arguments

The commands and how they are read from arguments. Flags may stand anywhere among the words of the
command; a flag with a value takes the next argument, whatever it is, and of a repeated one the last
value counts. A request for help ends the reading. See `SPEC_FULL.md`, section 10.4.
-/

namespace SeriesAcl

/-- What to do (`SPEC_FULL.md` 10.4). -/
inductive Command where
  | templates
  | show (series : String)
  | apply (series template : String) (flags : Flags) (overrideEvents : Bool)
  | roles (search : Option String)
  | help
  deriving DecidableEq, Repr

/-- A command with the settings given beside it. -/
structure Invocation where
  command : Command
  overrides : ConfigLayer
  deriving DecidableEq, Repr

namespace Arguments

/-- The flags that take a value. -/
inductive Setting where
  | url
  | user
  | password
  | timeout
  deriving DecidableEq, Repr

/-- The setting of a flag. -/
def Setting.ofFlag? (arg : String) : Option Setting :=
  if arg = "--url" then some .url
  else if arg = "--user" then some .user
  else if arg = "--password" then some .password
  else if arg = "--timeout-ms" then some .timeout
  else none

/-- The settings with one of them set. -/
def Setting.set (setting : Setting) (value : String) (l : ConfigLayer) :
    Except Error ConfigLayer :=
  match setting with
  | .url => .ok { l with baseUrl := some value }
  | .user => .ok { l with user := some value }
  | .password => .ok { l with password := some value }
  | .timeout =>
    match Text.readUnsigned value with
    | .ok n => .ok { l with timeoutMs := some n }
    | .error fault => .error (Error.invalidValue "--timeout-ms" value fault.message)

/-- The flags without a value. -/
inductive Switch where
  | download
  | annotate
  | override
  deriving DecidableEq, Repr

/-- The switch of a flag. -/
def Switch.ofFlag? (arg : String) : Option Switch :=
  if arg = "--download" then some .download
  else if arg = "--annotate" then some .annotate
  else if arg = "--override" then some .override
  else none

/-- What has been read so far. -/
structure Seen where
  overrides : ConfigLayer
  words : List String
  flags : Flags
  overrideEvents : Bool
  deriving DecidableEq, Repr

/-- Nothing has been read. -/
def Seen.empty : Seen := ⟨ConfigLayer.empty, [], Flags.none, false⟩

/-- What has been read, with a switch on. -/
def Switch.turnOn (switch : Switch) (seen : Seen) : Seen :=
  match switch with
  | .download => { seen with flags := { seen.flags with download := true } }
  | .annotate => { seen with flags := { seen.flags with annotate := true } }
  | .override => { seen with overrideEvents := true }

/-- Whether an argument asks for help. -/
def asksHelp (arg : String) : Bool :=
  arg == "-h" || arg == "--help"

/-- Read arguments: whether help was asked for, and what was read up to there. -/
def scan (seen : Seen) : List String → Except Error (Bool × Seen)
  | [] => .ok (false, seen)
  | arg :: rest =>
    match Setting.ofFlag? arg with
    | some setting =>
      match rest with
      | [] => .error (Error.missingValue arg)
      | value :: rest =>
        match setting.set value seen.overrides with
        | .error e => .error e
        | .ok overrides => scan { seen with overrides := overrides } rest
    | none =>
      match Switch.ofFlag? arg with
      | some switch => scan (switch.turnOn seen) rest
      | none =>
        if asksHelp arg then .ok (true, seen)
        else if Text.startsWith "--" arg then .error (Error.unknownFlag arg)
        else scan { seen with words := seen.words ++ [arg] } rest

/-- A command when nothing follows its words. -/
def ended (command : Command) : List String → Except Error Command
  | [] => .ok command
  | extra :: _ => .error (Error.unexpectedArgument extra)

/-- The command that the words spell. -/
def command (flags : Flags) (overrideEvents : Bool) : List String → Except Error Command
  | [] => .ok .help
  | "templates" :: rest => ended .templates rest
  | "show" :: rest =>
    match rest with
    | [] => .error (Error.missingArgument "show needs a series id")
    | series :: rest => ended (.show series) rest
  | "apply" :: rest =>
    match rest with
    | [] => .error (Error.missingArgument "apply needs a series id")
    | [_] => .error (Error.missingArgument "apply needs a template key")
    | series :: template :: rest => ended (.apply series template flags overrideEvents) rest
  | "roles" :: rest =>
    match rest with
    | [] => .ok (.roles none)
    | search :: rest => ended (.roles (some search)) rest
  | other :: _ => .error (Error.unknownCommand other)

/-- What a list of arguments asks for (`SPEC_FULL.md` 10.4). -/
def parse (args : List String) : Except Error Invocation := do
  let (help, seen) ← scan Seen.empty args
  if help then return ⟨.help, seen.overrides⟩
  return ⟨← command seen.flags seen.overrideEvents seen.words, seen.overrides⟩

/-- The usage text for a program name. -/
def usage (program : String) : String :=
  "\n".intercalate [
    "Usage:",
    "  " ++ program ++ " [flags] templates",
    "  " ++ program ++ " [flags] show <series-id>",
    "  " ++ program ++
      " [flags] apply <series-id> <template-key> [--download] [--annotate] [--override]",
    "  " ++ program ++ " [flags] roles [search]",
    "",
    "Flags:",
    "  --url <url>              Admin node base URL (env SERIES_ACCESS_URL)",
    "  --user <u>               Username (env SERIES_ACCESS_USER)",
    "  --password <p>           Password (env SERIES_ACCESS_PASSWORD)",
    "  --timeout-ms <n>         Request timeout in milliseconds",
    "  -h, --help               Show this help",
    "",
    "Apply flags:",
    "  --download               Grant cast-download to the template role",
    "  --annotate               Grant cast-annotate to the template role",
    "  --override               Also rewrite the ACLs of the series' events",
    "",
    "Output:",
    "  Tables by default; set SERIES_ACCESS_OUTPUT=json for JSON."]

end Arguments

end SeriesAcl
