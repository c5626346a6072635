import SeriesAcl.Command.Run
import SeriesAcl.Http.Client

/-!
# The program

A whole run of the command line program: arguments and environment in, exit status and printed text
out. How files are read and requests answered are parameters, so a run is a function of them. See
`SPEC_FULL.md`, section 10.4.
-/

namespace SeriesAcl

/-- What a run leaves: its exit status and what it printed. -/
structure Outcome where
  exit : Nat
  output : String
  errors : String
  deriving DecidableEq, Repr

namespace Program

/-- A text with every line moved to the right. -/
def indented (text : String) : String :=
  "\n".intercalate ((Text.splitAtChar '\n' text.toList).map fun line ↦
    "    " ++ String.ofList line)

/-- The end of a run that failed while it did what `context` says, or in the command itself. -/
def failed (context : Option String) (e : Error) : Outcome :=
  match context with
  | none => ⟨1, "", "Error: " ++ e.display ++ "\n"⟩
  | some doing => ⟨1, "", "Error: " ++ doing ++ "\n\nCaused by:\n" ++ indented e.display ++ "\n"⟩

/-- The end of a run that printed a text; blanks at its end make way for one line break. -/
def printed (text : String) : Outcome :=
  ⟨0, String.ofList (Text.trimEnd text.toList) ++ "\n", ""⟩

/-- The usage text. -/
def usage : String :=
  Arguments.usage Command.programName ++ "\n"

/-- The settings in force and a client with them, or how the run ends without one. -/
def connect (overrides : ConfigLayer) (get : String → Option String)
    (read : String → Except String String) (transport : Transport) :
    Except Outcome (Config × Client) :=
  match Config.load get read with
  | .error e => .error (failed (some "Failed to load configuration") e)
  | .ok loaded =>
    let config := loaded.merged overrides
    match Client.make config transport with
    | .error e => .error (failed (some "Failed to build HTTP client") e)
    | .ok client => .ok (config, client)

/-- Run a command on a client: how the run ends, and the requests that were sent. -/
def perform (options : RunOptions) (command : Command) (client : Client) :
    Outcome × List Exchange :=
  match command.run options client with
  | (.ok text, client) => (printed text, client.log)
  | (.error e, client) => (failed none e, client.log)

/-- The names of the environment that a run looks at. -/
def environmentNames : List String :=
  ["SERIES_ACCESS_URL", "SERIES_ACCESS_USER", "SERIES_ACCESS_PASSWORD", "SERIES_ACCESS_TIMEOUT_MS",
    "SERIES_ACCESS_ROLE_PAGE", "SERIES_ACCESS_CONFIG", "SERIES_ACCESS_OUTPUT"]

/-- A run: how it ends, and the requests that were sent. Help needs no settings. -/
def run (args : List String) (get : String → Option String)
    (read : String → Except String String) (transport : Transport) : Outcome × List Exchange :=
  match Arguments.parse args with
  | .error e => (⟨2, "", e.message ++ "\n" ++ usage⟩, [])
  | .ok ⟨.help, _⟩ => (⟨0, "", usage⟩, [])
  | .ok ⟨command, overrides⟩ =>
    match connect overrides get read transport with
    | .error outcome => (outcome, [])
    | .ok (config, client) =>
      perform ⟨config.rolePageSize, RunOptions.jsonRequested get⟩ command client

end Program

end SeriesAcl
