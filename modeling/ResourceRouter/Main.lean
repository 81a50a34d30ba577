import ResourceRouter.Cli.Run

set_option autoImplicit false

/-!
The program: it reads the environment and the configuration file, prints the answer, and tells by
its exit status whether there was one.
-/

namespace ResourceRouter.Main

def usage : String :=
  "Resolve hrefs, filters and requests against a resource access configuration

Usage: rac [OPTIONS] <COMMAND>

Commands:
  locate <HREF>                      Parse an href into its address
  filter --type <TYPE> <CLAUSES>...  Compile filter clauses against a schema type
  resolve --verb <VERB> --path <PATH> [--body <BODY>] [--filter <CLAUSE>]...
          [--attributes <NAMES>]... [--grant <GRANT>]...
                                     Prepare a request into an operation descriptor

Options:
  -c, --config <CONFIG>  Configuration file; environment variables override it
  -v, --verbose          Accepted for every command
  -h, --help             Print help
  -V, --version          Print version
"

/-- The name and the value of a variable. -/
def assignment? (entry : String) : Option (String × String) :=
  let chars := entry.toList
  match chars.dropWhile (· != '=') with
  | _ :: value => some (String.ofList (chars.takeWhile (· != '=')), String.ofList value)
  | [] => none

/-- The environment of the process; without one that can be read, there are no variables. -/
def environment : IO (List (String × String)) := do
  try
    let bytes ← IO.FS.readBinFile "/proc/self/environ"
    let entries := ((String.fromUTF8? bytes).getD "").splitOn "\x00"
    return entries.filterMap assignment?
  catch _ => return []

/-- The content of a file, if it can be read. -/
def contentOf (path : String) : IO (Option String) := do
  try
    return some (← IO.FS.readFile path)
  catch _ => return none

/-- Tells about a failure. -/
def report (failure : Cli.Failure) : IO Unit := do
  IO.eprintln ("Error: " ++ failure.message)
  match failure.cause? with
  | some cause => IO.eprintln ("\nCaused by:\n    " ++ cause)
  | none => return ()

/-- Runs a command. -/
def perform (invocation : Cli.Invocation) : IO UInt32 := do
  let content ←
    match invocation.shared.config with
    | some path => contentOf path
    | none => pure none
  match Cli.run (fun _ => content) (← environment) invocation with
  | .ok value =>
    IO.println value.pretty
    return 0
  | .error failure =>
    report failure
    return 1

/-- Runs the program with its arguments. -/
def start (arguments : List String) : IO UInt32 := do
  match Cli.Invocation.parse arguments with
  | .ok invocation => perform invocation
  | .error .usage =>
    IO.eprint usage
    return 2
  | .error .help =>
    IO.print usage
    return 0
  | .error .version =>
    IO.println "rac 0.2.13"
    return 0

end ResourceRouter.Main

def main (arguments : List String) : IO UInt32 := ResourceRouter.Main.start arguments
