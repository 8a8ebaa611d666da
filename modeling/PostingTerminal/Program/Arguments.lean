/-!
# Arguments of the program

The program takes a file of settings, once at most, and any number of inputs to execute.  An
option is written long, with its value behind `=` or as the next argument, or short, with its
value attached, behind `=` or as the next argument.  An argument that could be an option is
never taken for a value, and nothing is taken besides options.  Arguments are read from left
to right; the first one that cannot be accepted, or that asks for help, decides.
-/

namespace PostingTerminal.Program

/-- What the program is asked to do: execute inputs, or hold a dialogue if there are none. -/
structure Invocation where
  settingsFile : Option String
  inputs : List String
  deriving DecidableEq, Repr

/-- An option that takes a value. -/
inductive Choice where
  | config
  | exec
  deriving DecidableEq, Repr

/-- What one argument is. -/
inductive Argument where
  | value (text : String)
  | choice (choice : Choice) (attached : Option String)
  | help
  | unknown
  deriving DecidableEq, Repr

/-- An argument that begins with two hyphens. -/
def Argument.long (rest : List Char) : Argument :=
  let name := String.ofList (rest.takeWhile (· ≠ '='))
  let attached :=
    match rest.dropWhile (· ≠ '=') with
    | [] => none
    | _ :: text => some (String.ofList text)
  match name, attached with
  | "config", attached => .choice .config attached
  | "exec", attached => .choice .exec attached
  | "help", none => .help
  | _, _ => .unknown

/-- An argument that begins with one hyphen. -/
def Argument.short : List Char → Argument
  | 'h' :: _ => .help
  | ['e'] => .choice .exec none
  | 'e' :: '=' :: text => .choice .exec (some (String.ofList text))
  | 'e' :: text => .choice .exec (some (String.ofList text))
  | _ => .unknown

/-- What an argument is. -/
def Argument.ofText (text : String) : Argument :=
  match text.toList with
  | '-' :: '-' :: rest => .long rest
  | ['-'] => .value text
  | '-' :: rest => .short rest
  | _ => .value text

/-- What arguments ask for. -/
inductive Demand where
  | run (invocation : Invocation)
  | help
  | refused
  deriving DecidableEq, Repr

/-- Adds the value of an option.  A file of settings must be named, and once only. -/
def Invocation.add (i : Invocation) (choice : Choice) (value : String) : Option Invocation :=
  match choice with
  | .exec => some { i with inputs := i.inputs ++ [value] }
  | .config =>
    if value.isEmpty || i.settingsFile.isSome then none
    else some { i with settingsFile := some value }

/-- Reads the rest of the arguments; an option may still wait for its value. -/
def readArguments (i : Invocation) : (waiting : Option Choice) → List Argument → Demand
  | none, [] => .run i
  | some _, [] => .refused
  | some choice, .value text :: rest =>
    match i.add choice text with
    | none => .refused
    | some i => readArguments i none rest
  | some _, _ :: _ => .refused
  | none, .value _ :: _ => .refused
  | none, .unknown :: _ => .refused
  | none, .help :: _ => .help
  | none, .choice choice none :: rest => readArguments i (some choice) rest
  | none, .choice choice (some text) :: rest =>
    match i.add choice text with
    | none => .refused
    | some i => readArguments i none rest

/-- What arguments ask for.  Two hyphens alone end the options, and nothing may follow. -/
def Demand.ofArguments (arguments : List String) : Demand :=
  let options := arguments.takeWhile (· ≠ "--")
  match readArguments ⟨none, []⟩ none (options.map Argument.ofText), arguments.drop options.length with
  | .run i, [] => .run i
  | .run i, [_] => .run i
  | .run _, _ => .refused
  | demand, _ => demand

/-- How the program is used. -/
def usage : String :=
  "Run agent commands such as create-thread and thread-status\n\n"
    ++ "Usage: threadline [OPTIONS]\n\n"
    ++ "Options:\n"
    ++ "      --config <CONFIG>  TOML configuration file\n"
    ++ "  -e, --exec <EXEC>      Command line to execute; repeat to run a batch in order\n"
    ++ "  -h, --help             Print help\n"

end PostingTerminal.Program
