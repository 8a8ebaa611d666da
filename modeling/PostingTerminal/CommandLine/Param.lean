import PostingTerminal.Error
import PostingTerminal.Text.Blank

/-!
# Parameters and their values

A command declares its parameters in order.  Binding gives each of them the token at its
position, its default once the tokens have run out, or nothing if it may be left out, and
turns the text into a value of the declared type.  Surplus tokens are passed over.

A boolean is true only when it is spelled `true`.  A number is the double nearest to the
number spelled, blanks around it aside, and never a NaN.
-/

namespace PostingTerminal.CommandLine

/-- The type of a parameter. -/
inductive ParamType where
  | string
  | number
  | boolean
  deriving DecidableEq, Repr

/-- The name of a parameter type. -/
def ParamType.label : ParamType → String
  | .string => "string"
  | .number => "number"
  | .boolean => "boolean"

/-- The value of a parameter. -/
inductive ParamValue where
  | string (s : String)
  | number (x : Float)
  | boolean (b : Bool)
  deriving Inhabited

/-- The text of a value. -/
def ParamValue.display : ParamValue → String
  | .string s => s
  | .number x => Decimal.display x
  | .boolean b => if b then "true" else "false"

/-- The value of a JSON scalar; null, lists and objects are none. -/
def ParamValue.ofJson? : Json.Value → Option ParamValue
  | .string s => some (.string s)
  | .number (.int n) =>
    some (.number (if n ≥ 0 then Float.ofScientific n.toNat false 0
      else -(Float.ofScientific n.natAbs false 0)))
  | .number (.float x) => some (.number x)
  | .bool b => some (.boolean b)
  | _ => none

/-- Reads a value from JSON, by the type that it has there. -/
def ParamValue.decoder : Json.Decoder ParamValue where
  scan bound cs :=
    match Json.Decoder.any.scan bound cs with
    | .error f => .error f
    | .ok (v, rest) =>
      match ParamValue.ofJson? v with
      | some value => .ok (value, rest)
      | none => .error ⟨.noVariant "ParamValue", none⟩
  ofValue _ v :=
    match ParamValue.ofJson? v with
    | some value => .ok value
    | none => .error (.noVariant "ParamValue")

/-- A declared parameter. -/
structure ParamSpec where
  name : String
  type : ParamType
  isRequired : Bool
  default : Option String
  deriving Repr

/-- How a parameter appears in the usage of a command. -/
def ParamSpec.signature (spec : ParamSpec) : String :=
  let body := spec.name ++ ":" ++ spec.type.label
  match spec.default with
  | some d => "[" ++ body ++ "=" ++ d ++ "]"
  | none => if spec.isRequired then "<" ++ body ++ ">" else "[" ++ body ++ "]"

/-- Values by name, each name once. -/
structure Args where
  entries : List (String × ParamValue)

namespace Args

/-- No values. -/
def empty : Args := ⟨[]⟩

/-- The value under a name. -/
def get? (args : Args) (name : String) : Option ParamValue := args.entries.lookup name

/-- Puts a value under a name, in place of the one that may be there. -/
def set (args : Args) (name : String) (value : ParamValue) : Args :=
  ⟨(name, value) :: args.entries.filter (·.1 != name)⟩

/-- The value under a name if it is a string. -/
def getString? (args : Args) (name : String) : Option String :=
  match args.get? name with
  | some (.string s) => some s
  | _ => none

/-- How many names have a value. -/
def size (args : Args) : Nat := args.entries.length

end Args

/-- The number that a text spells, blanks around it aside. -/
def readNumber (raw : String) : Option Float :=
  (Decimal.read (Text.trim raw.toList)).filter fun x => !x.isNaN

/-- The value that a text has as a parameter. -/
def ParamSpec.coerce (spec : ParamSpec) (raw : String) : Except Error ParamValue :=
  match spec.type with
  | .string => .ok (.string raw)
  | .number =>
    match readNumber raw with
    | some x => .ok (.number x)
    | none => .error (.invalidType spec.name "number")
  | .boolean => .ok (.boolean (raw == "true"))

/-- The text that a parameter is bound to, given the tokens from its position on. -/
def ParamSpec.rawFrom (spec : ParamSpec) (tokens : List String) : Option String :=
  tokens.head? <|> spec.default

/-- Binds parameters in order, adding to the values already bound. -/
def bindFrom : List ParamSpec → List String → Args → Except Error Args
  | [], _, args => .ok args
  | spec :: specs, tokens, args =>
    match spec.rawFrom tokens with
    | none =>
      if spec.isRequired then .error (.missingParameter spec.name)
      else bindFrom specs tokens.tail args
    | some raw =>
      match spec.coerce raw with
      | .error e => .error e
      | .ok value => bindFrom specs tokens.tail (args.set spec.name value)

/-- Binds the parameters of a command to tokens. -/
def bind (tokens : List String) (specs : List ParamSpec) : Except Error Args :=
  bindFrom specs tokens .empty

end PostingTerminal.CommandLine
