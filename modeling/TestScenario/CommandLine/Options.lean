import TestScenario.Decimal.Reading
import TestScenario.History.Reports

/-!
What the command line asks for.
-/

namespace TestScenario

/-- What the command line asks for. -/
structure Options where
  /-- Catalog files, merged in this order. -/
  catalogs : List String := []
  /-- The scenarios to run; all of them if none is named. -/
  scenarios : List Int := []
  env : String := "dev"
  config : Option String := none
  baseUrl : Option String := none
  timeoutSecs : Option Nat := none
  runTimeoutSecs : Option Nat := none
  reportDir : Option String := none
  reportFormat : ReportFormat := .json
  events : Bool := false
  verbose : Bool := false
  historyApiUrl : Option String := none
  historyApiKey : Option String := none
deriving DecidableEq, Repr

/-- Why a command line is not understood. -/
inductive UsageError where
  | unknown (argument : String)
  | missingValue (option : String)
  | invalidValue (option value : String)
  | noCatalog
deriving DecidableEq, Repr

/-- Why a command line is not understood, in words. -/
def UsageError.message : UsageError → String
  | .unknown argument => "unexpected argument '" ++ argument ++ "' found"
  | .missingValue option => "a value is required for '" ++ option ++ "' but none was supplied"
  | .invalidValue option value => "invalid value '" ++ value ++ "' for '" ++ option ++ "'"
  | .noCatalog => "the following required arguments were not provided: --catalog <CATALOG>"

namespace Options

/-- The long names of the options that have a short one. -/
def longNames : List (Char × String) :=
  [('c', "--catalog"), ('s', "--scenario"), ('e', "--env"), ('b', "--base-url"), ('t', "--timeout"), ('r', "--report-dir"),
    ('v', "--verbose")]

/-- A number that an option asks for. -/
def natOf (option value : String) : Except UsageError Nat :=
  match Decimal.readUInt64 value.toList with
  | .ok n => .ok n.toNat
  | .error _ => .error (.invalidValue option value)

/-- An option without a value. -/
def flag? (o : Options) : String → Option Options
  | "--events" => some { o with events := true }
  | "--verbose" => some { o with verbose := true }
  | _ => none

/-- An option with its value. -/
def assign (o : Options) (option value : String) : Except UsageError Options :=
  match option with
  | "--catalog" => .ok { o with catalogs := o.catalogs ++ [value] }
  | "--scenario" =>
    match Decimal.readInt64 value.toList with
    | .ok id => .ok { o with scenarios := o.scenarios ++ [id] }
    | .error _ => .error (.invalidValue option value)
  | "--env" => .ok { o with env := value }
  | "--config" => .ok { o with config := some value }
  | "--base-url" => .ok { o with baseUrl := some value }
  | "--timeout" => do .ok { o with timeoutSecs := some (← natOf option value) }
  | "--run-timeout" => do .ok { o with runTimeoutSecs := some (← natOf option value) }
  | "--report-dir" => .ok { o with reportDir := some value }
  | "--report-format" =>
    match [ReportFormat.json, .yaml].find? (·.extension == value) with
    | some f => .ok { o with reportFormat := f }
    | none => .error (.invalidValue option value)
  | "--history-api-url" => .ok { o with historyApiUrl := some value }
  | "--history-api-key" => .ok { o with historyApiKey := some value }
  | other => .error (.unknown other)

/-- An argument as the long name of an option and the value that stands in the same argument. -/
def split (argument : String) : String × Option String :=
  match argument.toList with
  | '-' :: '-' :: _ =>
    let name := argument.toList.takeWhile (· != '=')
    match argument.toList.drop name.length with
    | [] => (argument, none)
    | _ :: value => (String.ofList name, some (String.ofList value))
  | '-' :: c :: value =>
    match longNames.lookup c with
    | none => (argument, none)
    | some name =>
      let value := if value.head? == some '=' then value.drop 1 else value
      (name, if value.isEmpty then none else some (String.ofList value))
  | _ => (argument, none)

/-- The options that some arguments add. -/
def read (o : Options) : List String → Except UsageError Options
  | [] => if o.catalogs.isEmpty then .error .noCatalog else .ok o
  | argument :: rest =>
    match split argument with
    | (name, none) =>
      match o.flag? name with
      | some o => read o rest
      | none =>
        if !argument.startsWith "-" then .error (.unknown argument)
        else match rest with
          | [] => .error (.missingValue name)
          | value :: rest => do read (← o.assign name value) rest
    | (name, some value) => do read (← o.assign name value) rest

/-- The options of a command line. -/
def ofArguments (arguments : List String) : Except UsageError Options := ({} : Options).read arguments

end Options
end TestScenario
