import Depot.Cli.Help
import Depot.Cli.Similar

namespace Depot.Cli

inductive UsageErrorKind where
  | displayHelp
  | displayVersion
  | displayHelpOnMissing
  | unknownArgument
  | invalidSubcommand
  | argumentConflict
  | valueValidation
  | invalidValue
  | missingSubcommand
  | tooManyValues
  deriving DecidableEq, Repr, Inhabited

def UsageErrorKind.name : UsageErrorKind → String
  | .displayHelp => "DisplayHelp"
  | .displayVersion => "DisplayVersion"
  | .displayHelpOnMissing => "DisplayHelpOnMissingArgumentOrSubcommand"
  | .unknownArgument => "UnknownArgument"
  | .invalidSubcommand => "InvalidSubcommand"
  | .argumentConflict => "ArgumentConflict"
  | .valueValidation => "ValueValidation"
  | .invalidValue => "InvalidValue"
  | .missingSubcommand => "MissingSubcommand"
  | .tooManyValues => "TooManyValues"

structure UsageError where
  kind : UsageErrorKind
  text : String
  deriving Inhabited

namespace UsageError

def toStdout (e : UsageError) : Bool :=
  e.kind == .displayHelp || e.kind == .displayVersion

def status (e : UsageError) : Nat := if e.toStdout then 0 else 2

def render (l : Level) (reason : String) (tips : List String) (usage : Option String) : String :=
  "error: " ++ reason ++
    (if tips.isEmpty then "" else "\n" ++ String.join (tips.map ("\n  tip: " ++ ·))) ++
    (match usage with
      | some u => "\n\nUsage: " ++ u
      | none => "") ++
    (if l.offersHelp then "\n\nFor more information, try '--help'.\n" else "\n")

def make (kind : UsageErrorKind) (l : Level) (reason : String) (tips : List String)
    (usage : Option String) : UsageError :=
  ⟨kind, render l reason tips usage⟩

def valuesList (title : String) (values : List String) : String :=
  if values.isEmpty then "" else "\n  [" ++ title ++ ": " ++ ", ".intercalate values ++ "]"

def help (env : Env) (l : Level) (long : Bool) : UsageError := ⟨.displayHelp, helpText env l long⟩

def version (l : Level) : UsageError := ⟨.displayVersion, versionText l⟩

def helpOnMissing (env : Env) (l : Level) : UsageError :=
  ⟨.displayHelpOnMissing, helpText env l false⟩

def valueValidation (l : Level) (arg value reason : String) : UsageError :=
  make .valueValidation l ("invalid value '" ++ value ++ "' for '" ++ arg ++ "': " ++ reason) [] none

def invalidValue (l : Level) (arg value : String) (possible : List String) : UsageError :=
  let reason := if value.isEmpty then "a value is required for '" ++ arg ++ "' but none was supplied"
    else "invalid value '" ++ value ++ "' for '" ++ arg ++ "'"
  let tips := match closest value possible with
    | some v => ["a similar value exists: '" ++ v ++ "'"]
    | none => []
  make .invalidValue l (reason ++ valuesList "possible values" possible) tips none

def givenTwice (l : Level) (a : ArgSpec) : UsageError :=
  make .argumentConflict l ("the argument '" ++ a.shown ++ "' cannot be used multiple times") []
    (some l.usage)

def conflict (l : Level) (a : ArgSpec) (others : List ArgSpec) (used : List ArgSpec) : UsageError :=
  let reason := "the argument '" ++ a.shown ++ "' cannot be used with" ++
    match others with
    | [o] => " '" ++ o.shown ++ "'"
    | os => ":" ++ String.join (os.map ("\n  " ++ ·.shown))
  make .argumentConflict l reason [] (some (l.usageWith used))

def unexpectedValue (l : Level) (a : ArgSpec) (value : String) (used : List ArgSpec) : UsageError :=
  make .tooManyValues l ("unexpected value '" ++ value ++ "' for '" ++ a.shown ++
    "' found; no more were expected") [] (some (l.usageWith used))

def unexpected (l : Level) (word : String) (tips : List String) (used : List ArgSpec) : UsageError :=
  make .unknownArgument l ("unexpected argument '" ++ word ++ "' found") tips (some (l.usageWith used))

def asValueTip (word : String) : String :=
  "to pass '" ++ word ++ "' as a value, use '-- " ++ word ++ "'"

def unknownCommand (l : Level) (word : String) (similar : List String) : UsageError :=
  let tips := match similar with
    | [] => []
    | [c] => ["a similar subcommand exists: '" ++ c ++ "'"]
    | cs => ["some similar subcommands exist: " ++ ", ".intercalate (cs.map fun c => "'" ++ c ++ "'")]
  make .invalidSubcommand l ("unrecognized subcommand '" ++ word ++ "'") tips (some l.usage)

def commandAfterEscape (l : Level) (word : String) : UsageError :=
  make .unknownArgument l "unexpected argument '--' found"
    ["subcommand '" ++ word ++ "' exists; to use it, remove the '--' before it"] (some l.usage)

def missingCommand (l : Level) : UsageError :=
  make .missingSubcommand l ("'" ++ l.path ++ "' requires a subcommand but one was not provided" ++
    valuesList "subcommands" (l.commands.map (·.name))) [] (some l.usage)

end UsageError

end Depot.Cli
