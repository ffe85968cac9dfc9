
namespace Depot.Cli

inductive ValueType where
  | count
  | bool
  | size
  | text
  | path
  deriving DecidableEq, Repr, Inhabited

inductive Action where
  | flag
  | count
  | value (name : String)
  | help
  | version
  deriving DecidableEq, Repr, Inhabited

structure ArgSpec where
  id : String
  short : Option Char := none
  long : Option String := none
  action : Action
  valueType : ValueType := .text
  help : String := ""
  longHelp : Option String := none
  env : Option String := none
  default : Option String := none
  conflicts : List String := []
  order : Nat := 999
  many : Bool := false
  deriving Inhabited

namespace ArgSpec

def isPositional (a : ArgSpec) : Bool := a.short.isNone && a.long.isNone

def takesValue (a : ArgSpec) : Bool :=
  match a.action with
  | .value _ => true
  | _ => false

def display (a : ArgSpec) (required : Bool) : String :=
  let name := match a.long, a.short with
    | some l, _ => "--" ++ l
    | none, some s => "-" ++ s.toString
    | none, none => ""
  let more := if a.many then "..." else ""
  match a.action with
  | .value v =>
    if a.isPositional then
      (if required && !a.many then "<" ++ v ++ ">" else "[" ++ v ++ "]") ++ more
    else name ++ " <" ++ v ++ ">"
  | .count => name ++ "..."
  | _ => name

def shown (a : ArgSpec) : String := a.display false

def heading (a : ArgSpec) : String :=
  if a.isPositional then a.shown
  else
    (match a.short, a.long with
      | some c, some _ => "-" ++ c.toString ++ ", "
      | some _, none => ""
      | none, _ => "    ") ++ a.shown

def width (a : ArgSpec) : Nat :=
  if a.isPositional then a.shown.length else 4 + a.shown.length

def sortKey (a : ArgSpec) : String :=
  match a.short, a.long with
  | some c, _ => (String.singleton c.toLower).push (if c.isLower then '0' else '1')
  | none, some l => l
  | none, none => a.id

def isSetting (a : ArgSpec) : Bool :=
  match a.action with
  | .help | .version => false
  | _ => true

end ArgSpec

structure CommandEntry where
  name : String
  about : String
  longs : List String
  deriving Inhabited

structure Level where
  path : String
  displayName : String
  version : String
  about : String
  longAbout : Option String := none
  args : List ArgSpec
  commands : List CommandEntry := []
  offersHelp : Bool := true
  deriving Inhabited

namespace Level

def positionals (l : Level) : List ArgSpec := l.args.filter (·.isPositional)

def options (l : Level) : List ArgSpec := l.args.filter (!·.isPositional)

def findLong (l : Level) (name : String) : Option ArgSpec :=
  l.args.find? (·.long == some name)

def findShort (l : Level) (c : Char) : Option ArgSpec :=
  l.args.find? (·.short == some c)

def find (l : Level) (id : String) : Option ArgSpec := l.args.find? (·.id == id)

def longs (l : Level) : List String := l.args.filterMap (·.long)

def hasCommand (l : Level) (name : String) : Bool := l.commands.any (·.name == name)

def hasLongHelp (l : Level) : Bool :=
  l.longAbout.isSome || l.args.any (·.longHelp.isSome)

def needsOptionsTag (l : Level) : Bool := l.options.any (·.isSetting)

end Level

end Depot.Cli
