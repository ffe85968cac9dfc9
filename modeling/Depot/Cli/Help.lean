import Depot.Cli.Spec

namespace Depot.Cli

abbrev Env := List (String × String)

def Env.lookup (env : Env) (name : String) : Option String :=
  (env.find? (·.1 == name)).map (·.2)

def spaces (n : Nat) : String := String.ofList (List.replicate n ' ')

def trimEnd (s : String) : String :=
  String.ofList (s.toList.reverse.dropWhile Char.isWhitespace).reverse

namespace Level

def usage (l : Level) : String :=
  " ".intercalate ([l.path] ++ (if l.needsOptionsTag then ["[OPTIONS]"] else []) ++
    l.positionals.map (·.display false) ++ (if l.commands.isEmpty then [] else ["<COMMAND>"]))

def usageWith (l : Level) (used : List ArgSpec) : String :=
  if used.isEmpty then l.usage
  else
    let opts := ((used.filter (!·.isPositional)).map (·.display true)).eraseDups
    let pos := l.positionals.map fun p => p.display (used.any (·.id == p.id))
    " ".intercalate ([l.path] ++ opts ++ pos ++ (if l.commands.isEmpty then [] else ["<COMMAND>"]))

end Level

def notes (env : Env) (a : ArgSpec) : List String :=
  (match a.env with
    | some n => ["[env: " ++ n ++ "=" ++ (env.lookup n).getD "" ++ "]"]
    | none => []) ++
  (match a.default with
    | some d => if a.takesValue then ["[default: " ++ d ++ "]"] else []
    | none => [])

def shortEntry (env : Env) (longest : Nat) (a : ArgSpec) : String :=
  let ns := notes env a
  let text := a.help ++ (if ns.isEmpty then "" else (if a.help.isEmpty then "" else " ") ++ " ".intercalate ns)
  "  " ++ a.heading ++ spaces (longest + 2 - a.width) ++ text

def longEntry (env : Env) (a : ArgSpec) : String :=
  let ns := notes env a
  let desc := a.longHelp.getD a.help
  let text := desc ++ (if ns.isEmpty then "" else (if desc.isEmpty then "" else "\n\n") ++ "\n".intercalate ns)
  "  " ++ a.heading ++ "\n" ++ spaces 10 ++ text.replace "\n" ("\n" ++ spaces 10)

def argSection (env : Env) (long : Bool) (title : String) (args : List ArgSpec) : List String :=
  if args.isEmpty then []
  else
    let longest := args.foldl (fun n a => max n a.width) 2
    let entries := if long then args.map (longEntry env) else args.map (shortEntry env longest)
    [title ++ ":\n" ++ (if long then "\n\n" else "\n").intercalate entries]

def commandSection (cs : List CommandEntry) : List String :=
  if cs.isEmpty then []
  else
    let longest := cs.foldl (fun n c => max n c.name.length) 2
    ["Commands:\n" ++ "\n".intercalate (cs.map fun c =>
      "  " ++ c.name ++ spaces (longest + 2 - c.name.length) ++ c.about)]

def listed (options : List ArgSpec) : List ArgSpec :=
  options.mergeSort fun a b => a.order < b.order || (a.order == b.order && a.sortKey ≤ b.sortKey)

def helpText (env : Env) (l : Level) (long : Bool) : String :=
  let long := long && l.hasLongHelp
  let about := if long then l.longAbout.getD l.about else l.about
  let sections := commandSection l.commands ++ argSection env long "Arguments" l.positionals ++
    argSection env long "Options" (listed l.options)
  trimEnd (about ++ "\n\nUsage: " ++ l.usage ++ "\n\n" ++ "\n\n".intercalate sections) ++ "\n"

def versionText (l : Level) : String := l.displayName ++ " " ++ l.version ++ "\n"

end Depot.Cli
