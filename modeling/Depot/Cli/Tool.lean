import Depot.Cli.Execute
import Depot.Cli.Diagnostic

namespace Depot.Cli

open Disk

def workingDir (t : FileTree) : String := "/" ++ "/".intercalate (t.cwd.map Name.lossy)

def Invocation.openRepo (inv : Invocation) (tree : FileTree) : Except Error FileRepo := do
  let loc ← inv.location (workingDir tree)
  loc.open tree

structure ToolRun where
  status : Nat
  stdout : String
  stderr : String
  tree : FileTree
  deriving Inhabited

def runTool (args : List String) (env : Env) (stdin : String) (tree : FileTree) : ToolRun :=
  match parseLine env args with
  | .error e => if e.toStdout then ⟨e.status, e.text, "", tree⟩ else ⟨e.status, "", e.text, tree⟩
  | .ok inv =>
    match inv.openRepo tree with
    | .error err => ⟨1, "", renderReport err, tree⟩
    | .ok repo =>
      let terminal : TerminalConfirm := { input := stdin.toList }
      let (r, c) := (inv.run : CleanWork FileRepo TerminalConfirm Unit).runOn repo terminal
      let logText := String.join (c.session.log.map (· ++ "\n"))
      match r with
      | .ok () => ⟨0, c.confirm.output, logText, c.session.store.tree⟩
      | .error err => ⟨1, c.confirm.output, logText ++ renderReport err, c.session.store.tree⟩

end Depot.Cli
