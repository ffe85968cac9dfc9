import Depot.Cli.Parse
import Depot.Cli.Grammar
import Depot.Repository.Location

namespace Depot.Cli

structure SharedOptions where
  repoUrl : Option String := none
  jobs : Nat := 8
  verbose : Nat := 0
  quiet : Bool := false
  deriving DecidableEq, Repr, Inhabited

structure CleanArgs where
  keep : Nat := 2
  showAll : Bool := false
  auto : Bool := false
  dryRun : Bool := false
  repoPath : Option String := none
  deriving DecidableEq, Repr, Inhabited

structure CatalogArgs where
  force : Bool := false
  skipPkgCheck : Bool := false
  yaml : Bool := false
  repoPath : Option String := none
  deriving DecidableEq, Repr, Inhabited

inductive Command where
  | repoclean (a : CleanArgs)
  | makecatalogs (a : CatalogArgs)
  deriving DecidableEq, Repr, Inhabited

def Command.repoPath : Command → Option String
  | .repoclean a => a.repoPath
  | .makecatalogs a => a.repoPath

structure Invocation where
  shared : SharedOptions
  command : Command
  deriving DecidableEq, Repr, Inhabited

def textOf (fs : List Found) (id : String) : Option String :=
  match fs.find? (·.id == id) with
  | some ⟨_, _, .text s⟩ => some s
  | _ => none

def numberOf (fs : List Found) (id : String) (fallback : Nat) : Nat :=
  match fs.find? (·.id == id) with
  | some ⟨_, _, .number n⟩ => n
  | _ => fallback

def switchOf (fs : List Found) (id : String) : Bool :=
  match fs.find? (·.id == id) with
  | some ⟨_, _, .bool b⟩ => b
  | _ => false

def Invocation.ofFound (name : String) (fs : List Found) : Invocation where
  shared :=
    { repoUrl := textOf fs "repo_url", jobs := numberOf fs "jobs" 8, verbose := numberOf fs "verbose" 0
      quiet := switchOf fs "quiet" }
  command :=
    if name == "makecatalogs" then
      .makecatalogs { force := switchOf fs "force", skipPkgCheck := switchOf fs "skip_pkg_check"
                      yaml := switchOf fs "yaml", repoPath := textOf fs "repo_path" }
    else
      .repoclean { keep := numberOf fs "keep" 2, showAll := switchOf fs "show_all"
                   auto := switchOf fs "auto", dryRun := switchOf fs "dry_run"
                   repoPath := textOf fs "repo_path" }

def helpFor (env : Env) : List String → UsageError
  | [] => UsageError.help env topLevel true
  | n :: more =>
    match commandLevel? n with
    | none => UsageError.unknownCommand topLevel n []
    | some l =>
      match more with
      | [] => UsageError.help env l true
      | m :: _ => UsageError.unknownCommand l m []

def parseLine (env : Env) (words : List String) : Except UsageError Invocation := do
  let top : Context := ⟨topLevel, env⟩
  let (r, below) ← scan top words {}
  match below with
  | some (name, rest) =>
    if name == "help" then throw (helpFor env rest)
    match commandLevel? name with
    | some l =>
      let c : Context := ⟨l, env⟩
      let (r', _) ← scan c rest {}
      let belowFound ← finish c r' false
      let topFound ← finish top r true
      pure (Invocation.ofFound name (merge (sharedArgs.map (·.id)) topFound belowFound))
    | none => throw (UsageError.missingCommand topLevel)
  | none =>
    let _ ← finish top r false
    throw (UsageError.missingCommand topLevel)

def Invocation.build (repoUrl : Option String) (jobs : Option Nat) (verbose : Nat) (quiet : Bool)
    (command : Option Command) : Except Error Invocation :=
  match command with
  | none => .error (.config "Command is required")
  | some c => .ok { shared := { repoUrl, jobs := jobs.getD 8, verbose, quiet }, command := c }

def Invocation.location (inv : Invocation) (cwd : String) : Except Error RepoLocation :=
  match inv.shared.repoUrl, inv.command.repoPath with
  | some u, none => .ok (.url u)
  | none, some p => .ok (.path (normalizePath cwd p))
  | some _, some _ => .error (.config "Give either --repo-url or a repository path, not both")
  | none, none => .error (.config
      "A repository is required: pass --repo-url, set MUNKI_REPO_URL, or give a repository path")

end Depot.Cli
