import Depot.Repository.Files
import Depot.Text.Url

namespace Depot

open Disk

inductive PathPart where
  | root
  | here
  | up
  | name (n : String)
  deriving DecidableEq, Repr, Inhabited

def pathParts (s : String) : List PathPart :=
  let pieces := s.splitOn "/"
  let first : List PathPart :=
    if s.startsWith "/" then [.root]
    else if pieces.head? == some "." then [.here] else []
  let rest := (if s.startsWith "/" || pieces.head? == some "." then pieces.drop 1 else pieces).filterMap
    fun p => if p == "" || p == "." then none else if p == ".." then some .up else some (.name p)
  first ++ rest

def foldParts (acc : List PathPart) : List PathPart → List PathPart
  | [] => acc
  | .up :: rest =>
    match acc.getLast? with
    | some .up | none => foldParts (acc ++ [.up]) rest
    | some _ => foldParts acc.dropLast rest
  | .here :: rest => foldParts acc rest
  | p :: rest => foldParts (acc ++ [p]) rest

def showParts (ps : List PathPart) : String :=
  let names := ps.filterMap fun
    | .name n => some n
    | .up => some ".."
    | _ => none
  match ps.head? with
  | some .root => "/" ++ "/".intercalate names
  | some .here => "/".intercalate ("." :: names)
  | _ => "/".intercalate names

def normalizePath (cwd path : String) : String :=
  let absolute := if path.startsWith "/" then path else FileRepo.join cwd path
  showParts (foldParts [] (pathParts absolute))

inductive RepoLocation where
  | url (u : String)
  | path (p : String)
  deriving DecidableEq, Repr, Inhabited

def openPath (tree : FileTree) (root : String) : Except Error FileRepo :=
  if tree.isDir (PathText.ofString root) then .ok ⟨tree, root⟩
  else .error (.repoConnection root (root ++ " does not exist"))

def urlRoot (url : String) : Except Error String :=
  if (url.splitOn "://").length > 1 then
    match Url.parse url with
    | .error e => .error (.repoConnection url e.message)
    | .ok u =>
      if u.scheme != "file" then
        .error (.repoConnection url ("unsupported URL scheme '" ++ u.scheme ++ "'"))
      else match Url.filePath u with
        | some bytes => .ok (Name.lossy bytes)
        | none => .error (.repoConnection url "URL does not name a local path")
  else .ok url

def connect (tree : FileTree) (url : String) : Except Error FileRepo := do
  let root ← urlRoot url
  match openPath tree root with
  | .ok r => pure r
  | .error (.repoConnection _ reason) => throw (.repoConnection url reason)
  | .error e => throw e

def RepoLocation.root : RepoLocation → Except Error String
  | .url u => urlRoot u
  | .path p => .ok p

def RepoLocation.open (tree : FileTree) : RepoLocation → Except Error FileRepo
  | .url u => connect tree u
  | .path p => openPath tree p

end Depot
