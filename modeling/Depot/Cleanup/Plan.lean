import Depot.Cleanup.Index
import Depot.Size
import Depot.Version.Order

namespace Depot

inductive KeepReason where
  | manifest
  | requires
  | retention
  deriving DecidableEq, Repr, Inhabited

inductive Disposition where
  | keep (reason : KeepReason)
  | delete
  deriving DecidableEq, Repr, Inhabited

def Disposition.isDelete : Disposition → Bool
  | .delete => true
  | .keep _ => false

structure VersionPlan where
  version : String
  disposition : Disposition
  identifiers : List String
  deriving Inhabited

structure GroupPlan where
  signature : Signature
  referenced : Bool
  versions : List VersionPlan
  deriving Inhabited

def GroupPlan.hasDeletions (g : GroupPlan) : Bool :=
  g.versions.any (·.disposition.isDelete)

structure CleanupStats where
  pkginfosToDelete : Nat := 0
  metadataBytes : Nat := 0
  pkgsToDelete : Nat := 0
  pkgBytes : Nat := 0
  deriving DecidableEq, Repr, Inhabited

structure CleanupPlan where
  groups : List GroupPlan := []
  toDelete : List PkginfoRecord := []
  orphanedInstallerPaths : List String := []
  orphansHeld : Bool := false
  pkgsToKeep : List String := []
  pkgsToDelete : List String := []
  stats : CleanupStats := {}
  warnings : List String := []
  deriving Inhabited

namespace CleanupPlan

def isEmpty (p : CleanupPlan) : Bool :=
  p.toDelete.isEmpty && (p.orphansHeld || p.orphanedInstallerPaths.isEmpty)

def holdOrphans (p : CleanupPlan) : CleanupPlan :=
  if p.orphansHeld then p
  else
    let n := p.orphanedInstallerPaths.length
    { p with
      orphansHeld := true
      stats := { p.stats with pkgsToDelete := p.stats.pkgsToDelete - n }
      warnings := if n == 0 then p.warnings else p.warnings ++
        [toString n ++ " unreferenced pkgs were left in place because some pkginfo items could not be loaded"] }

def orphansToDelete (p : CleanupPlan) : List String :=
  if p.orphansHeld then [] else p.orphanedInstallerPaths

def label : Disposition → String
  | .keep .manifest => " (REQUIRED by a manifest)"
  | .keep .requires => " (REQUIRED by another pkginfo item)"
  | .keep .retention => ""
  | .delete => " [to be DELETED]"

def groupText (g : GroupPlan) : String :=
  g.signature.display ++ (if g.referenced then "" else " (not referenced by any manifest)") ++
    ":\n" ++ String.join (g.versions.map fun v => "    " ++ v.version ++ label v.disposition ++ "\n") ++
    "\n"

def render (p : CleanupPlan) (showAll : Bool) : String :=
  String.join ((p.groups.filter fun g => showAll || g.hasDeletions).map groupText) ++
    if p.orphanedInstallerPaths.isEmpty then ""
    else "The following pkgs are not referenced by any pkginfo item" ++
      (if p.orphansHeld then " (kept, some pkginfo items could not be loaded)" else "") ++ ":\n" ++
      String.join (p.orphanedInstallerPaths.map fun path => "    " ++ path ++ "\n") ++ "\n"

end CleanupPlan

def decideVersions (name : String) (pinned required : List (String × String)) (keep : Nat) :
    Nat → List String → List (String × Disposition)
  | _, [] => []
  | rank, v :: vs =>
    if pinned.contains (name, v) then (v, .keep .manifest) :: decideVersions name pinned required keep rank vs
    else if required.contains (name, v) then (v, .keep .requires) :: decideVersions name pinned required keep rank vs
    else if rank < keep then (v, .keep .retention) :: decideVersions name pinned required keep (rank + 1) vs
    else (v, .delete) :: decideVersions name pinned required keep rank vs

def blobStep (kept : List String) (acc : List String × List String × Nat) (l : ItemLocation) :
    List String × List String × Nat :=
  let (paths, seen, bytes) := acc
  let folded := Text.lower l.path
  if kept.contains folded || seen.contains folded then acc
  else (paths ++ [l.path], folded :: seen, Size.wrappingAdd bytes l.size)

def blobsToDelete (kept : List String) (records : List PkginfoRecord) : List String × Nat :=
  let (paths, _, bytes) := (records.flatMap PkginfoRecord.itemLocations).foldl (blobStep kept) ([], [], 0)
  (paths, bytes)

def planGroup (scan : PkginfoScan) (pinned : List (String × String)) (keep : Nat)
    (sig : Signature) (group : VariantGroup) : List (VersionPlan × List PkginfoRecord) :=
  let order := Version.sortNewestFirst (group.map Prod.fst)
  (decideVersions sig.name pinned scan.requiredVersions keep 0 order).map fun (v, d) =>
    let records := (Sorted.findBy compare v group).getD []
    (⟨v, d, records.map PkginfoRecord.identifier⟩, records)

def duplicateWarning (sig : Signature) (v : VersionPlan) : Option String :=
  if v.identifiers.length > 1 then
    some (sig.display ++ " version " ++ v.version ++ " has more than one pkginfo: " ++
      ", ".intercalate v.identifiers)
  else none

def itemPaths (records : List PkginfoRecord) : List String :=
  records.flatMap fun r => r.itemLocations.map ItemLocation.path

def planCleanup (scan : PkginfoScan) (pinned : List (String × String)) (orphans : List String)
    (keep : Nat) : CleanupPlan :=
  let decided : List (Signature × List (VersionPlan × List PkginfoRecord)) :=
    scan.index.map fun (sig, group) => (sig, planGroup scan pinned keep sig group)
  let groups := decided.map fun (sig, versions) =>
    GroupPlan.mk sig (scan.referencedNames.contains sig.name) (versions.map Prod.fst)
  let all : List (Signature × VersionPlan × List PkginfoRecord) :=
    decided.flatMap fun (sig, versions) => versions.map fun v => (sig, v)
  let warnings := all.filterMap fun (sig, v, _) => duplicateWarning sig v
  let toDelete := all.flatMap fun (_, v, rs) => if v.disposition.isDelete then rs else []
  let kept := all.flatMap fun (_, v, rs) => if v.disposition.isDelete then [] else rs
  let pkgsToKeep := Sorted.ofList (itemPaths kept)
  let (pkgsToDelete, pkgBytes) := blobsToDelete (pkgsToKeep.map Text.lower) toDelete
  { groups
    toDelete
    orphanedInstallerPaths := orphans
    pkgsToKeep
    pkgsToDelete
    stats :=
      { pkginfosToDelete := toDelete.length
        metadataBytes := toDelete.foldl (fun n r => Size.wrappingAdd n r.metadataSize) 0
        pkgsToDelete := pkgsToDelete.length + orphans.length
        pkgBytes }
    warnings }

end Depot
