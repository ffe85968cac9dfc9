import Depot.Pkginfo.Signature
import Depot.Pkginfo.Load
import Depot.Session
import Depot.Sorted
import Depot.Text.Lower
import Depot.Version.Split

namespace Depot

abbrev VariantGroup := List (String × List PkginfoRecord)

abbrev VariantIndex := List (Signature × VariantGroup)

structure PkginfoScan where
  index : VariantIndex := []
  referencedNames : List String := []
  requiredVersions : List (String × String) := []
  referencedPkgs : List String := []
  total : Nat := 0
  report : Report := {}
  deriving Inhabited

namespace PkginfoScan

def variantLines (scan : PkginfoScan) : Nat := scan.index.length

def file (index : VariantIndex) (r : PkginfoRecord) : VariantIndex :=
  Sorted.alterBy Signature.compareTo r.signature
    (fun g => Sorted.alterBy compare r.version (fun rs => rs.getD [] ++ [r]) (g.getD []))
    index

def addRecord (scan : PkginfoScan) (r : PkginfoRecord) : PkginfoScan :=
  let afterRequires := r.requires.foldl (fun (s : PkginfoScan) d =>
    let (name, version) := Version.split d true
    let s := if version.isEmpty then s
      else { s with requiredVersions := Sorted.insertPair (name, version) s.requiredVersions }
    if s.referencedNames.contains r.name then
      { s with referencedNames := Sorted.insert name s.referencedNames }
    else s) scan
  let afterUpdates := r.updateFor.foldl (fun (s : PkginfoScan) u =>
    let (name, _) := Version.split u true
    if s.referencedNames.contains name then
      { s with referencedNames := Sorted.insert r.name s.referencedNames }
    else s) afterRequires
  { afterUpdates with
    total := afterUpdates.total + 1
    referencedPkgs := r.itemLocations.foldl (fun ps l => Sorted.insert l.path ps)
      afterUpdates.referencedPkgs
    index := file afterUpdates.index r }

def add (scan : PkginfoScan) : Except Error PkginfoRecord → PkginfoScan
  | .ok r => scan.addRecord r
  | .error e => { scan with report := scan.report.error e }

end PkginfoScan

def indexPkgsinfo (loaded : List (String × Except Error PkginfoRecord))
    (referencedNames : List String) : PkginfoScan :=
  loaded.foldl (fun s (_, r) => s.add r) { referencedNames := Sorted.ofList referencedNames }

def incompleteRecords (errors : List Error) : List String :=
  errors.filterMap fun
    | .missingField id _ => some id
    | _ => none

def referenceIncompleteRecords {σ : Type} [Repository σ] (s : σ) (scan : PkginfoScan) :
    PkginfoScan :=
  (incompleteRecords scan.report.errors).foldl (fun scan id =>
    match Repository.get s id >>= declaredItemPaths id with
    | .ok paths => { scan with referencedPkgs := paths.foldl (fun ps p => Sorted.insert p ps) scan.referencedPkgs }
    | .error e =>
      { scan with report := scan.report.warn ("Could not read items of " ++ id ++ ": " ++ e.chainMessage) })
    scan

def scanPkgsinfo {σ : Type} [Repository σ] (s : σ) (referencedNames : List String) :
    Except Error PkginfoScan :=
  (loadAll s).map fun loaded => referenceIncompleteRecords s (indexPkgsinfo loaded referencedNames)

def findOrphans {σ : Type} [Repository σ] (s : σ) (referencedPkgs : List String) :
    Except Error (List String) :=
  let referenced := referencedPkgs.map Text.lower
  (Repository.itemlist s .pkgs).map fun items =>
    items.filter fun p => !referenced.contains (Text.lower p)

end Depot
