import Depot.Manifest
import Depot.Session
import Depot.Sorted
import Depot.Version.Split

namespace Depot

structure ManifestScan where
  referencedNames : List String := []
  pinnedVersions : List (String × String) := []
  manifestCount : Nat := 0
  report : Report := {}
  deriving Inhabited

namespace ManifestScan

def addReference (scan : ManifestScan) (reference : String) : ManifestScan :=
  let (name, version) := Version.split reference true
  { scan with
    referencedNames := Sorted.insert name scan.referencedNames
    pinnedVersions :=
      if version.isEmpty then scan.pinnedVersions
      else Sorted.insertPair (name, version) scan.pinnedVersions }

def add (scan : ManifestScan) : Except Error Manifest → ManifestScan
  | .ok m =>
    let s := m.references.foldl addReference scan
    { s with manifestCount := s.manifestCount + 1 }
  | .error e => { scan with report := scan.report.error e }

def ofLoaded (loaded : List (String × Except Error Manifest)) : ManifestScan :=
  loaded.foldl (fun s (_, m) => s.add m) {}

end ManifestScan

def loadManifest {σ : Type} [Repository σ] (s : σ) (identifier : String) : Except Error Manifest :=
  Repository.get s identifier >>= Manifest.parse identifier

def scanManifests {σ : Type} [Repository σ] (log : Logger) : Work σ ManifestScan := do
  let ids ← Work.read (Repository.list · .manifests)
  Work.say (log.detail 1 ("Scanning " ++ toString ids.length ++ " manifests..."))
  let s := (← get).store
  let loaded := ids.map fun id => (id, loadManifest s id)
  for (id, m) in loaded do
    if m matches .ok _ then Work.say (log.detail 2 ("  " ++ id))
  pure (ManifestScan.ofLoaded loaded)

end Depot
