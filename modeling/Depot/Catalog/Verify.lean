import Depot.Pkginfo.Record
import Depot.Text.Lower

namespace Depot

def noPayloadTypes : List String := ["nopkg", "apple_update_metadata"]

def uninstallerMethods : List String := ["AdobeCCPUninstaller"]

structure PkgIndex where
  paths : List String := []
  lowered : List (String × String) := []

namespace PkgIndex

def ofList (paths : List String) : PkgIndex :=
  { paths
    lowered := paths.foldl (fun acc p =>
      let l := Text.lower p
      if acc.any (·.1 == l) then acc else acc ++ [(l, p)]) [] }

def lookup (idx : PkgIndex) (role : ItemRole) (location : String) : Except Error (Option String) :=
  if idx.paths.contains location then .ok none
  else match idx.lowered.find? (·.1 == Text.lower location) with
    | some (_, actual) => .ok (some actual)
    | none => .error (.missingItem role location)

end PkgIndex

def caseWarning (r : PkginfoRecord) (role : ItemRole) (location actual : String) : String :=
  r.identifier ++ " refers to " ++ role.word ++ " item: " ++ location ++
    ". The pathname of the item in the repo has different case: " ++ actual ++
    ". This may cause issues depending on the case-sensitivity of the underlying filesystem."

def verifyItems (r : PkginfoRecord) (idx : PkgIndex) : Except Error (List String) := do
  let noPayload := match r.installerType with
    | some t => noPayloadTypes.contains t
    | none => false
  if noPayload || r.remotePackage then return []
  let some installer := r.installer | throw (.missingLocation .installer)
  let needsUninstaller := match r.uninstallMethod with
    | some m => uninstallerMethods.contains m
    | none => false
  let checks ← match r.uninstaller with
    | some u => pure [(ItemRole.installer, installer), (.uninstaller, u)]
    | none => if needsUninstaller then throw (.missingLocation .uninstaller) else pure [(.installer, installer)]
  checks.foldlM (fun ws (role, l) => do
    match ← idx.lookup role l.path with
    | some actual => pure (ws ++ [caseWarning r role l.path actual])
    | none => pure ws) []

end Depot
