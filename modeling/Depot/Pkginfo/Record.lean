import Depot.Metadata.Format
import Depot.Size

namespace Depot

def removePackages : String := "removepackages"

structure ItemLocation where
  path : String
  size : Nat
  deriving DecidableEq, Repr, Inhabited

def ItemLocation.identifier (l : ItemLocation) : String := "pkgs/" ++ l.path

def sortedUnique (xs : List String) : List String :=
  (xs.mergeSort fun a b => a ≤ b).eraseDups

structure Constraints where
  minimumOsVersion : Option String
  maximumOsVersion : Option String
  architectures : List String
  installableCondition : Option String
  deriving DecidableEq, Repr, Inhabited

def Constraints.mk' (minimum maximum : Option String) (architectures : List String)
    (condition : Option String) : Constraints :=
  ⟨minimum, maximum, sortedUnique architectures, condition⟩

structure PkginfoFields where
  name : Option String
  version : Option String
  catalogs : List String
  requires : List String
  updateFor : List String
  uninstallMethod : Option String
  receipts : List (Option String)
  installerLocation : Option String
  installerSize : Option Nat
  uninstallerLocation : Option String
  uninstallerSize : Option Nat
  installerType : Option String
  packageUrl : Option String
  packageCompleteUrl : Option String
  minimumOsVersion : Option String
  maximumOsVersion : Option String
  architectures : List String
  installableCondition : Option String

def PkginfoFields.shape : Shape :=
  let optText : Shape := .optional .text
  let optCount : Shape := .optional .count
  .record "PkginfoFields"
    [("name", optText), ("version", optText), ("catalogs", .list .text), ("requires", .list .text),
     ("update_for", .list .text), ("uninstall_method", optText),
     ("receipts", .list (.record "Receipt" [("packageid", optText)])),
     ("installer_item_location", optText), ("installer_item_size", optCount),
     ("uninstaller_item_location", optText), ("uninstaller_item_size", optCount),
     ("installer_type", optText), ("PackageURL", optText), ("PackageCompleteURL", optText),
     ("minimum_os_version", optText), ("maximum_os_version", optText),
     ("supported_architectures", .list .text), ("installable_condition", optText)]

def PkginfoFields.ofDatum (d : Datum) : PkginfoFields :=
  let text (i : Nat) := (d.field i).text?
  let count (i : Nat) := (d.field i).count?
  let texts (i : Nat) := (d.field i).texts
  { name := text 0
    version := text 1
    catalogs := texts 2
    requires := texts 3
    updateFor := texts 4
    uninstallMethod := text 5
    receipts := (d.field 6).items.map fun r => (r.field 0).text?
    installerLocation := text 7
    installerSize := count 8
    uninstallerLocation := text 9
    uninstallerSize := count 10
    installerType := text 11
    packageUrl := text 12
    packageCompleteUrl := text 13
    minimumOsVersion := text 14
    maximumOsVersion := text 15
    architectures := texts 16
    installableCondition := text 17 }

def nonEmpty (o : Option String) : Option String :=
  match o with
  | some s => if s.isEmpty then none else some s
  | none => none

structure PkginfoRecord where
  identifier : String
  metadataSize : Nat
  name : String
  version : String
  catalogs : List String
  requires : List String
  updateFor : List String
  uninstallMethod : Option String
  receipts : List String
  installer : Option ItemLocation
  uninstaller : Option ItemLocation
  installerType : Option String
  remotePackage : Bool
  constraints : Constraints
  document : List (String × Value)

namespace PkginfoRecord

def parse (identifier : String) (data : ByteArray) : Except Error PkginfoRecord := do
  let fields := PkginfoFields.ofDatum (← decode identifier data PkginfoFields.shape)
  let document := (← decode identifier data .dictionary).entries
  let name ← match nonEmpty fields.name with
    | some n => pure n
    | none => throw (.missingField identifier "name")
  let version ← match nonEmpty fields.version with
    | some v => pure v
    | none => throw (.missingField identifier "version")
  let location (path : Option String) (size : Option Nat) : Option ItemLocation :=
    (nonEmpty path).map fun p => ⟨p, Size.kibToBytes (size.getD 0)⟩
  pure {
    identifier
    metadataSize := data.size
    name
    version
    catalogs := fields.catalogs
    requires := fields.requires
    updateFor := fields.updateFor
    uninstallMethod := fields.uninstallMethod
    receipts := fields.receipts.filterMap id
    installer := location fields.installerLocation fields.installerSize
    uninstaller := location fields.uninstallerLocation fields.uninstallerSize
    installerType := fields.installerType
    remotePackage := fields.packageUrl.isSome || fields.packageCompleteUrl.isSome
    constraints := .mk' fields.minimumOsVersion fields.maximumOsVersion fields.architectures
      fields.installableCondition
    document }

def itemLocations (r : PkginfoRecord) : List ItemLocation :=
  r.installer.toList ++ r.uninstaller.toList

def usesRemovePackages (r : PkginfoRecord) : Bool :=
  r.uninstallMethod == some removePackages

end PkginfoRecord

def itemPathsShape : Shape :=
  .record "ItemPaths"
    [("installer_item_location", .optional .text), ("uninstaller_item_location", .optional .text)]

def declaredItemPaths (identifier : String) (data : ByteArray) : Except Error (List String) := do
  let paths ← decode identifier data itemPathsShape
  pure ([(paths.field 0).text?, (paths.field 1).text?].filterMap nonEmpty)

end Depot
