import Depot.Pkginfo.Record

namespace Depot

structure Signature where
  name : String
  catalogs : List String
  constraints : Constraints
  receipts : List String
  deriving DecidableEq, Repr, Inhabited

def PkginfoRecord.signature (r : PkginfoRecord) : Signature :=
  { name := r.name
    catalogs := sortedUnique r.catalogs
    constraints := r.constraints
    receipts := if r.usesRemovePackages then sortedUnique r.receipts else [] }

namespace Signature

def compareLists : List String → List String → Ordering
  | [], [] => .eq
  | [], _ :: _ => .lt
  | _ :: _, [] => .gt
  | a :: as, b :: bs => (compare a b).then (compareLists as bs)

def compareOptions : Option String → Option String → Ordering
  | none, none => .eq
  | none, some _ => .lt
  | some _, none => .gt
  | some a, some b => compare a b

def compareConstraints (x y : Constraints) : Ordering :=
  (compareOptions x.minimumOsVersion y.minimumOsVersion).then <|
  (compareOptions x.maximumOsVersion y.maximumOsVersion).then <|
  (compareLists x.architectures y.architectures).then <|
  compareOptions x.installableCondition y.installableCondition

def compareTo (x y : Signature) : Ordering :=
  (compare x.name y.name).then <|
  (compareLists x.catalogs y.catalogs).then <|
  (compareConstraints x.constraints y.constraints).then <|
  compareLists x.receipts y.receipts

def display (s : Signature) : String :=
  let c := s.constraints
  s.name ++ " [" ++ ", ".intercalate s.catalogs ++ "]" ++
    (match c.minimumOsVersion with
      | some v => " minimum_os_version=" ++ v
      | none => "") ++
    (match c.maximumOsVersion with
      | some v => " maximum_os_version=" ++ v
      | none => "") ++
    (if c.architectures.isEmpty then "" else " supported_architectures=" ++ ",".intercalate c.architectures) ++
    (match c.installableCondition with
      | some v => " installable_condition=\"" ++ v ++ "\""
      | none => "") ++
    (if s.receipts.isEmpty then "" else " receipts=" ++ ",".intercalate s.receipts)

end Signature

end Depot
