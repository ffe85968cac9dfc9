import Depot.Metadata.Value

namespace Depot

inductive Shape where
  | text
  | count
  | optional (s : Shape)
  | list (s : Shape)
  | record (name : String) (fields : List (String × Shape))
  | enclosing
  | dictionary
  deriving Inhabited

inductive Datum where
  | absent
  | text (s : String)
  | count (n : Nat)
  | list (items : List Datum)
  | record (fields : List Datum)
  | dictionary (entries : List (String × Value))
  deriving Inhabited

namespace Shape

def expecting : Shape → String
  | .text => "a string"
  | .count => "u64"
  | .optional _ => "option"
  | .list _ => "a sequence"
  | .record name _ => "struct " ++ name
  | .enclosing => "a struct"
  | .dictionary => "a map"

def fieldDefault : Shape → Datum
  | .list _ => .list []
  | _ => .absent

end Shape

namespace Datum

def text? : Datum → Option String
  | .text s => some s
  | _ => none

def count? : Datum → Option Nat
  | .count n => some n
  | _ => none

def items : Datum → List Datum
  | .list ds => ds
  | _ => []

def texts (d : Datum) : List String := d.items.filterMap text?

def field (d : Datum) (i : Nat) : Datum :=
  match d with
  | .record fs => fs.getD i .absent
  | _ => .absent

def entries : Datum → List (String × Value)
  | .dictionary es => es
  | _ => []

end Datum

end Depot
