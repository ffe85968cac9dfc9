import Depot.Binary64.Basic
import Depot.Metadata.Date

namespace Depot

inductive Value where
  | string (s : String)
  | integer (i : Int)
  | real (x : Binary64)
  | boolean (b : Bool)
  | date (t : Date)
  | data (bytes : ByteArray)
  | uid (n : Nat)
  | array (items : List Value)
  | dict (entries : List (String × Value))
  | null
  deriving Inhabited

namespace Value

def lookup (entries : List (String × Value)) (key : String) : Option Value :=
  (entries.find? (·.1 == key)).map (·.2)

def insertEntry (entries : List (String × Value)) (key : String) (v : Value) :
    List (String × Value) :=
  if entries.any (·.1 == key) then entries.map fun e => if e.1 == key then (key, v) else e
  else entries ++ [(key, v)]

def insertAll (entries : List (String × Value)) : List (String × Value) :=
  entries.foldl (fun acc e => insertEntry acc e.1 e.2) []

mutual
def normal : Value → Value
  | .array items => .array (normalList items)
  | .dict entries => .dict (insertAll (normalEntries entries))
  | v => v

def normalList : List Value → List Value
  | [] => []
  | v :: vs => normal v :: normalList vs

def normalEntries : List (String × Value) → List (String × Value)
  | [] => []
  | (k, v) :: es => (k, normal v) :: normalEntries es
end

end Value

end Depot
