import Depot.Metadata.Date
import Depot.Binary64.Basic

namespace Depot.Plist

inductive Event where
  | startArray
  | startDictionary
  | endCollection
  | string (s : String)
  | integer (i : Int)
  | real (x : Binary64)
  | boolean (b : Bool)
  | date (t : Date)
  | data (bytes : ByteArray)
  | uid (n : Nat)
  deriving Inhabited

inductive EventKind where
  | startArray
  | startDictionary
  | endCollection
  | valueOrStartCollection
  | dictionaryKeyOrEndCollection
  | boolean
  | data
  | date
  | integer
  | real
  | string
  | uid
  deriving DecidableEq, Repr, Inhabited

def EventKind.name : EventKind → String
  | .startArray => "StartArray"
  | .startDictionary => "StartDictionary"
  | .endCollection => "EndCollection"
  | .valueOrStartCollection => "ValueOrStartCollection"
  | .dictionaryKeyOrEndCollection => "DictionaryKeyOrEndCollection"
  | .boolean => "Boolean"
  | .data => "Data"
  | .date => "Date"
  | .integer => "Integer"
  | .real => "Real"
  | .string => "String"
  | .uid => "Uid"

def Event.kind : Event → EventKind
  | .startArray => .startArray
  | .startDictionary => .startDictionary
  | .endCollection => .endCollection
  | .string _ => .string
  | .integer _ => .integer
  | .real _ => .real
  | .boolean _ => .boolean
  | .date _ => .date
  | .data _ => .data
  | .uid _ => .uid

end Depot.Plist
