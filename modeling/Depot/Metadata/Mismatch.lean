import Depot.Binary64.Shortest
import Depot.Text.Quoted

namespace Depot

inductive Found where
  | boolean (b : Bool)
  | unsigned (n : Nat)
  | signed (i : Int)
  | wideUnsigned (n : Nat)
  | wideSigned (i : Int)
  | real (x : Binary64)
  | text (s : String)
  | bytes
  | unit
  | option
  | sequence
  | map
  | variant
  deriving Repr, Inhabited

def Found.realLayout : Decimal.Layout where
  positionalMax := 400
  positionalMin := -400
  pointZero := true
  exponentMark := "e"
  infinityText := "inf"
  nanText := "NaN"

def intText (i : Int) : String :=
  if i < 0 then "-" ++ toString i.natAbs else toString i.natAbs

def Found.describe : Found → String
  | .boolean b => "boolean `" ++ (if b then "true" else "false") ++ "`"
  | .unsigned n => "integer `" ++ toString n ++ "`"
  | .signed i => "integer `" ++ intText i ++ "`"
  | .wideUnsigned n => "integer `" ++ toString n ++ "` as u128"
  | .wideSigned i => "integer `" ++ intText i ++ "` as i128"
  | .real x => "floating point `" ++ Decimal.layout Found.realLayout x ++ "`"
  | .text s => "string " ++ Text.quoted s
  | .bytes => "byte array"
  | .unit => "unit value"
  | .option => "Option value"
  | .sequence => "sequence"
  | .map => "map"
  | .variant => "enum"

def Found.integer (i : Int) : Found :=
  if i < 0 then
    if i < -((Nat.pow 2 63 : Nat) : Int) then .wideSigned i else .signed i
  else if i ≥ Nat.pow 2 64 then .wideUnsigned i.toNat else .unsigned i.toNat

inductive Mismatch where
  | invalidType (found : Found) (expected : String)
  | invalidValue (found : Found) (expected : String)
  | duplicateField (name : String)
  | unknownVariant (name : String) (expected : List String)
  deriving Repr, Inhabited

namespace Mismatch

def oneOf (names : List String) : String :=
  let quote (n : String) := "`" ++ n ++ "`"
  match names with
  | [a] => quote a
  | [a, b] => quote a ++ " or " ++ quote b
  | _ => "one of " ++ ", ".intercalate (names.map quote)

def message : Mismatch → String
  | .invalidType f e => "invalid type: " ++ f.describe ++ ", expected " ++ e
  | .invalidValue f e => "invalid value: " ++ f.describe ++ ", expected " ++ e
  | .duplicateField n => "duplicate field `" ++ n ++ "`"
  | .unknownVariant n [] => "unknown variant `" ++ n ++ "`, there are no variants"
  | .unknownVariant n es => "unknown variant `" ++ n ++ "`, expected " ++ oneOf es

end Mismatch

end Depot
