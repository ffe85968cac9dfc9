import Depot.Binary64.Read

namespace Depot.Yaml

def coreTag (name : String) : List UInt8 := ("tag:yaml.org,2002:" ++ name).toUTF8.toList

def isNullText (s : String) : Bool := s == "~" || s == "null" || s == "Null" || s == "NULL"

def boolText? (s : String) : Option Bool :=
  if s == "true" || s == "True" || s == "TRUE" then some true
  else if s == "false" || s == "False" || s == "FALSE" then some false
  else none

def zeroLed (s : String) : Bool :=
  let cs := match s.toList with
    | '-' :: r | '+' :: r => r
    | r => r
  match cs with
  | '0' :: r => !r.isEmpty && r.all Char.isDigit
  | _ => false

def radixValue? (signed : Bool) (base : Nat) (s : String) : Option Int :=
  let (neg, cs) := match s.toList with
    | '+' :: r => (false, r)
    | '-' :: r => (signed, if signed then r else '-' :: r)
    | r => (false, r)
  if cs.isEmpty then none
  else
    let digit (c : Char) : Nat :=
      if c.isDigit then c.toNat - 48
      else if 'a' ≤ c && c ≤ 'z' then c.toNat - 87
      else if 'A' ≤ c && c ≤ 'Z' then c.toNat - 55
      else 99
    let value := cs.foldlM (fun n c => if digit c < base then some (base * n + digit c) else none) 0
    value.map fun n => if neg then -(n : Int) else n

def unsignedInt? (bits : Nat) (s : String) : Option Nat :=
  let body := if s.startsWith "+" then (s.drop 1).toString else s
  let fits (v : Int) : Option Nat := if 0 ≤ v && v < Nat.pow 2 bits then some v.toNat else none
  let signed (r : String) := r.startsWith "+" || r.startsWith "-"
  let based (mark : String) (base : Nat) : Option (Option Nat) :=
    if body.startsWith mark then
      let r := (body.drop 2).toString
      if signed r then some none
      else match (radixValue? false base r).bind fits with
        | some n => some (some n)
        | none => none
    else none
  match based "0x" 16 with
  | some r => r
  | none =>
    match based "0o" 8 with
    | some r => r
    | none =>
      match based "0b" 2 with
      | some r => r
      | none =>
        if signed body || zeroLed body then none
        else (radixValue? false 10 body).bind fits

def negativeInt? (bits : Nat) (s : String) : Option Int :=
  let fits (v : Int) : Option Int :=
    if -((Nat.pow 2 (bits - 1) : Nat) : Int) ≤ v && v < Nat.pow 2 (bits - 1) then some v else none
  let based (mark : String) (base : Nat) : Option Int :=
    if s.startsWith mark then
      (radixValue? true base ("-" ++ (s.drop 3).toString)).bind fits
    else none
  match based "-0x" 16 with
  | some v => some v
  | none =>
    match based "-0o" 8 with
    | some v => some v
    | none =>
      match based "-0b" 2 with
      | some v => some v
      | none => if zeroLed s then none else (radixValue? true 10 s).bind fits

def realText? (s : String) : Option Binary64 :=
  let body := if s.startsWith "+" then
      let r := (s.drop 1).toString
      if r.startsWith "+" || r.startsWith "-" then none else some r
    else some s
  match body with
  | none => none
  | some b =>
    if b == ".inf" || b == ".Inf" || b == ".INF" then some (Binary64.infinity false)
    else if s == "-.inf" || s == "-.Inf" || s == "-.INF" then some (Binary64.infinity true)
    else if s == ".nan" || s == ".NaN" || s == ".NAN" then some Binary64.nan
    else match Binary64.read? b with
      | some x => if x.isFinite then some x else none
      | none => none

inductive Reading where
  | null
  | boolean (b : Bool)
  | integer (i : Int)
  | wideInteger (i : Int)
  | real (x : Binary64)
  | text (s : String)
  deriving Inhabited

def integerReading? (s : String) : Option Reading :=
  match unsignedInt? 64 s with
  | some n => some (.integer n)
  | none =>
    match negativeInt? 64 s with
    | some i => some (.integer i)
    | none =>
      match unsignedInt? 128 s with
      | some n => some (.wideInteger n)
      | none => (negativeInt? 128 s).map .wideInteger

def plainReading (s : String) : Reading :=
  if s.isEmpty || isNullText s then .null
  else match boolText? s with
    | some b => .boolean b
    | none =>
      match integerReading? s with
      | some r => r
      | none =>
        match (if zeroLed s then none else realText? s) with
        | some x => .real x
        | none => .text s

def scalarReading (tag : Option (List UInt8)) (text : String) (plain tagged : Bool) :
    Except String Reading :=
  match tag, tagged with
  | some t, false =>
    if t == coreTag "bool" then
      match boolText? text with
      | some b => .ok (.boolean b)
      | none => .error "a boolean"
    else if t == coreTag "int" then
      match integerReading? text with
      | some r => .ok r
      | none => .error "an integer"
    else if t == coreTag "float" then
      match realText? text with
      | some x => .ok (.real x)
      | none => .error "a float"
    else if t == coreTag "null" then
      if isNullText text then .ok .null else .error "null"
    else if t.head? == some 0x21 && plain then .ok (plainReading text)
    else .ok (.text text)
  | _, _ => .ok (if plain then plainReading text else .text text)

end Depot.Yaml
