import Depot.Binary64.Basic

namespace Depot.Binary64

def roundDiv (num den : Nat) : Nat :=
  let q := num / den
  let r := num % den
  if 2 * r < den then q
  else if 2 * r > den then q + 1
  else if q % 2 == 0 then q else q + 1

def decimalLength (n : Nat) : Nat :=
  if n = 0 then 0 else (Nat.toDigits 10 n).length

def atLeastPow2 (num den : Nat) (a : Int) : Bool :=
  decide (num * Nat.pow 2 (-a).toNat ≥ den * Nat.pow 2 a.toNat)

def ofRatio (neg : Bool) (num den : Nat) : Binary64 :=
  let a : Int := (num.log2 : Int) - (den.log2 : Int)
  -- the binary exponent of the leading digit: `a` or one less
  let e2 : Int := if atLeastPow2 num den a then a else a - 1
  let q : Int := max (e2 - 52) (-1074)
  let m := roundDiv (num * Nat.pow 2 (-q).toNat) (den * Nat.pow 2 q.toNat)
  let (m, q) := if m = Nat.pow 2 53 then (Nat.pow 2 52, q + 1) else (m, q)
  if q > 971 then infinity neg else ofExact neg m q

def ofDecimal (neg : Bool) (digits : Nat) (exp10 : Int) : Binary64 :=
  if digits = 0 then zero neg
  else
    let len := (decimalLength digits : Int)
    if len - 1 + exp10 > 309 then infinity neg
    else if len + exp10 < -325 then zero neg
    else ofRatio neg (digits * Nat.pow 10 exp10.toNat) (Nat.pow 10 (-exp10).toNat)

def digitsValue (ds : List Char) : Nat :=
  ds.foldl (fun n c => 10 * n + (c.toNat - '0'.toNat)) 0

def spanDigits (cs : List Char) : List Char × List Char :=
  (cs.takeWhile Char.isDigit, cs.dropWhile Char.isDigit)

def readSign : List Char → Bool × List Char
  | '-' :: r => (true, r)
  | '+' :: r => (false, r)
  | cs => (false, cs)

def readExponent : List Char → Option Int
  | [] => some 0
  | c :: r =>
    if c == 'e' || c == 'E' then
      let (neg, r) := readSign r
      if !r.isEmpty && r.all Char.isDigit then
        let v := (digitsValue r : Int)
        some (if neg then -v else v)
      else none
    else none

def readUnsigned (neg : Bool) (cs : List Char) : Option Binary64 :=
  let (whole, rest) := spanDigits cs
  let (frac, rest) :=
    match rest with
    | '.' :: r => spanDigits r
    | _ => ([], rest)
  let hasPoint := match cs.drop whole.length with
    | '.' :: _ => true
    | _ => false
  if whole.isEmpty && frac.isEmpty then none
  else if !hasPoint && !frac.isEmpty then none
  else
    match readExponent rest with
    | some e => some (ofDecimal neg (digitsValue (whole ++ frac)) (e - frac.length))
    | none => none

def read? (s : String) : Option Binary64 :=
  let (neg, rest) := readSign s.toList
  let word := String.ofList (rest.map Char.toLower)
  if word == "inf" || word == "infinity" then some (infinity neg)
  else if word == "nan" then some (if neg then ofFields true 2047 (Nat.pow 2 51) else nan)
  else readUnsigned neg rest

end Depot.Binary64
