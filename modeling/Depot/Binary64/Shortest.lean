import Depot.Binary64.Read

namespace Depot.Binary64

def compareScaled (a : Nat) (k : Int) (b : Nat) (s : Int) : Ordering :=
  compare (a * Nat.pow 10 k.toNat * Nat.pow 2 (-s).toNat) (b * Nat.pow 2 s.toNat * Nat.pow 10 (-k).toNat)

def floorScaled (b : Nat) (s k : Int) : Nat :=
  (b * Nat.pow 2 s.toNat * Nat.pow 10 (-k).toNat) / (Nat.pow 2 (-s).toNat * Nat.pow 10 k.toNat)

def roundingInterval (x : Binary64) : Nat × Nat × Nat × Int :=
  let m := x.significand
  let s := x.exponent - 2
  -- below a power of two the lower neighbour is twice as close
  let low := if x.fraction = 0 && x.biased > 1 then 4 * m - 1 else 4 * m - 2
  (low, 4 * m, 4 * m + 2, s)

def gridPointRounds (x : Binary64) (c : Nat) (k : Int) : Bool :=
  let (low, _, high, s) := roundingInterval x
  let inclusive := x.significand % 2 == 0
  let aboveLow := match compareScaled c k low s with
    | .gt => true
    | .eq => inclusive
    | .lt => false
  let belowHigh := match compareScaled c k high s with
    | .lt => true
    | .eq => inclusive
    | .gt => false
  aboveLow && belowHigh

def gridChoice (x : Binary64) (k : Int) : Option Nat :=
  let (_, mid, _, s) := roundingInterval x
  let f := floorScaled mid s k
  match gridPointRounds x f k, gridPointRounds x (f + 1) k with
  | true, true =>
    match compareScaled (2 * f + 1) k (2 * mid) s with
    | .gt => some f
    | .lt => some (f + 1)
    | .eq => some (if f % 2 == 0 then f else f + 1)
  | true, false => some f
  | false, true => some (f + 1)
  | false, false => none

def trimZeros (d : Nat) (k : Int) : Nat → Nat × Int
  | 0 => (d, k)
  | fuel + 1 => if d ≠ 0 && d % 10 == 0 then trimZeros (d / 10) (k + 1) fuel else (d, k)

def searchGrids (x : Binary64) (k : Int) : Nat → Option (Nat × Int)
  | 0 => none
  | fuel + 1 =>
    match gridChoice x k with
    | some c => some (trimZeros c k 20)
    | none => searchGrids x (k - 1) fuel

def shortest (x : Binary64) : Nat × Int :=
  let (_, _, high, s) := roundingInterval x
  -- a power of ten above the interval: `2 ^ b ≤ 10 ^ (⌊b * 0.30103⌋ + 1)`
  let b : Int := ((Nat.log2 high + 1 : Nat) : Int) + s
  let start : Int := b * 30103 / 100000 + 2
  match searchGrids x start 64 with
  | some r => r
  | none => (x.significand, 0)

end Depot.Binary64

namespace Depot.Decimal

structure Layout where
  positionalMax : Int
  positionalMin : Int
  pointZero : Bool
  exponentMark : String
  infinityText : String
  nanText : String

def zeros (n : Nat) : String := String.ofList (List.replicate n '0')

def placeDigits (l : Layout) (ds : String) (point : Int) : String :=
  let n := (ds.length : Int)
  if point ≥ n && point ≤ l.positionalMax then
    ds ++ zeros (point - n).toNat ++ (if l.pointZero then ".0" else "")
  else if 0 < point && point ≤ l.positionalMax then
    String.ofList (ds.toList.take point.toNat) ++ "." ++ String.ofList (ds.toList.drop point.toNat)
  else if l.positionalMin < point && point ≤ 0 then
    "0." ++ zeros (-point).toNat ++ ds
  else
    let mantissa := match ds.toList with
      | [d] => String.singleton d
      | d :: rest => String.singleton d ++ "." ++ String.ofList rest
      | [] => "0"
    mantissa ++ l.exponentMark ++ toString (point - 1)

def layout (l : Layout) (x : Binary64) : String :=
  let sign := if x.negative then "-" else ""
  if x.isNaN then l.nanText
  else if x.isInfinite then sign ++ l.infinityText
  else if x.isZero then sign ++ "0" ++ (if l.pointZero then ".0" else "")
  else
    let (d, k) := x.shortest
    let ds := toString d
    sign ++ placeDigits l ds (ds.length + k)

end Depot.Decimal
