
namespace Depot

structure Binary64 where
  bits : UInt64
  deriving DecidableEq, Repr, Inhabited

namespace Binary64

def negative (x : Binary64) : Bool := x.bits >>> 63 == 1

def biased (x : Binary64) : Nat := ((x.bits >>> 52) &&& 0x7FF).toNat

def fraction (x : Binary64) : Nat := (x.bits &&& 0xFFFFFFFFFFFFF).toNat

def isNaN (x : Binary64) : Bool := x.biased == 2047 && x.fraction != 0

def isInfinite (x : Binary64) : Bool := x.biased == 2047 && x.fraction == 0

def isFinite (x : Binary64) : Bool := x.biased != 2047

def isZero (x : Binary64) : Bool := x.biased == 0 && x.fraction == 0

def significand (x : Binary64) : Nat :=
  if x.biased = 0 then x.fraction else x.fraction + Nat.pow 2 52

def exponent (x : Binary64) : Int :=
  if x.biased = 0 then -1074 else (x.biased : Int) - 1075

def ofFields (neg : Bool) (biased fraction : Nat) : Binary64 :=
  ⟨((if neg then 1 else 0 : UInt64) <<< 63) ||| ((biased % 2048).toUInt64 <<< 52) |||
    (fraction % Nat.pow 2 52).toUInt64⟩

def infinity (neg : Bool) : Binary64 := ofFields neg 2047 0

def zero (neg : Bool) : Binary64 := ofFields neg 0 0

def nan : Binary64 := ofFields false 2047 (Nat.pow 2 51)

def ofExact (neg : Bool) (m : Nat) (q : Int) : Binary64 :=
  if m < Nat.pow 2 52 then ofFields neg 0 m
  else ofFields neg (q + 1075).toNat (m - Nat.pow 2 52)

end Binary64

end Depot
