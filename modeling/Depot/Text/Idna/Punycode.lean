
namespace Depot.Text.Idna.Punycode

def base : Nat := 36

def thresholdMin : Nat := 1

def thresholdMax : Nat := 26

def initialCode : Nat := 0x80

def initialBias : Nat := 72

def countLimit : Nat := 0xFFFFFFFF

def digit? (c : Char) : Option Nat :=
  if 'a' ≤ c && c ≤ 'z' then some (c.toNat - 97)
  else if 'A' ≤ c && c ≤ 'Z' then some (c.toNat - 65)
  else if '0' ≤ c && c ≤ '9' then some (c.toNat - 22)
  else none

def adapt (delta points : Nat) (first : Bool) : Nat :=
  let delta := delta / (if first then 700 else 2)
  let delta := delta + delta / points
  let rec go (delta k : Nat) : Nat → Nat
    | 0 => k + (36 * delta) / (delta + 38)
    | fuel + 1 =>
      if delta > ((base - thresholdMin) * thresholdMax) / 2 then go (delta / (base - thresholdMin)) (k + base) fuel
      else k + (36 * delta) / (delta + 38)
  go delta 0 8

def threshold (k bias : Nat) : Nat :=
  if k ≤ bias then thresholdMin else if k ≥ bias + thresholdMax then thresholdMax else k - bias

def readNumber (bias : Nat) (cs : List Char) (i weight k : Nat) : Nat → Option (Nat × List Char)
  | 0 => none
  | fuel + 1 =>
    match cs with
    | [] => none
    | c :: rest => do
      let d ← digit? c
      if d * weight > countLimit - i then none
      else
        let i := i + d * weight
        let t := threshold k bias
        if d < t then some (i, rest)
        else if weight * (base - t) > countLimit then none
        else readNumber bias rest i (weight * (base - t)) (k + base) fuel

def insertAll (out : List Char) (code bias i : Nat) (cs : List Char) : Nat → Option (List Char)
  | 0 => none
  | fuel + 1 =>
    match cs with
    | [] => some out
    | _ => do
      let (i', rest) ← readNumber bias cs i 1 base (cs.length + 1)
      let points := out.length + 1
      let bias := adapt (i' - i) points (i == 0)
      if i' / points > countLimit - code then none
      else
        let code := code + i' / points
        let pos := i' % points
        if code > 0x10FFFF || (0xD800 ≤ code && code ≤ 0xDFFF) then none
        else insertAll (out.insertIdx pos (Char.ofNat code)) code bias (pos + 1) rest fuel

def decode (cs : List Char) : Option (List Char) :=
  let (basic, numbers) :=
    match (cs.reverse.findIdx? (· == '-')) with
    | some j => (cs.take (cs.length - 1 - j), cs.drop (cs.length - j))
    | none => ([], cs)
  insertAll basic initialCode initialBias 0 numbers (numbers.length + 1)

end Depot.Text.Idna.Punycode
