import Depot.Text.CombiningClass
import Depot.Text.Decomposition

namespace Depot.Text

def hangulFirst : Nat := 0xAC00

def hangulCount : Nat := 11172

def leadingFirst : Nat := 0x1100

def vowelFirst : Nat := 0x1161

def trailingBase : Nat := 0x11A7

def vowelCount : Nat := 21

def trailingCount : Nat := 28

def decompose : Nat → Char → List Char
  | 0, c => [c]
  | fuel + 1, c =>
    let s := c.toNat - hangulFirst
    if hangulFirst ≤ c.toNat && s < hangulCount then
      let l := Char.ofNat (leadingFirst + s / (vowelCount * trailingCount))
      let v := Char.ofNat (vowelFirst + (s % (vowelCount * trailingCount)) / trailingCount)
      let t := s % trailingCount
      if t == 0 then [l, v] else [l, v, Char.ofNat (trailingBase + t)]
    else
      match decomposition? c with
      | some ds => ds.flatMap (decompose fuel)
      | none => [c]

def insertMark (c : Char) : List Char → List Char
  | [] => [c]
  | d :: ds => if combiningClass d > combiningClass c then d :: insertMark c ds else c :: d :: ds

def canonicalOrder (cs : List Char) : List Char :=
  (cs.foldl (fun acc c => if combiningClass c == 0 then c :: acc else insertMark c acc) []).reverse

def composite? (a b : Char) : Option Char :=
  let x := a.toNat
  let y := b.toNat
  if leadingFirst ≤ x && x < leadingFirst + 19 && vowelFirst ≤ y && y < vowelFirst + vowelCount then
    some (Char.ofNat (hangulFirst + ((x - leadingFirst) * vowelCount + (y - vowelFirst)) * trailingCount))
  else if hangulFirst ≤ x && x < hangulFirst + hangulCount && (x - hangulFirst) % trailingCount == 0 &&
      trailingBase < y && y < trailingBase + trailingCount then
    some (Char.ofNat (x + (y - trailingBase)))
  else pairComposite? a b

structure Composing where
  out : Array Char := #[]
  starter : Nat := 0
  last : Nat := 256

def Composing.push (s : Composing) (c : Char) : Composing :=
  let k := combiningClass c
  if s.out.isEmpty then { out := #[c], starter := 0, last := if k == 0 then 0 else 256 }
  else
    let composed :=
      if s.last < k || s.last == 0 then composite? (s.out.getD s.starter c) c else none
    match composed with
    | some x => { s with out := s.out.setIfInBounds s.starter x }
    | none =>
      { out := s.out.push c, starter := if k == 0 then s.out.size else s.starter, last := k }

def nfc (cs : List Char) : List Char :=
  (((canonicalOrder (cs.flatMap (decompose 4))).foldl Composing.push {}).out).toList

end Depot.Text
