
namespace Depot.Text

structure Row where
  start : Nat
  tag : Char
  values : List Nat
  deriving Inhabited, Repr

namespace Row

def digit? (c : Char) : Option Nat :=
  if '0' ≤ c && c ≤ '9' then some (c.toNat - 48)
  else if 'a' ≤ c && c ≤ 'f' then some (c.toNat - 87)
  else none

structure Reading where
  rows : Array Row := #[]
  start : Nat := 0
  number : Nat := 0
  digits : Bool := false
  tag : Char := ' '
  values : Array Nat := #[]

def Reading.push (r : Reading) (c : Char) : Reading :=
  match digit? c with
  | some d => { r with number := 16 * r.number + d, digits := true }
  | none =>
    if 'A' ≤ c && c ≤ 'Z' then
      { r with start := r.start + r.number, number := 0, digits := false, tag := c }
    else if c == ',' || c == ';' then
      let values := if r.digits then r.values.push r.number else r.values
      if c == ',' then { r with values := values, number := 0, digits := false }
      else
        { r with rows := r.rows.push ⟨r.start, r.tag, values.toList⟩, values := #[], number := 0,
                 digits := false }
    else r

def unpack (text : String) : Array Row := (text.foldl Reading.push {}).rows

def firstAfter (rows : Array Row) (cp : Nat) (lo hi : Nat) : Nat → Nat
  | 0 => lo
  | fuel + 1 =>
    if lo < hi then
      let mid := (lo + hi) / 2
      if (rows.getD mid default).start ≤ cp then firstAfter rows cp (mid + 1) hi fuel
      else firstAfter rows cp lo mid fuel
    else lo

def find? (rows : Array Row) (cp : Nat) : Option Row :=
  match firstAfter rows cp 0 rows.size 64 with
  | 0 => none
  | n + 1 => rows[n]?

end Row

end Depot.Text
