import Depot.Yaml.Mark

namespace Depot.Yaml

def isAllowedCode (n : Nat) : Bool :=
  n == 0x09 || n == 0x0A || n == 0x0D || (0x20 ≤ n && n ≤ 0x7E) || n == 0x85 ||
    (0xA0 ≤ n && n ≤ 0xD7FF) || (0xE000 ≤ n && n ≤ 0xFFFD) || (0x10000 ≤ n && n ≤ 0x10FFFF)

structure Input where
  chars : Array Char
  blocks : List Nat
  fault : Option Problem
  deriving Inhabited

namespace Input

def blockSize : Nat := 16384

inductive Step where
  | char (c : Char) (width : Nat)
  | cut
  | fault (p : Problem)

def byteAt (b : ByteArray) (i : Nat) : Nat := if h : i < b.size then b[i].toNat else 0

def checked (pos width v : Nat) : Step :=
  if isAllowedCode v then .char (Char.ofNat v) width
  else .fault (.ofBytes "control characters are not allowed" pos)

def utf8Step (b : ByteArray) (pos stop : Nat) (ended : Bool) : Step :=
  let o := byteAt b pos
  let width := if o < 0x80 then 1 else if o / 0x20 == 6 then 2 else if o / 0x10 == 14 then 3
    else if o / 8 == 30 then 4 else 0
  if width == 0 then .fault (.ofBytes "invalid leading UTF-8 octet" pos)
  else if pos + width > stop then
    if ended then .fault (.ofBytes "incomplete UTF-8 octet sequence" pos) else .cut
  else
    let first := if width == 1 then o else if width == 2 then o % 0x20
      else if width == 3 then o % 0x10 else o % 8
    let trailing := (List.range (width - 1)).map fun k => (k + 1, byteAt b (pos + k + 1))
    match trailing.find? fun (_, t) => t / 0x40 != 2 with
    | some (k, _) => .fault (.ofBytes "invalid trailing UTF-8 octet" (pos + k))
    | none =>
      let v := trailing.foldl (fun v (_, t) => 64 * v + t % 0x40) first
      if !(width == 1 || (width == 2 && v ≥ 0x80) || (width == 3 && v ≥ 0x800) ||
          (width == 4 && v ≥ 0x10000)) then
        .fault (.ofBytes "invalid length of a UTF-8 sequence" pos)
      else if (0xD800 ≤ v && v ≤ 0xDFFF) || v > 0x10FFFF then
        .fault (.ofBytes "invalid Unicode character" pos)
      else checked pos width v

def decodeBlock (b : ByteArray) (stop : Nat) (ended : Bool) :
    Nat → Nat → Array Char → Array Char × Nat × Option Problem
  | 0, pos, acc => (acc, pos, none)
  | fuel + 1, pos, acc =>
    if pos ≥ stop then (acc, pos, none)
    else match utf8Step b pos stop ended with
      | .char c w => decodeBlock b stop ended fuel (pos + w) (acc.push c)
      | .cut => (acc, pos, none)
      | .fault p => (acc, pos, some p)

def decodeBlocks (b : ByteArray) :
    Nat → Nat → Nat → Bool → Array Char → List Nat → Input
  | 0, _, _, _, acc, counts => ⟨acc, counts.reverse, none⟩
  | fuel + 1, pos, stop, ended, acc, counts =>
    let (stop, ended) :=
      if ended || stop ≥ b.size then (stop, true) else (min (pos + blockSize) b.size, false)
    let (chars, pos, fault) := decodeBlock b stop ended (stop - pos + 1) pos acc
    match fault with
    | some p => ⟨acc, counts.reverse, some p⟩
    | none =>
      if ended then ⟨chars, (chars.size :: counts).reverse, none⟩
      else decodeBlocks b fuel pos stop ended chars (chars.size :: counts)

def decode (b : ByteArray) : Input := decodeBlocks b (b.size + 4) 0 0 false #[] []

end Input

end Depot.Yaml
