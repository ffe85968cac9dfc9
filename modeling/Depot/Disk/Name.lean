
namespace Depot.Disk

abbrev Name := List UInt8

namespace Name

def ofString (s : String) : Name := s.toUTF8.toList

def here : Name := [46]

def up : Name := [46, 46]

def isHidden (n : Name) : Bool := n.head? == some 46

def text? (n : Name) : Option String := String.fromUTF8? ⟨n.toArray⟩

def isContinuation (b : UInt8) : Bool := 0x80 ≤ b && b ≤ 0xBF

def sequenceLength (b : UInt8) : Nat :=
  if b < 0x80 then 1
  else if 0xC2 ≤ b && b ≤ 0xDF then 2
  else if 0xE0 ≤ b && b ≤ 0xEF then 3
  else if 0xF0 ≤ b && b ≤ 0xF4 then 4
  else 0

def secondFits (lead b : UInt8) : Bool :=
  if lead == 0xE0 then 0xA0 ≤ b && b ≤ 0xBF
  else if lead == 0xED then 0x80 ≤ b && b ≤ 0x9F
  else if lead == 0xF0 then 0x90 ≤ b && b ≤ 0xBF
  else if lead == 0xF4 then 0x80 ≤ b && b ≤ 0x8F
  else isContinuation b

def continuing (lead : UInt8) (need : Nat) (bytes : List UInt8) : Nat :=
  match need, bytes with
  | 0, _ => 0
  | _, [] => 0
  | n + 1, b :: rest =>
    if secondFits lead b then 1 + ((rest.take n).takeWhile isContinuation).length else 0

def codePoint (lead : UInt8) (conts : List UInt8) : Nat :=
  let first := match conts.length with
    | 1 => lead.toNat % 32
    | 2 => lead.toNat % 16
    | _ => lead.toNat % 8
  conts.foldl (fun n b => n * 64 + b.toNat % 64) first

def decodeLossy (bytes : List UInt8) : List Char :=
  match bytes with
  | [] => []
  | b :: rest =>
    let n := sequenceLength b
    if n == 0 then '�' :: decodeLossy rest
    else if n == 1 then Char.ofNat b.toNat :: decodeLossy rest
    else
      let k := continuing b (n - 1) rest
      if k == n - 1 then Char.ofNat (codePoint b (rest.take k)) :: decodeLossy (rest.drop k)
      else '�' :: decodeLossy (rest.drop k)
termination_by bytes.length
decreasing_by all_goals simp only [List.length_drop, List.length_cons]; omega

def lossy (n : Name) : String := String.ofList (decodeLossy n)

end Name

structure PathText where
  absolute : Bool
  parts : List Name
  size : Nat := 0
  deriving Inhabited

namespace PathText

def ofString (s : String) : PathText :=
  let pieces := s.splitOn "/"
  let parts := (pieces.filter (· != "")).map Name.ofString
  let trailing := s.length > 1 && s.endsWith "/"
  { absolute := s.startsWith "/", parts := if trailing then parts ++ [Name.here] else parts,
    size := s.utf8ByteSize }

def parent (p : PathText) : PathText :=
  let kept := (p.parts.reverse.dropWhile (· == Name.here)).reverse
  let last := (kept.getLast?.map List.length).getD 0
  { p with parts := kept.dropLast, size := p.size - (p.parts.length - kept.length) - last - 1 }

def hasNul (p : PathText) : Bool := p.parts.any (·.contains 0)

end PathText

def showNames (ns : List Name) : String := "/".intercalate (ns.map Name.lossy)

end Depot.Disk
