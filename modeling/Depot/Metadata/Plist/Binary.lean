import Depot.Metadata.Plist.Fault
import Depot.Binary64.Read

namespace Depot.Plist.Binary

def byteAt (b : ByteArray) (i : Nat) : Option Nat :=
  if h : i < b.size then some b[i].toNat else none

def bigEndian (b : ByteArray) (start n : Nat) : Option Nat :=
  (List.range n).foldlM (fun acc k => (byteAt b (start + k)).map (acc * 256 + ·)) 0

structure Trailer where
  refSize : Nat
  top : Nat
  offsets : Array Nat
  start : Nat

def widths : List Nat := [1, 2, 3, 4, 8]

def trailer (b : ByteArray) : Except Failure Trailer := do
  let t := b.size - 32
  let field (place n : Nat) : Nat := (bigEndian b (t + place) n).getD 0
  let offsetSize := field 6 1
  if !widths.contains offsetSize then throw (.atOffset .invalidTrailerObjectOffsetSize t)
  let refSize := field 7 1
  if !widths.contains refSize then throw (.atOffset .invalidTrailerObjectReferenceSize t)
  let count := field 8 8
  let top := field 16 8
  let tableStart := field 24 8
  if tableStart + count * offsetSize > t then throw (.atOffset .objectOffsetTooLarge tableStart)
  let offsets := (List.range count).map fun k =>
    (bigEndian b (tableStart + k * offsetSize) offsetSize).getD 0
  pure ⟨refSize, top, offsets.toArray, t⟩

def seek (tr : Trailer) (pos index : Nat) : Except Failure Nat :=
  match tr.offsets[index]? with
  | none => .error (.atOffset .objectReferenceTooLarge pos)
  | some o => if o ≥ tr.start then .error (.atOffset .objectOffsetTooLarge pos) else .ok o

def signed (v n : Nat) : Int :=
  if v ≥ Nat.pow 2 (8 * n - 1) then (v : Int) - Nat.pow 2 (8 * n) else v

def objectSize (b : ByteArray) (pos low : Nat) : Option (Nat × Nat) := do
  if low < 15 then pure (low, pos + 1)
  else
    let m ← byteAt b (pos + 1)
    let n := Nat.pow 2 (m % 4)
    let v ← bigEndian b (pos + 2) n
    pure (v, pos + 2 + n)

def widen (bits : Nat) : Binary64 :=
  let neg := bits ≥ Nat.pow 2 31
  let e := bits / Nat.pow 2 23 % 256
  let f := bits % Nat.pow 2 23
  if e == 255 then Binary64.ofFields neg 2047 (f * Nat.pow 2 29)
  else if e == 0 then
    if f == 0 then Binary64.zero neg else Binary64.ofRatio neg f (Nat.pow 2 149)
  else Binary64.ofFields neg (e + 896) (f * Nat.pow 2 29)

def roundHalfEven (n d : Nat) : Nat :=
  let q := n / d
  let r := n % d
  if 2 * r > d || (2 * r == d && q % 2 == 1) then q + 1 else q

def epochOffset : Int := 978307200

def dateOf? (x : Binary64) : Option Date :=
  if !x.isFinite then none
  else
    let m := x.significand
    let q := x.exponent
    let (num, den) : Nat × Nat :=
      if q ≥ 0 then (m * Nat.pow 2 q.toNat, 1) else (m, Nat.pow 2 (-q).toNat)
    if num ≥ Nat.pow 2 64 * den then none
    else
      let nanos : Int := roundHalfEven (num * Date.nanosPerSecond) den
      let total := epochOffset * Date.nanosPerSecond + (if x.negative then -nanos else nanos)
      let t : Date := ⟨total / Date.nanosPerSecond, (total % Date.nanosPerSecond).toNat⟩
      if t.isWritable then some t else none

def utf16 : List Nat → Option (List Char)
  | [] => some []
  | u :: rest =>
    if 0xD800 ≤ u && u < 0xDC00 then
      match rest with
      | l :: rest' =>
        if 0xDC00 ≤ l && l < 0xE000 then
          (utf16 rest').map (Char.ofNat (0x10000 + (u - 0xD800) * 0x400 + (l - 0xDC00)) :: ·)
        else none
      | [] => none
    else if 0xDC00 ≤ u && u < 0xE000 then none
    else (utf16 rest).map (Char.ofNat u :: ·)

def slice (b : ByteArray) (start n : Nat) : ByteArray := b.extract start (start + n)

inductive Header where
  | single (e : Event)
  | collection (start : Event) (children : List Nat)

def header (b : ByteArray) (tr : Trailer) (pos : Nat) : Except Failure Header := do
  let fault {α : Type} (f : Fault) : Except Failure α := .error (.atOffset f pos)
  let fits (n : Nat) : Except Failure Unit :=
    if pos + n > tr.start then fault .objectOffsetTooLarge else pure ()
  let marker := (byteAt b pos).getD 0
  let kind := marker / 16
  let low := marker % 16
  let number (start n : Nat) : Nat := (bigEndian b start n).getD 0
  let refs (start n : Nat) : List Nat :=
    (List.range n).map fun k => number (start + k * tr.refSize) tr.refSize
  let (size, start) := (objectSize b pos low).getD (0, pos + 1)
  match kind with
  | 0 =>
    if low == 0 then fault .nullObjectUnimplemented
    else if low == 8 then pure (.single (.boolean false))
    else if low == 9 then pure (.single (.boolean true))
    else if low == 15 then fault .fillObjectUnimplemented
    else fault (.unknownObjectType marker)
  | 1 =>
    if low > 4 then fault (.unknownObjectType marker) else
    let n := Nat.pow 2 low
    let v := number (pos + 1) n
    if n < 8 then pure (.single (.integer v))
    else if n == 8 then pure (.single (.integer (signed v 8)))
    else if v ≥ Nat.pow 2 64 then fault .integerOutOfRange
    else pure (.single (.integer v))
  | 2 =>
    if low == 2 then pure (.single (.real (widen (number (pos + 1) 4))))
    else if low == 3 then pure (.single (.real ⟨(number (pos + 1) 8).toUInt64⟩))
    else fault (.unknownObjectType marker)
  | 3 =>
    if low != 3 then fault (.unknownObjectType marker) else
    match dateOf? ⟨(number (pos + 1) 8).toUInt64⟩ with
    | some t => pure (.single (.date t))
    | none => fault .overflowOrNanDate
  | 4 => do
    fits size
    pure (.single (.data (slice b start size)))
  | 5 => do
    fits size
    match String.fromUTF8? (slice b start size) with
    | some text => pure (.single (.string text))
    | none => fault .invalidUtf8String
  | 6 => do
    fits (2 * size)
    match utf16 ((List.range size).map fun k => number (start + 2 * k) 2) with
    | some cs => pure (.single (.string (String.ofList cs)))
    | none => fault .invalidUtf16String
  | 8 =>
    if low < 8 then pure (.single (.uid (number (pos + 1) (low + 1))))
    else fault (.unknownObjectType marker)
  | 10 => do
    fits (size * tr.refSize)
    pure (.collection .startArray (refs start size))
  | 13 => do
    fits (2 * size * tr.refSize)
    let ks := refs start size
    let vs := refs (start + size * tr.refSize) size
    pure (.collection .startDictionary ((ks.zip vs).flatMap fun (k, v) => [k, v]))
  | _ => fault (.unknownObjectType marker)

def walk (b : ByteArray) (tr : Trailer) : Nat → List Nat → Nat → Nat → Stream × Nat
  | 0, _, pos, _ => ({ events := [], stop := some (.atOffset .recursiveObject pos) }, pos)
  | fuel + 1, above, pos, index =>
    match seek tr pos index with
    | .error f => ({ events := [], stop := some f }, pos)
    | .ok p =>
      match header b tr p with
      | .error f => ({ events := [], stop := some f }, p)
      | .ok (.single e) => ({ events := [e] }, p)
      | .ok (.collection start children) =>
        if above.contains index then
          ({ events := [], stop := some (.atOffset .recursiveObject p) }, p)
        else
          let step (acc : Stream × Nat) (c : Nat) : Stream × Nat :=
            if acc.1.stop.isSome then acc
            else
              let (s, last) := walk b tr fuel (index :: above) acc.2 c
              (acc.1.append s, last)
          let (body, last) := children.foldl step ({ events := [start] }, p)
          if body.stop.isSome then (body, last) else (body.append { events := [.endCollection] }, last)

def readEvents (b : ByteArray) : Stream :=
  if b.size < 32 then { events := [], stop := some (.atOffset .noTrailer 0) }
  else
    match trailer b with
    | .error f => { events := [], stop := some f }
    | .ok tr =>
      let tableStart := ((bigEndian b (b.size - 8) 8).getD 0)
      (walk b tr (tr.offsets.size + 1) [] tableStart tr.top).1

def isBinary (b : ByteArray) : Bool :=
  b.size ≥ 8 && (b.extract 0 8).toList == "bplist00".toUTF8.toList

end Depot.Plist.Binary
