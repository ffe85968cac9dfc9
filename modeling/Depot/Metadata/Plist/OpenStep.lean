import Depot.Metadata.Plist.Reader
import Depot.Text.NextStep

namespace Depot.Plist.OpenStep

def endsBare (b : UInt8) : Bool :=
  b == 32 || b == 41 || b == 13 || b == 9 || b == 59 || b == 44

def utf8? (bytes : List UInt8) : Option (List Char) :=
  (String.fromUTF8? (ByteArray.mk bytes.toArray)).map (·.toList)

def bareValue (bytes : List UInt8) : Option Event := do
  let cs ← utf8? bytes
  match readInteger cs with
  | some i => pure (.integer i)
  | none => pure (.string (String.ofList cs))

def bare (total : Nat) (first : UInt8) (bs : List UInt8) : Except Failure (Event × List UInt8) :=
  let more := bs.takeWhile (!endsBare ·)
  let rest := bs.drop more.length
  match bareValue (first :: more) with
  | some v => .ok (v, rest)
  | none => .error (.atOffset .invalidUtf8AsciiStream (total - rest.length))

def hexDigit? (b : UInt8) : Option Nat :=
  if 48 ≤ b && b ≤ 57 then some (b.toNat - 48)
  else if 97 ≤ b && b ≤ 102 then some (b.toNat - 87)
  else if 65 ≤ b && b ≤ 70 then some (b.toNat - 55)
  else none

def codeUnit? (bs : List UInt8) : Option Nat :=
  match bs with
  | [a, b, c, d] => do
    let ds ← (if a == 43 then [b, c, d] else [a, b, c, d]).mapM hexDigit?
    pure (ds.foldl (fun n x => 16 * n + x) 0)
  | _ => none

abbrev EscapeFault := Fault × List UInt8

def takeBytes (n : Nat) (bs : List UInt8) : Except EscapeFault (List UInt8 × List UInt8) :=
  if bs.length < n then .error (.unclosedString, []) else .ok (bs.take n, bs.drop n)

def isOctal (b : UInt8) : Bool := 48 ≤ b && b ≤ 55

def octalChar (v : Nat) : Char := if v < 256 then Text.nextStepChar v else Char.ofNat v

def isHighSurrogate (u : Nat) : Bool := 0xD800 ≤ u && u < 0xDC00

def isLowSurrogate (u : Nat) : Bool := 0xDC00 ≤ u && u < 0xE000

def unicodeEscape (bs : List UInt8) : Except EscapeFault (Char × List UInt8) := do
  let (ws, r) ← takeBytes 4 bs
  match codeUnit? ws with
  | none => throw (.invalidUtf16String, r)
  | some u =>
    if !(isHighSurrogate u || isLowSurrogate u) then pure (Char.ofNat u, r)
    else
      let (slash, r) ← takeBytes 1 r
      if slash != [92] then throw (.invalidUtf16String, r)
      let (letter, r) ← takeBytes 1 r
      if letter != [85] && letter != [117] then throw (.invalidUtf16String, r)
      let (ws, r) ← takeBytes 4 r
      match codeUnit? ws with
      | some l =>
        if isHighSurrogate u && isLowSurrogate l then
          pure (Char.ofNat (0x10000 + (u - 0xD800) * 0x400 + (l - 0xDC00)), r)
        else throw (.invalidUtf16String, r)
      | none => throw (.invalidUtf16String, r)

def escape (bs : List UInt8) : Except EscapeFault (Char × List UInt8) :=
  match bs with
  | [] => .error (.unclosedString, [])
  | b :: r =>
    if b == 92 || b == 34 || b == 39 then .ok (Char.ofNat b.toNat, r)
    else if b == 97 then .ok ('\x07', r)
    else if b == 98 then .ok ('\x08', r)
    else if b == 102 then .ok ('\x0c', r)
    else if b == 110 then .ok ('\n', r)
    else if b == 114 then .ok ('\r', r)
    else if b == 116 then .ok ('\t', r)
    else if b == 118 then .ok ('\x0b', r)
    else if b == 85 then unicodeEscape r
    else if isOctal b then
      match r with
      | c :: d :: r' =>
        if isOctal c && isOctal d then
          .ok (octalChar (64 * (b.toNat - 48) + 8 * (c.toNat - 48) + (d.toNat - 48)), r')
        else .error (.invalidOctalString, r')
      | _ => .error (.unclosedString, [])
    else .error (.invalidUtf8AsciiStream, r)

def quoted (total : Nat) (q : UInt8) : Nat → List UInt8 → Except Failure (List UInt8 × List UInt8)
  | 0, _ => .error (.atOffset .unclosedString total)
  | _ + 1, [] => .error (.atOffset .unclosedString total)
  | fuel + 1, b :: r =>
    if b == q then .ok ([], r)
    else if b == 92 then
      match escape r with
      | .ok (c, r') =>
        (quoted total q fuel r').map fun (t, r'') => ((String.singleton c).toUTF8.toList ++ t, r'')
      | .error (.unclosedString, _) => .error (.atOffset .unclosedString total)
      | .error (f, rest) => .error (.atOffset f (total - rest.length))
    else (quoted total q fuel r).map fun (t, r') => (b :: t, r')

def afterBlockComment : List UInt8 → Option (List UInt8)
  | [] => none
  | b :: r =>
    if b == 42 then
      match r with
      | 47 :: r' => some r'
      | _ :: r' => afterBlockComment r'
      | [] => some []
    else afterBlockComment r

def nextEvent (total : Nat) : Nat → List UInt8 → Except Failure (Option Event × List UInt8)
  | 0, _ => .error (.atOffset .unexpectedEof total)
  | _ + 1, [] => .ok (none, [])
  | fuel + 1, b :: r =>
    if b == 40 then .ok (some .startArray, r)
    else if b == 41 || b == 125 then .ok (some .endCollection, r)
    else if b == 123 then .ok (some .startDictionary, r)
    else if b == 34 || b == 39 then do
      let (t, r') ← quoted total b r.length r
      match utf8? t with
      | some cs => .ok (some (.string (String.ofList cs)), r')
      | none => .error (.atOffset .invalidUtf8AsciiStream (total - r'.length))
    else if b == 47 then
      match r with
      | 47 :: _ => nextEvent total fuel (r.dropWhile (· != 10))
      | 42 :: _ =>
        match afterBlockComment r with
        | some r' => nextEvent total fuel r'
        | none => .error (.atOffset .incompleteComment total)
      | c :: _ => (bare total c r).map fun (v, r') => (some v, r')
      | [] => .error (.atOffset .incompleteComment total)
    else if b == 44 || b == 59 || b == 61 || b == 32 || b == 13 || b == 9 || b == 10 then
      nextEvent total fuel r
    else (bare total b r).map fun (v, r') => (some v, r')

def events (total : Nat) : Nat → List UInt8 → Stream
  | 0, _ => { events := [], stop := some (.atOffset .unexpectedEof total) }
  | fuel + 1, bs =>
    match nextEvent total (bs.length + 1) bs with
    | .error f => { events := [], stop := some f }
    | .ok (none, _) => { events := [] }
    | .ok (some e, rest) =>
      let s := events total fuel rest
      { s with events := e :: s.events }

def readEvents (bytes : ByteArray) : Stream :=
  events bytes.size (bytes.size + 1) bytes.toList

end Depot.Plist.OpenStep
