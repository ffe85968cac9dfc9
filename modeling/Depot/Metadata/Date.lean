
namespace Depot

structure Date where
  seconds : Int
  nanos : Nat := 0
  deriving DecidableEq, Repr, Inhabited

namespace Date

def nanosPerSecond : Nat := 1000000000

def isLeap (y : Int) : Bool := (y % 4 == 0 && y % 100 != 0) || y % 400 == 0

def monthLength (y : Int) (m : Nat) : Nat :=
  match m with
  | 2 => if isLeap y then 29 else 28
  | 4 | 6 | 9 | 11 => 30
  | _ => 31

def daysFromCivil (y : Int) (m d : Nat) : Int :=
  let y := if m ≤ 2 then y - 1 else y
  let era := y / 400
  let yoe := y - era * 400
  let mp : Int := if m > 2 then (m : Int) - 3 else (m : Int) + 9
  let doy := (153 * mp + 2) / 5 + (d : Int) - 1
  let doe := yoe * 365 + yoe / 4 - yoe / 100 + doy
  era * 146097 + doe - 719468

def civilFromDays (z : Int) : Int × Nat × Nat :=
  let z := z + 719468
  let era := z / 146097
  let doe := z - era * 146097
  let yoe := (doe - doe / 1460 + doe / 36524 - doe / 146096) / 365
  let y := yoe + era * 400
  let doy := doe - (365 * yoe + yoe / 4 - yoe / 100)
  let mp := (5 * doy + 2) / 153
  let d := (doy - (153 * mp + 2) / 5 + 1).toNat
  let m := if mp < 10 then (mp + 3).toNat else (mp - 9).toNat
  (if m ≤ 2 then y + 1 else y, m, d)

def padded (width n : Nat) : String :=
  let s := toString n
  String.ofList (List.replicate (width - s.length) '0') ++ s

def yearText (y : Int) : String :=
  if y < 0 then "-" ++ padded 4 y.natAbs
  else if y > 9999 then "+" ++ toString y
  else padded 4 y.toNat

def fractionText (nanos : Nat) : String :=
  if nanos == 0 then ""
  else "." ++ String.ofList ((padded 9 nanos).toList.reverse.dropWhile (· == '0')).reverse

def text (t : Date) : String :=
  let days := t.seconds / 86400
  let secs := (t.seconds % 86400).toNat
  let (y, m, d) := civilFromDays days
  yearText y ++ "-" ++ padded 2 m ++ "-" ++ padded 2 d ++ "T" ++ padded 2 (secs / 3600) ++ ":" ++
    padded 2 (secs / 60 % 60) ++ ":" ++ padded 2 (secs % 60) ++ fractionText t.nanos ++ "Z"

def isWritable (t : Date) : Bool :=
  let (y, _, _) := civilFromDays (t.seconds / 86400)
  0 ≤ y && y ≤ 9999

def digits (n : Nat) (cs : List Char) : Option (Nat × List Char) :=
  let ds := cs.take n
  if ds.length == n && ds.all Char.isDigit then
    some (ds.foldl (fun v c => 10 * v + (c.toNat - '0'.toNat)) 0, cs.drop n)
  else none

def literal (c : Char) : List Char → Option (List Char)
  | d :: r => if c == d then some r else none
  | [] => none

def fractionNanos (ds : List Char) : Nat :=
  ((ds.take 9).map (fun (c : Char) => c.toNat - 48) ++ List.replicate (9 - min 9 ds.length) 0).foldl
    (fun v d => 10 * v + d) 0

def readOffset : List Char → Option Int
  | ['Z'] | ['z'] => some 0
  | s :: r => do
    let neg ← if s == '+' then some false else if s == '-' then some true else none
    let (h, r) ← digits 2 r
    let r ← literal ':' r
    let (mi, r) ← digits 2 r
    if !r.isEmpty || h > 23 || mi > 59 then none
    else
      let v : Int := (h * 3600 + mi * 60 : Nat)
      some (if neg then -v else v)
  | [] => none

def isLeapSecondPlace (t : Date) : Bool :=
  let (y, m, d) := civilFromDays (t.seconds / 86400)
  t.nanos == nanosPerSecond - 1 && (t.seconds % 86400) == 86399 && d == monthLength y m

def read? (s : String) : Option Date := do
  let cs := s.toList
  let (y, cs) ← digits 4 cs
  let cs ← literal '-' cs
  let (mo, cs) ← digits 2 cs
  let cs ← literal '-' cs
  let (d, cs) ← digits 2 cs
  let cs ← match cs with
    | c :: r => if c.toNat < 0x80 then some r else none
    | [] => none
  let (h, cs) ← digits 2 cs
  let cs ← literal ':' cs
  let (mi, cs) ← digits 2 cs
  let cs ← literal ':' cs
  let (sec, cs) ← digits 2 cs
  let (nanos, cs) ← match cs with
    | '.' :: r =>
      let frac := r.takeWhile Char.isDigit
      if frac.isEmpty then none else some (fractionNanos frac, r.drop frac.length)
    | _ => some (0, cs)
  let off ← readOffset cs
  if mo < 1 || mo > 12 || d < 1 || d > monthLength y mo || h > 23 || mi > 59 || sec > 60 then none
  else
    let leap := sec == 60
    let t : Date :=
      { seconds := daysFromCivil y mo d * 86400 + ((h * 3600 + mi * 60 + min sec 59 : Nat) : Int) - off
        nanos := if leap then nanosPerSecond - 1 else nanos }
    if leap && !t.isLeapSecondPlace then none else some t

end Date

end Depot
