import Depot.Version.Split

namespace Depot.Version

inductive Run where
  | number (digits : List Char)
  | text (chars : List Char)
  deriving DecidableEq, Repr

def digitsValue (ds : List Char) : Nat :=
  ds.foldl (fun n c => 10 * n + (c.toNat - '0'.toNat)) 0

def groups : List Char → List (List Char)
  | [] => []
  | c :: r =>
    match groups r with
    | (d :: g) :: gs => if isDigit c == isDigit d then (c :: d :: g) :: gs else [c] :: (d :: g) :: gs
    | gs => [c] :: gs

def runs (cs : List Char) : List Run :=
  (groups cs).map fun g => if startsWithDigit g then .number g else .text g

structure Component where
  number : Option (List Char)
  suffix : List Run

namespace Component

def ofChars (cs : List Char) : Component :=
  match runs cs with
  | .number ds :: rest => ⟨some ds, rest⟩
  | rs => ⟨none, rs⟩

def zero : Component := ⟨some ['0'], []⟩

end Component

def compareTexts : List Char → List Char → Ordering
  | [], [] => .eq
  | [], _ :: _ => .lt
  | _ :: _, [] => .gt
  | a :: as, b :: bs => (compare a b).then (compareTexts as bs)

def compareNumbers (a b : List Char) : Ordering :=
  let a := a.dropWhile (· == '0')
  let b := b.dropWhile (· == '0')
  (compare a.length b.length).then (compareTexts a b)

def Run.compare : Run → Run → Ordering
  | .number a, .number b => compareNumbers a b
  | .text a, .text b => compareTexts a b
  | .number _, .text _ => .gt
  | .text _, .number _ => .lt

def compareSuffixes : List Run → List Run → Ordering
  | [], [] => .eq
  | [], _ :: _ => .lt
  | _ :: _, [] => .gt
  | a :: as, b :: bs => (a.compare b).then (compareSuffixes as bs)

def Component.compare (x y : Component) : Ordering :=
  let byNumber : Ordering :=
    match x.number, y.number with
    | some a, some b => compareNumbers a b
    | some _, none => .gt
    | none, some _ => .lt
    | none, none => .eq
  byNumber.then <|
    match x.suffix, y.suffix with
    | [], [] => .eq
    | [], _ :: _ => .gt
    | _ :: _, [] => .lt
    | s, t => compareSuffixes s t

def compareComponents : List Component → List Component → Ordering
  | [], [] => .eq
  | x :: xs, [] => (x.compare .zero).then (compareComponents xs [])
  | [], y :: ys => (Component.zero.compare y).then (compareComponents [] ys)
  | x :: xs, y :: ys => (x.compare y).then (compareComponents xs ys)

def components (v : String) : List Component :=
  (v.toList.splitOn '.').map Component.ofChars

def compareVersions (a b : String) : Ordering :=
  compareComponents (components a) (components b)

def sortNewestFirst (vs : List String) : List String :=
  vs.mergeSort fun a b => compareVersions a b != .lt

end Depot.Version
