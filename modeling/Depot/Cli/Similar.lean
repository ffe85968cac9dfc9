
namespace Depot.Cli

def suggests (x : Float) : Bool := x > 0.7

def markFirst (c : Char) (lo hi : Nat) : Nat → List (Char × Bool) → Option (List (Char × Bool))
  | _, [] => none
  | j, (d, used) :: rest =>
    if j ≥ hi then none
    else if lo ≤ j && d == c && !used then some ((d, true) :: rest)
    else (markFirst c lo hi (j + 1) rest).map ((d, used) :: ·)

def matchAll (range bLen : Nat) : Nat → List Char → List (Char × Bool) →
    List (Char × Bool) × List (Char × Bool)
  | _, [], marks => ([], marks)
  | i, c :: cs, marks =>
    let lo := i - range
    let hi := min bLen (i + range + 1)
    match markFirst c lo hi 0 marks with
    | some marks' =>
      let (rest, final) := matchAll range bLen (i + 1) cs marks'
      ((c, true) :: rest, final)
    | none =>
      let (rest, final) := matchAll range bLen (i + 1) cs marks
      ((c, false) :: rest, final)

def jaro (a b : String) : Float :=
  let as := a.toList
  let bs := b.toList
  if as.isEmpty && bs.isEmpty then 1
  else if as.isEmpty || bs.isEmpty then 0
  else
    let range := max as.length bs.length / 2 - 1
    let (aMarks, bMarks) := matchAll range bs.length 0 as (bs.map (·, false))
    let aMatched := (aMarks.filter (·.2)).map (·.1)
    let bMatched := (bMarks.filter (·.2)).map (·.1)
    let m := aMatched.length
    if m == 0 then 0
    else
      let t := ((aMatched.zip bMatched).filter fun (x, y) => x != y).length / 2
      (m.toFloat / as.length.toFloat + m.toFloat / bs.length.toFloat +
        (m - t).toFloat / m.toFloat) / 3

def similarTo (word : String) (candidates : List String) : List String :=
  let scored := (candidates.map fun c => (jaro word c, c)).filter (suggests ·.1)
  (scored.mergeSort fun x y => decide (x.1 ≤ y.1)).map (·.2)

def closest (word : String) (candidates : List String) : Option String :=
  (similarTo word candidates).getLast?

end Depot.Cli
