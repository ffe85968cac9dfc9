import Depot.Text.LineBreak
import Depot.Text.Width
import Depot.Text.Alphanumeric

namespace Depot.Text

def escapeChar : Char := '\x1b'

def controlLength : List Char → Nat
  | [] => 0
  | c :: rest => if '\x40' ≤ c && c ≤ '\x7e' then 1 else controlLength rest + 1

def commandLength (last : Char) : List Char → Nat
  | [] => 0
  | c :: rest =>
    if c == '\x07' || (c == '\\' && last == escapeChar) then 1 else commandLength c rest + 1

def escapeLength : List Char → Nat
  | '[' :: rest => controlLength rest + 1
  | ']' :: rest => commandLength ']' rest + 1
  | _ :: _ => 1
  | [] => 0

def shows : Nat → List Char → List Bool
  | 0, cs => cs.map fun _ => true
  | _ + 1, [] => []
  | fuel + 1, c :: rest =>
    if c == escapeChar then
      let n := escapeLength rest
      List.replicate (n + 1) false ++ shows fuel (rest.drop n)
    else true :: shows fuel rest

def shownPlaces (cs : List Char) : List (Char × Nat) :=
  ((cs.zip (shows cs.length cs)).zipIdx).filterMap fun ((c, s), i) => if s then some (c, i) else none

def textColumns (cs : List Char) : Nat :=
  ((shownPlaces cs).map fun (c, _) => columns c).foldr (· + ·) 0

structure Word where
  chars : List Char := []
  spaces : Nat := 0
  penalty : String := ""
  deriving Inhabited

namespace Word

def width (w : Word) : Nat := textColumns w.chars

def ofChars (cs : List Char) : Word :=
  let body := (cs.reverse.dropWhile (· == ' ')).reverse
  { chars := body, spaces := cs.length - body.length }

def splitHyphens (w : Word) : List Word :=
  let cs := w.chars
  let isLetter (i : Nat) := (cs[i]?.map isAlphanumeric).getD false
  let points := cs.zipIdx.filterMap fun (c, i) =>
    if c == '-' && i > 0 && isLetter (i - 1) && isLetter (i + 1) then some (i + 1) else none
  let starts := 0 :: points
  let ends := points ++ [cs.length]
  (starts.zip ends).zipIdx.map fun ((s, e), k) =>
    let piece := (cs.drop s).take (e - s)
    if k == points.length then { w with chars := piece } else { chars := piece }

structure Apart where
  start : Nat := 0
  used : Nat := 0
  pieces : Array Word := #[]

def breakApart (room : Nat) (w : Word) : List Word :=
  let step (s : Apart) (shown : Char × Nat) : Apart :=
    let (c, i) := shown
    let n := columns c
    if s.used > 0 && s.used + n > room then
      { start := i, used := n,
        pieces := s.pieces.push { chars := (w.chars.drop s.start).take (i - s.start) } }
    else { s with used := s.used + n }
  let s := (shownPlaces w.chars).foldl step {}
  let last := if s.start < w.chars.length then [{ w with chars := w.chars.drop s.start }] else []
  s.pieces.toList ++ last

end Word

def cutPlaces (cs : List Char) : List Nat :=
  let shown := shownPlaces cs
  let visible := shown.map (·.1)
  let kept := (lineBreaks visible).filter fun k =>
    match visible[k - 1]? with
    | some c => c != '-' && c != '\u00AD'
    | none => true
  kept.dropLast.map fun k => ((shown[k - 1]?.map (·.2)).getD 0) + 1

def cutAt (offset : Nat) (cs : List Char) : List Nat → List (List Char)
  | [] => [cs]
  | p :: ps => cs.take (p - offset) :: cutAt p (cs.drop (p - offset)) ps

def wordsOf (room : Nat) (line : List Char) : List Word :=
  let pieces := if line.isEmpty then [] else cutAt 0 line (cutPlaces line)
  (pieces.map Word.ofChars).flatMap fun w =>
    (w.splitHyphens).flatMap fun p => if p.width > room then p.breakApart room else [p]

def firstFit (first later : Nat) : List Word → List Word → Nat → Nat → List (List Word)
  | [], cur, _, _ => [cur]
  | w :: ws, cur, used, line =>
    let room := if line == 0 then first else later
    if used + w.width + textColumns w.penalty.toList > room && !cur.isEmpty then
      cur :: firstFit first later ws [w] (w.width + w.spaces) (line + 1)
    else firstFit first later ws (cur ++ [w]) (used + w.width + w.spaces) line

def lineText (ws : List Word) : String :=
  match ws.getLast? with
  | none => ""
  | some last =>
    String.ofList ((ws.dropLast.flatMap fun w => w.chars ++ List.replicate w.spaces ' ') ++
      last.chars) ++ last.penalty

def fill (width : Nat) (first later : String) (text : String) : String :=
  let firstRoom := width - textColumns first.toList
  let laterRoom := width - textColumns later.toList
  let lines := (text.splitOn "\n").flatMap fun line =>
    firstFit firstRoom laterRoom ({} :: wordsOf laterRoom line.toList) [] 0 0
  "\n".intercalate ((lines.map lineText).zipIdx.map fun (t, i) =>
    (if i == 0 then first else later) ++ t)

end Depot.Text
