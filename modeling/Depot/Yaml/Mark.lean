
namespace Depot.Yaml

structure Mark where
  index : Nat := 0
  line : Nat := 0
  column : Nat := 0
  deriving DecidableEq, Repr, Inhabited

namespace Mark

def isStart (m : Mark) : Bool := m.line == 0 && m.column == 0

def sameSpot (a b : Mark) : Bool := a.line == b.line && a.column == b.column

def describe (m : Mark) : String :=
  "line " ++ toString (m.line + 1) ++ " column " ++ toString (m.column + 1)

end Mark

structure Problem where
  problem : String
  mark : Mark := {}
  offset : Nat := 0
  context : Option (String × Mark) := none
  deriving Repr, Inhabited

namespace Problem

def atMark (problem : String) (mark : Mark) : Problem := { problem, mark }

def within (context : String) (start : Mark) (problem : String) (mark : Mark) : Problem :=
  { problem, mark, context := some (context, start) }

def ofBytes (problem : String) (offset : Nat) : Problem := { problem, offset }

def message (p : Problem) : String :=
  let place :=
    if !p.mark.isStart then " at " ++ p.mark.describe
    else if p.offset != 0 then " at position " ++ toString p.offset
    else ""
  let context := match p.context with
    | none => ""
    | some (c, m) =>
      ", " ++ c ++ (if !m.isStart && !m.sameSpot p.mark then " at " ++ m.describe else "")
  p.problem ++ place ++ context

end Problem

end Depot.Yaml
