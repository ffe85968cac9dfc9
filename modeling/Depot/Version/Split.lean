
namespace Depot.Version

def isDigit (c : Char) : Bool := '0' ≤ c && c ≤ '9'

def isAlnum (c : Char) : Bool :=
  isDigit c || ('a' ≤ c && c ≤ 'z') || ('A' ≤ c && c ≤ 'Z')

def isSeparator (c : Char) : Bool := c == '-' || c == ' ' || c == '_' || c == '.'

def startsWithDigit : List Char → Bool
  | c :: _ => isDigit c
  | [] => false

def cutLast (d : List Char) : List Char → Option (List Char × List Char)
  | [] => none
  | c :: r =>
    match cutLast d r with
    | some (a, b) => some (c :: a, b)
    | none => if d.isPrefixOf (c :: r) then some ([], (c :: r).drop d.length) else none

def isToken (cs : List Char) : Bool :=
  startsWithDigit cs && (cs.splitOn '.').all fun g => !g.isEmpty && g.all isAlnum

def splitStrictChars (cs : List Char) : List Char × List Char :=
  let attempt (d : List Char) : Option (List Char × List Char) :=
    match cutLast d cs with
    | some (n, v) => if startsWithDigit v then some (n, v) else none
    | none => none
  match attempt ['-', '-'] with
  | some r => r
  | none =>
    match attempt ['-'] with
    | some r => r
    | none => (cs, [])

def splitLooseFrom (whole : List Char) (before : List Char) : List Char → List Char × List Char
  | [] => (whole, [])
  | c :: r =>
    if isSeparator c then
      let version := r.dropWhile isSeparator
      let name := (before.dropWhile isSeparator).reverse
      if !name.isEmpty && isToken version then (name, version)
      else splitLooseFrom whole (c :: before) r
    else splitLooseFrom whole (c :: before) r

def splitLooseChars (cs : List Char) : List Char × List Char :=
  splitLooseFrom cs [] cs

def split (reference : String) (onlyHyphens : Bool) : String × String :=
  let (n, v) :=
    if onlyHyphens then splitStrictChars reference.toList else splitLooseChars reference.toList
  (String.ofList n, String.ofList v)

def isVersionToken (s : String) : Bool := isToken s.toList

end Depot.Version
