import Depot.Yaml.Mark
import Depot.Metadata.Mismatch

namespace Depot.Yaml

inductive Path where
  | root
  | item (parent : Path) (index : Nat)
  | entry (parent : Path) (key : String)
  | alias (parent : Path)
  | unknown (parent : Path)
  deriving Repr, Inhabited

namespace Path

def describe : Path → String
  | .root => "."
  | .item p i => describe p ++ "[" ++ toString i ++ "]"
  | .entry p k => (match p with | .root => "" | _ => describe p ++ ".") ++ k
  | .alias p => describe p
  | .unknown p => (match p with | .root => "" | _ => describe p ++ ".") ++ "?"

end Path

inductive Failure where
  | problem (p : Problem)
  | mismatch (m : Mismatch) (place : Option (Mark × Path))
  | endOfStream
  | moreThanOneDocument
  | recursionLimit (m : Mark)
  | repetitionLimit
  | unknownAnchor (m : Mark)
  deriving Repr, Inhabited

namespace Failure

def placed (m : Mark) (p : Path) : Failure → Failure
  | .mismatch x none => .mismatch x (some (m, p))
  | f => f

def markText (m : Mark) : String := if m.isStart then "" else " at " ++ m.describe

def message : Failure → String
  | .problem p => p.message
  | .mismatch x none => x.message
  | .mismatch x (some (m, p)) =>
    let path := p.describe
    (if path == "." then "" else path ++ ": ") ++ x.message ++ markText m
  | .endOfStream => "EOF while parsing a value"
  | .moreThanOneDocument =>
    "deserializing from YAML containing more than one document is not supported"
  | .recursionLimit m => "recursion limit exceeded" ++ markText m
  | .repetitionLimit => "repetition limit exceeded"
  | .unknownAnchor m => "unknown anchor" ++ markText m

end Failure

end Depot.Yaml
