import Depot.Yaml.Event
import Depot.Yaml.Failure

namespace Depot.Yaml

inductive NodeEvent where
  | alias (anchor : Nat)
  | scalar (tag : Option (List UInt8)) (text : String) (style : Style)
  | sequenceStart (tag : Option (List UInt8))
  | sequenceEnd
  | mappingStart (tag : Option (List UInt8))
  | mappingEnd
  | void
  deriving Inhabited

structure Document where
  events : Array (NodeEvent × Mark) := #[]
  anchors : List (Nat × Nat) := []
  fault : Option Failure := none
  more : Bool := false
  deriving Inhabited

namespace Document

def target? (d : Document) (anchor : Nat) : Option Nat :=
  (d.anchors.find? (·.1 == anchor)).map (·.2)

def keptTag (tag : Option (List UInt8)) : Option (List UInt8) :=
  tag.map fun t => t.takeWhile (· != 0)

def name (names : List (String × Nat)) (d : Document) : Option String →
    List (String × Nat) × Document
  | none => (names, d)
  | some a =>
    let id := names.length
    let names := if names.any (·.1 == a) then names.map fun e => if e.1 == a then (a, id) else e
      else names ++ [(a, id)]
    (names, { d with anchors := (id, d.events.size) :: d.anchors })

def push (d : Document) (e : NodeEvent) (m : Mark) : Document := { d with events := d.events.push (e, m) }

def hasMore : Nat → Parser → Bool
  | 0, _ => false
  | fuel + 1, p =>
    match Parser.step.run p with
    | .error _ => true
    | .ok (none, _) => false
    | .ok (some (.streamEnd, _), _) => false
    | .ok (some (.documentStart, _), p) => hasMore fuel p
    | .ok (some _, _) => true

def collect : Nat → Parser → List (String × Nat) → Document → Document
  | 0, _, _, d => d
  | fuel + 1, p, names, d =>
    match Parser.step.run p with
    | .error e => { d with fault := some (.problem e) }
    | .ok (none, _) => d
    | .ok (some (e, m), p) =>
      match e with
      | .streamStart | .documentStart => collect fuel p names d
      | .streamEnd => if d.events.isEmpty then d.push .void m else d
      | .documentEnd => { d with more := hasMore (fuel + 1) p }
      | .alias a =>
        match names.find? (·.1 == a) with
        | some (_, id) => collect fuel p names (d.push (.alias id) m)
        | none => { d with fault := some (.unknownAnchor m) }
      | .scalar anchor tag text style =>
        let (names, d) := name names d anchor
        collect fuel p names (d.push (.scalar (keptTag tag) text style) m)
      | .sequenceStart anchor tag =>
        let (names, d) := name names d anchor
        collect fuel p names (d.push (.sequenceStart (keptTag tag)) m)
      | .sequenceEnd => collect fuel p names (d.push .sequenceEnd m)
      | .mappingStart anchor tag =>
        let (names, d) := name names d anchor
        collect fuel p names (d.push (.mappingStart (keptTag tag)) m)
      | .mappingEnd => collect fuel p names (d.push .mappingEnd m)

def ofBytes (data : ByteArray) : Document :=
  let input := Input.decode data
  collect (8 * input.chars.size + 64) (Parser.ofInput input) [] {}

end Document

end Depot.Yaml
