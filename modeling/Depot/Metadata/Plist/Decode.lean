import Depot.Metadata.Plist.Fault
import Depot.Metadata.Shape

namespace Depot.Plist

structure Reading where
  events : List Event
  stop : Option Failure
  inValue : Bool := false

namespace Reading

def next (r : Reading) : Except Failure (Event × Reading) :=
  match r.events with
  | e :: es => .ok (e, { r with events := es })
  | [] => .error (r.stop.getD ⟨.unexpectedEndOfEventStream, none⟩)

def atEnd (r : Reading) : Bool :=
  match r.events with
  | .endCollection :: _ => true
  | _ => false

def drop (r : Reading) : Reading := { r with events := r.events.drop 1 }

def found (r : Reading) : Event → Found
  | .string s => .text s
  | .integer i => Found.integer i
  | .real x => .real x
  | .boolean b => .boolean b
  | .date t => if r.inValue then .variant else .text t.text
  | .data _ => .bytes
  | .uid n => if r.inValue then .variant else .unsigned n
  | .startArray => .sequence
  | .startDictionary => .map
  | .endCollection => .unit

def wrong (r : Reading) (e : Event) (expected : String) : Failure :=
  match e with
  | .endCollection => ⟨.unexpectedEventType .valueOrStartCollection .endCollection, none⟩
  | _ => .mismatch (.invalidType (r.found e) expected)

def text (r : Reading) : Except Failure (String × Reading) := do
  let (e, r') ← r.next
  match e with
  | .string s => pure (s, r')
  | .date t => if r.inValue then throw (r.wrong e "a string") else pure (t.text, r')
  | .data b =>
    match String.fromUTF8? b with
    | some s => pure (s, r')
    | none => throw (.mismatch (.invalidValue .bytes "a string"))
  | _ => throw (r.wrong e "a string")

def count (r : Reading) : Except Failure (Nat × Reading) := do
  let (e, r') ← r.next
  match e with
  | .integer i =>
    if i < 0 then throw (.mismatch (.invalidValue (Found.integer i) "u64")) else pure (i.toNat, r')
  | .uid n => if r.inValue then throw (r.wrong e "u64") else pure (n, r')
  | _ => throw (r.wrong e "u64")

def fieldKey (fields : List (String × Shape)) (r : Reading) :
    Except Failure (Option Nat × Reading) := do
  let (e, r') ← r.next
  let byName (s : String) : Option Nat := fields.findIdx? (·.1 == s)
  let byPosition (n : Nat) : Option Nat := if n < fields.length then some n else none
  match e with
  | .string s => pure (byName s, r')
  | .data b => pure ((String.fromUTF8? b).bind byName, r')
  | .date t => if r.inValue then throw (r.wrong e "field identifier") else pure (byName t.text, r')
  | .integer i => if i < 0 then throw (r.wrong e "field identifier") else pure (byPosition i.toNat, r')
  | .uid n => if r.inValue then throw (r.wrong e "field identifier") else pure (byPosition n, r')
  | _ => throw (r.wrong e "field identifier")

def exhausted : Failure := ⟨.unexpectedEndOfEventStream, none⟩

mutual
def skip : Nat → Reading → Except Failure Reading
  | 0, _ => .error exhausted
  | fuel + 1, r => do
    let (e, r') ← r.next
    match e with
    | .startArray => skipItems fuel r'
    | .startDictionary => skipEntries fuel r'
    | .endCollection => throw (r.wrong e "")
    | _ => pure r'

def skipItems : Nat → Reading → Except Failure Reading
  | 0, _ => .error exhausted
  | fuel + 1, r =>
    if r.atEnd then .ok r.drop
    else do skipItems fuel (← skip fuel r)

def skipEntries : Nat → Reading → Except Failure Reading
  | 0, _ => .error exhausted
  | fuel + 1, r =>
    if r.atEnd then .ok r.drop
    else do skipEntries fuel (← skip fuel (← skip fuel r))
end

mutual
def value : Nat → Reading → Except Failure (Value × Reading)
  | 0, _ => .error exhausted
  | fuel + 1, outer => do
    let r := { outer with inValue := true }
    let (e, r') ← r.next
    let (v, r'') ← match e with
      | .startArray => valueItems fuel r' []
      | .startDictionary => valueEntries fuel r' []
      | .endCollection => throw (r.wrong e "")
      | .string s => pure (.string s, r')
      | .integer i => pure (.integer i, r')
      | .real x => pure (.real x, r')
      | .boolean b => pure (.boolean b, r')
      | .date t => pure (.date t, r')
      | .data b => pure (.data b, r')
      | .uid n => pure (.uid n, r')
    pure (v, { r'' with inValue := outer.inValue })

def valueItems : Nat → Reading → List Value → Except Failure (Value × Reading)
  | 0, _, _ => .error exhausted
  | fuel + 1, r, acc =>
    if r.atEnd then .ok (.array acc.reverse, r.drop)
    else do
      let (v, r) ← value fuel r
      valueItems fuel r (v :: acc)

def valueEntries : Nat → Reading → List (String × Value) → Except Failure (Value × Reading)
  | 0, _, _ => .error exhausted
  | fuel + 1, r, acc =>
    if r.atEnd then .ok (.dict (Value.insertAll acc.reverse), r.drop)
    else do
      let (k, r) ← r.text
      let (v, r) ← value fuel r
      valueEntries fuel r ((k, v) :: acc)
end

mutual
def read : Nat → Option Shape → Shape → Reading → Except Failure (Datum × Reading)
  | 0, _, _, _ => .error exhausted
  | fuel + 1, self, shape, r =>
    match shape with
    | .text => r.text.map fun (s, r) => (.text s, r)
    | .count => r.count.map fun (n, r) => (.count n, r)
    | .optional s => read fuel self s r
    | .list s => do
      let (e, r') ← r.next
      match e with
      | .startArray => items fuel self s r' []
      | _ => throw (r.wrong e "a sequence")
    | .record _ fields => do
      let (e, r') ← r.next
      match e with
      | .startDictionary => fieldsOf fuel shape fields r' (fields.map (·.2.fieldDefault)) []
      | _ => throw ⟨.unexpectedEventType .startDictionary e.kind, none⟩
    | .enclosing =>
      match self with
      | some s => read fuel self s r
      | none => .error exhausted
    | .dictionary => do
      let (e, r') ← r.next
      match e with
      | .startDictionary =>
        let (v, r) ← valueEntries fuel r' []
        match v with
        | .dict es => pure (.dictionary es, r)
        | _ => pure (.dictionary [], r)
      | _ => throw (r.wrong e "a map")

def items : Nat → Option Shape → Shape → Reading → List Datum → Except Failure (Datum × Reading)
  | 0, _, _, _, _ => .error exhausted
  | fuel + 1, self, s, r, acc =>
    if r.atEnd then .ok (.list acc.reverse, r.drop)
    else do
      let (d, r) ← read fuel self s r
      items fuel self s r (d :: acc)

def fieldsOf : Nat → Shape → List (String × Shape) → Reading → List Datum → List Nat →
    Except Failure (Datum × Reading)
  | 0, _, _, _, _, _ => .error exhausted
  | fuel + 1, record, fields, r, values, seen =>
    if r.atEnd then .ok (.record values, r.drop)
    else do
      let (slot, r) ← r.fieldKey fields
      match slot with
      | none =>
        let r ← skip fuel r
        fieldsOf fuel record fields r values seen
      | some k =>
        let (name, s) := fields.getD k ("", .text)
        if seen.contains k then throw (.mismatch (.duplicateField name))
        else
          let (d, r) ← read fuel (some record) s r
          fieldsOf fuel record fields r (values.set k d) (k :: seen)
end

end Reading

def Stream.decode (s : Stream) (shape : Shape) : Except Failure Datum := do
  let (d, r) ← Reading.read (2 * s.events.length + 8) none shape ⟨s.events, s.stop, false⟩
  match r.events with
  | e :: _ => throw ⟨.expectedEndOfEventStream e.kind, none⟩
  | [] =>
    match r.stop with
    | some f => throw f
    | none => pure d

end Depot.Plist
