import Depot.Yaml.Document
import Depot.Yaml.Resolve
import Depot.Metadata.Shape

namespace Depot.Yaml

structure Cursor where
  pos : Nat := 0
  jumps : Nat := 0
  deriving Inhabited

abbrev Decoding := StateT Cursor (Except Failure)

def Reading.found : Reading → Found
  | .null => .unit
  | .boolean b => .boolean b
  | .integer i => Found.integer i
  | .wideInteger i => Found.integer i
  | .real x => .real x
  | .text s => .text s

def NodeEvent.mismatch (e : NodeEvent) (expected : String) : Failure :=
  match e with
  | .scalar tag text style =>
    match scalarReading tag text (style == .plain) false with
    | .ok r => .mismatch (.invalidType r.found expected) none
    | .error kind => .mismatch (.invalidValue (.text text) kind) none
  | .sequenceStart _ => .mismatch (.invalidType .sequence expected) none
  | .mappingStart _ => .mismatch (.invalidType .map expected) none
  | _ => .endOfStream

def NodeEvent.isEmptyPlain : NodeEvent → Bool
  | .scalar _ "" .plain => true
  | .void => true
  | _ => false

def variantName? : Option (List UInt8) → Option String
  | some (0x21 :: rest) =>
    String.fromUTF8? (ByteArray.mk (if rest.isEmpty then #[0x21] else rest.toArray))
  | _ => none

def anyValue : String := "any supported plist value"

namespace Document

def peekEvent (d : Document) : Decoding (NodeEvent × Mark) := do
  match d.events[(← get).pos]? with
  | some e => pure e
  | none => throw (d.fault.getD .endOfStream)

def nextEvent (d : Document) : Decoding (NodeEvent × Mark) := do
  let e ← d.peekEvent
  modify fun c => { c with pos := c.pos + 1 }
  pure e

def jump (d : Document) (anchor : Nat) : Decoding Nat := do
  let c ← get
  set { c with jumps := c.jumps + 1 }
  if c.jumps + 1 > d.events.size * 100 then throw .repetitionLimit
  match d.target? anchor with
  | some i => pure i
  | none => throw .endOfStream

def atEvent {α : Type} (i : Nat) (act : Decoding α) : Decoding α := do
  let saved := (← get).pos
  modify fun c => { c with pos := i }
  let r ← act
  modify fun c => { c with pos := saved }
  pure r

def placing {α : Type} (m : Mark) (p : Path) (act : Decoding α) : Decoding α :=
  tryCatch act fun f => throw (f.placed m p)

def text (d : Document) (expected : String) : Nat → Path → Decoding String
  | 0, _ => throw .endOfStream
  | fuel + 1, path => do
    let (e, m) ← d.nextEvent
    placing m path do
      match e with
      | .scalar _ s _ => pure s
      | .alias a => do
        let i ← d.jump a
        atEvent i (text d expected fuel (.alias path))
      | _ => throw (e.mismatch expected)

def countable (tag : Option (List UInt8)) (style : Style) : Bool :=
  style == .plain || (style == .literal && tag == some (coreTag "int"))

def count (d : Document) (expected : String) : Nat → Path → Decoding Nat
  | 0, _ => throw .endOfStream
  | fuel + 1, path => do
    let (e, m) ← d.nextEvent
    placing m path do
      match e with
      | .scalar tag s style =>
        match (if countable tag style then unsignedInt? 64 s else none) with
        | some n => pure n
        | none => throw (e.mismatch expected)
      | .alias a => do
        let i ← d.jump a
        atEvent i (count d expected fuel (.alias path))
      | _ => throw (e.mismatch expected)

def ignore (d : Document) : Nat → Nat → Decoding Unit
  | 0, _ => throw .endOfStream
  | fuel + 1, pending => do
    let (e, _) ← d.nextEvent
    let pending := match e with
      | .sequenceStart _ | .mappingStart _ => pending + 1
      | .sequenceEnd | .mappingEnd => pending - 1
      | _ => pending
    if pending != 0 then ignore d fuel pending

def valuePath (path : Path) (key : NodeEvent) : Path :=
  match key with
  | .scalar _ s _ => .entry path s
  | _ => .unknown path

mutual
def value (d : Document) : Nat → Nat → Path → Decoding Value
  | 0, _, _ => throw .endOfStream
  | fuel + 1, depth, path => do
    let (_, m) ← d.peekEvent
    if depth == 0 then throw (.recursionLimit m)
    anyValueOf d fuel (depth - 1) path

def anyValueOf (d : Document) : Nat → Nat → Path → Decoding Value
  | 0, _, _ => throw .endOfStream
  | fuel + 1, depth, path => do
    let (e, m) ← d.nextEvent
    placing m path do
      let back : Decoding Unit := modify fun c => { c with pos := c.pos - 1 }
      match e with
      | .alias a => do
        let i ← d.jump a
        atEvent i (anyValueOf d fuel depth (.alias path))
      | .scalar tag text style =>
        match variantName? tag with
        | some v => do back; variant d fuel depth path v
        | none =>
          match scalarReading tag text (style == .plain) false with
          | .error kind => throw (.mismatch (.invalidValue (.text text) kind) none)
          | .ok .null => throw (.mismatch (.invalidType .unit anyValue) none)
          | .ok (.boolean b) => pure (.boolean b)
          | .ok (.integer i) => pure (.integer i)
          | .ok (.wideInteger i) => throw (.mismatch (.invalidType (Found.integer i) anyValue) none)
          | .ok (.real x) => pure (.real x)
          | .ok (.text s) => pure (.string s)
      | .sequenceStart tag =>
        match variantName? tag with
        | some v => do back; variant d fuel depth path v
        | none => do
          if depth == 0 then throw (.recursionLimit m)
          let xs ← valueItems d fuel (depth - 1) path 0 []
          let _ ← d.nextEvent
          pure (.array xs)
      | .mappingStart tag =>
        match variantName? tag with
        | some v => do back; variant d fuel depth path v
        | none => do
          if depth == 0 then throw (.recursionLimit m)
          let es ← valueEntries d fuel (depth - 1) path []
          let _ ← d.nextEvent
          pure (.dict (Value.insertAll es))
      | .void => throw (.mismatch (.invalidType .option anyValue) none)
      | _ => throw .endOfStream

def variant (d : Document) : Nat → Nat → Path → String → Decoding Value
  | 0, _, _, _ => throw .endOfStream
  | fuel + 1, depth, path, name => do
    if name == "PLIST-DATE" then
      let (_, m) ← d.peekEvent
      if depth == 0 then throw (.recursionLimit m)
      let (e, m) ← d.nextEvent
      placing m path do
        match e with
        | .scalar _ s _ =>
          match Date.read? s with
          | some t => pure (.date t)
          | none => throw (.mismatch (.invalidValue (.text s) "a plist date string") none)
        | _ => throw (e.mismatch "a plist date string")
    else if name == "PLIST-UID" then
      let (_, m) ← d.peekEvent
      if depth == 0 then throw (.recursionLimit m)
      (Value.uid ·) <$> d.count "a plist uid" fuel path
    else throw (.mismatch (.unknownVariant name ["PLIST-DATE", "PLIST-UID"]) none)

def valueItems (d : Document) : Nat → Nat → Path → Nat → List Value → Decoding (List Value)
  | 0, _, _, _, _ => throw .endOfStream
  | fuel + 1, depth, path, i, acc => do
    let (e, _) ← d.peekEvent
    match e with
    | .sequenceEnd | .void => pure acc.reverse
    | _ =>
      let v ← value d fuel depth (.item path i)
      valueItems d fuel depth path (i + 1) (v :: acc)

def valueEntries (d : Document) : Nat → Nat → Path → List (String × Value) →
    Decoding (List (String × Value))
  | 0, _, _, _ => throw .endOfStream
  | fuel + 1, depth, path, acc => do
    let (e, _) ← d.peekEvent
    match e with
    | .mappingEnd | .void => pure acc.reverse
    | _ =>
      let k ← d.text "a string" fuel path
      let v ← value d fuel depth (valuePath path e)
      valueEntries d fuel depth path ((k, v) :: acc)
end

mutual
def read (d : Document) : Nat → Nat → Option Shape → Shape → Path → Decoding Datum
  | 0, _, _, _, _ => throw .endOfStream
  | fuel + 1, depth, self, shape, path =>
    match shape with
    | .text => (Datum.text ·) <$> d.text "a string" fuel path
    | .count => (Datum.count ·) <$> d.count "u64" fuel path
    | .optional s => optional d fuel depth self s path
    | .list s => list d fuel depth self s path
    | .record name fields => record d fuel depth shape name fields path
    | .enclosing =>
      match self with
      | some s => read d fuel depth self s path
      | none => throw .endOfStream
    | .dictionary => dictionary d fuel depth path

def optional (d : Document) : Nat → Nat → Option Shape → Shape → Path → Decoding Datum
  | 0, _, _, _, _ => throw .endOfStream
  | fuel + 1, depth, self, s, path => do
    let (e, _) ← d.peekEvent
    let skip : Decoding Unit := modify fun c => { c with pos := c.pos + 1 }
    match e with
    | .alias a =>
      skip
      let i ← d.jump a
      atEvent i (optional d fuel depth self s (.alias path))
    | .scalar tag text style =>
      let present ←
        if style != .plain then pure true
        else match tag with
          | some t =>
            if t == coreTag "null" then
              if isNullText text then pure false
              else throw (.mismatch (.invalidValue (.text text) "null") none)
            else pure true
          | none => pure (!text.isEmpty && !isNullText text)
      if present then read d fuel depth self s path
      else do
        skip
        pure .absent
    | .void => do
      skip
      pure .absent
    | _ => read d fuel depth self s path

def list (d : Document) : Nat → Nat → Option Shape → Shape → Path → Decoding Datum
  | 0, _, _, _, _ => throw .endOfStream
  | fuel + 1, depth, self, s, path => do
    let (e, m) ← d.nextEvent
    placing m path do
      match e with
      | .alias a => do
        let i ← d.jump a
        atEvent i (list d fuel depth self s (.alias path))
      | .sequenceStart _ => do
        if depth == 0 then throw (.recursionLimit m)
        let xs ← items d fuel (depth - 1) self s path 0 []
        let _ ← d.nextEvent
        pure (.list xs)
      | _ => if e.isEmptyPlain then pure (.list []) else throw (e.mismatch "a sequence")

def items (d : Document) : Nat → Nat → Option Shape → Shape → Path → Nat → List Datum →
    Decoding (List Datum)
  | 0, _, _, _, _, _, _ => throw .endOfStream
  | fuel + 1, depth, self, s, path, i, acc => do
    let (e, _) ← d.peekEvent
    match e with
    | .sequenceEnd | .void => pure acc.reverse
    | _ =>
      let x ← read d fuel depth self s (.item path i)
      items d fuel depth self s path (i + 1) (x :: acc)

def record (d : Document) : Nat → Nat → Shape → String → List (String × Shape) → Path →
    Decoding Datum
  | 0, _, _, _, _, _ => throw .endOfStream
  | fuel + 1, depth, shape, name, fields, path => do
    let (e, m) ← d.nextEvent
    placing m path do
      match e with
      | .alias a => do
        let i ← d.jump a
        atEvent i (record d fuel depth shape name fields (.alias path))
      | .mappingStart _ => do
        if depth == 0 then throw (.recursionLimit m)
        let values ← fieldsOf d fuel (depth - 1) shape fields path
          (fields.map (·.2.fieldDefault)) []
        let _ ← d.nextEvent
        pure (.record values)
      | _ =>
        if e.isEmptyPlain then pure (.record (fields.map (·.2.fieldDefault)))
        else throw (e.mismatch ("struct " ++ name))

def fieldsOf (d : Document) : Nat → Nat → Shape → List (String × Shape) → Path → List Datum →
    List Nat → Decoding (List Datum)
  | 0, _, _, _, _, _, _ => throw .endOfStream
  | fuel + 1, depth, shape, fields, path, values, seen => do
    let (e, _) ← d.peekEvent
    match e with
    | .mappingEnd | .void => pure values
    | _ =>
      let k ← d.text "field identifier" fuel path
      match fields.findIdx? (·.1 == k) with
      | none => do
        d.ignore fuel 0
        fieldsOf d fuel depth shape fields path values seen
      | some i => do
        let (fieldName, s) := fields.getD i ("", .text)
        if seen.contains i then throw (.mismatch (.duplicateField fieldName) none)
        let v ← read d fuel depth (some shape) s (valuePath path e)
        fieldsOf d fuel depth shape fields path (values.set i v) (i :: seen)

def dictionary (d : Document) : Nat → Nat → Path → Decoding Datum
  | 0, _, _ => throw .endOfStream
  | fuel + 1, depth, path => do
    let (e, m) ← d.nextEvent
    placing m path do
      match e with
      | .alias a => do
        let i ← d.jump a
        atEvent i (dictionary d fuel depth (.alias path))
      | .mappingStart _ => do
        if depth == 0 then throw (.recursionLimit m)
        let es ← valueEntries d fuel (depth - 1) path []
        let _ ← d.nextEvent
        pure (.dictionary (Value.insertAll es))
      | _ => if e.isEmptyPlain then pure (.dictionary []) else throw (e.mismatch "a map")
end

def decode (d : Document) (shape : Shape) : Except Failure Datum :=
  match (d.read (2 * d.events.size + 4096) 128 none shape .root).run {} with
  | .error f => .error f
  | .ok (datum, _) =>
    match d.fault with
    | some f => .error f
    | none => if d.more then .error .moreThanOneDocument else .ok datum

end Document

end Depot.Yaml
