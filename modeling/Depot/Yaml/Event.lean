import Depot.Yaml.Token.Scan

namespace Depot.Yaml

inductive Event where
  | streamStart
  | streamEnd
  | documentStart
  | documentEnd
  | alias (name : String)
  | scalar (anchor : Option String) (tag : Option (List UInt8)) (text : String) (style : Style)
  | sequenceStart (anchor : Option String) (tag : Option (List UInt8))
  | sequenceEnd
  | mappingStart (anchor : Option String) (tag : Option (List UInt8))
  | mappingEnd
  deriving DecidableEq, Repr, Inhabited

inductive Expect where
  | streamStart
  | implicitDocumentStart
  | documentStart
  | documentContent
  | documentEnd
  | blockNode
  | blockNodeOrIndentlessSequence
  | flowNode
  | blockSequenceFirstEntry
  | blockSequenceEntry
  | indentlessSequenceEntry
  | blockMappingFirstKey
  | blockMappingKey
  | blockMappingValue
  | flowSequenceFirstEntry
  | flowSequenceEntry
  | flowSequenceEntryMappingKey
  | flowSequenceEntryMappingValue
  | flowSequenceEntryMappingEnd
  | flowMappingFirstKey
  | flowMappingKey
  | flowMappingValue
  | flowMappingEmptyValue
  | finished
  deriving DecidableEq, Repr, Inhabited

structure Parser where
  scanner : Scanner
  expect : Expect := .streamStart
  stack : List Expect := []
  marks : List Mark := []
  handles : List (String × List UInt8) := []
  deriving Inhabited

abbrev Parsing := StateT Parser (Except Problem)

namespace Parser

def peek : Parsing Lexeme := do
  let p ← get
  match Scanner.peekToken.run p.scanner with
  | .ok (t, sc) =>
    set { p with scanner := sc }
    pure t
  | .error e => throw e

def skip : Parsing Unit := do
  let p ← get
  match Scanner.skipToken.run p.scanner with
  | .ok (_, sc) => set { p with scanner := sc }
  | .error e => throw e

def going (e : Expect) : Parsing Unit := modify fun p => { p with expect := e }

def back : Parsing Unit :=
  modify fun p => { p with expect := p.stack.headD .finished, stack := p.stack.drop 1 }

def within (e : Expect) : Parsing Unit := modify fun p => { p with stack := e :: p.stack }

def pushMark (m : Mark) : Parsing Unit := modify fun p => { p with marks := m :: p.marks }

def popMark : Parsing Mark := do
  let p ← get
  set { p with marks := p.marks.drop 1 }
  pure (p.marks.headD {})

def empty (m : Mark) : Event × Mark := (.scalar none none "" .plain, m)

def defaultHandles : List (String × List UInt8) :=
  [("!", "!".toUTF8.toList), ("!!", "tag:yaml.org,2002:".toUTF8.toList)]

def directives : Nat → Bool → Parsing Unit
  | 0, _ => pure ()
  | fuel + 1, version => do
    let t ← peek
    match t.token with
    | .versionDirective major minor =>
      if version then throw (.atMark "found duplicate %YAML directive" t.start)
      if major != 1 || (minor != 1 && minor != 2) then
        throw (.atMark "found incompatible YAML document" t.start)
      skip
      directives fuel true
    | .tagDirective handle expansion =>
      if (← get).handles.any (·.1 == handle) then
        throw (.atMark "found duplicate %TAG directive" t.start)
      modify fun p => { p with handles := p.handles ++ [(handle, expansion)] }
      skip
      directives fuel version
    | _ =>
      modify fun p =>
        { p with handles := p.handles ++ defaultHandles.filter fun d => !p.handles.any (·.1 == d.1) }

def isDocumentBoundary : Token → Bool
  | .versionDirective .. | .tagDirective .. | .documentStart | .documentEnd | .streamEnd => true
  | _ => false

def startsDocument : Token → Bool
  | .versionDirective .. | .tagDirective .. | .documentStart | .streamEnd => true
  | _ => false

def node (block indentless : Bool) : Parsing (Event × Mark) := do
  let t ← peek
  if let .alias name := t.token then
    back
    skip
    return (.alias name, t.start)
  let start := t.start
  let (anchor, written, tagMark) ← match t.token with
    | .anchor a => do
      skip
      let t ← peek
      match t.token with
      | .tag h s => do skip; pure (some a, some (h, s), t.start)
      | _ => pure (some a, none, start)
    | .tag h s => do
      skip
      let t ← peek
      match t.token with
      | .anchor a => do skip; pure (some a, some (h, s), start)
      | _ => pure (none, some (h, s), start)
    | _ => pure (none, none, start)
  let tag ← match written with
    | none => pure none
    | some (handle, suffix) =>
      if handle.isEmpty then pure (some suffix)
      else match (← get).handles.find? (·.1 == handle) with
        | some (_, expansion) => pure (some (expansion ++ suffix))
        | none => throw (.within "while parsing a node" start "found undefined tag handle" tagMark)
  let t ← peek
  let bare := anchor.isNone && tag.isNone
  match t.token with
  | .blockEntry =>
    if indentless then
      going .indentlessSequenceEntry
      return (.sequenceStart anchor tag, start)
  | .scalar text style =>
    back
    skip
    return (.scalar anchor tag text style, start)
  | .flowSequenceStart =>
    going .flowSequenceFirstEntry
    return (.sequenceStart anchor tag, start)
  | .flowMappingStart =>
    going .flowMappingFirstKey
    return (.mappingStart anchor tag, start)
  | .blockSequenceStart =>
    if block then
      going .blockSequenceFirstEntry
      return (.sequenceStart anchor tag, start)
  | .blockMappingStart =>
    if block then
      going .blockMappingFirstKey
      return (.mappingStart anchor tag, start)
  | _ => pure ()
  if !bare then
    back
    return (.scalar anchor tag "" .plain, start)
  throw (.within (if block then "while parsing a block node" else "while parsing a flow node")
    start "did not find expected node content" t.start)

def documentStart (implicit : Bool) : Parsing (Event × Mark) := do
  let rec dropEnds : Nat → Parsing Lexeme
    | 0 => peek
    | fuel + 1 => do
      let t ← peek
      if t.token == .documentEnd then
        skip
        dropEnds fuel
      else pure t
  let t ← if implicit then peek else dropEnds (2 * (← get).scanner.input.chars.size + 4)
  if implicit && !startsDocument t.token then
    modify fun p => { p with handles := defaultHandles }
    within .documentEnd
    going .blockNode
    return (.documentStart, t.start)
  if t.token == .streamEnd then
    going .finished
    skip
    return (.streamEnd, t.start)
  directives (2 * (← get).scanner.input.chars.size + 4) false
  let d ← peek
  if d.token != .documentStart then
    throw (.atMark "did not find expected <document start>" d.start)
  within .documentEnd
  going .documentContent
  skip
  return (.documentStart, t.start)

def blockSequenceEntry (first : Bool) : Parsing (Event × Mark) := do
  if first then
    pushMark (← peek).start
    skip
  let t ← peek
  match t.token with
  | .blockEntry =>
    skip
    let n ← peek
    match n.token with
    | .blockEntry | .blockEnd =>
      going .blockSequenceEntry
      pure (empty t.stop)
    | _ =>
      within .blockSequenceEntry
      node true false
  | .blockEnd =>
    back
    let _ ← popMark
    skip
    pure (.sequenceEnd, t.start)
  | _ =>
    throw (.within "while parsing a block collection" (← popMark)
      "did not find expected '-' indicator" t.start)

def indentlessSequenceEntry : Parsing (Event × Mark) := do
  let t ← peek
  match t.token with
  | .blockEntry =>
    skip
    let n ← peek
    match n.token with
    | .blockEntry | .key | .value | .blockEnd =>
      going .indentlessSequenceEntry
      pure (empty t.stop)
    | _ =>
      within .indentlessSequenceEntry
      node true false
  | _ =>
    back
    pure (.sequenceEnd, t.start)

def blockMappingKey (first : Bool) : Parsing (Event × Mark) := do
  if first then
    pushMark (← peek).start
    skip
  let t ← peek
  match t.token with
  | .key =>
    skip
    let n ← peek
    match n.token with
    | .key | .value | .blockEnd =>
      going .blockMappingValue
      pure (empty t.stop)
    | _ =>
      within .blockMappingValue
      node true true
  | .blockEnd =>
    back
    let _ ← popMark
    skip
    pure (.mappingEnd, t.start)
  | _ =>
    throw (.within "while parsing a block mapping" (← popMark) "did not find expected key" t.start)

def blockMappingValue : Parsing (Event × Mark) := do
  let t ← peek
  match t.token with
  | .value =>
    skip
    let n ← peek
    match n.token with
    | .key | .value | .blockEnd =>
      going .blockMappingKey
      pure (empty t.stop)
    | _ =>
      within .blockMappingKey
      node true true
  | _ =>
    going .blockMappingKey
    pure (empty t.start)

def flowSequenceEntry (first : Bool) : Parsing (Event × Mark) := do
  if first then
    pushMark (← peek).start
    skip
  let t ← peek
  if t.token != .flowSequenceEnd then
    let t ← if first then pure t
      else if t.token == .flowEntry then do skip; peek
      else throw (.within "while parsing a flow sequence" (← popMark)
        "did not find expected ',' or ']'" t.start)
    if t.token == .key then
      going .flowSequenceEntryMappingKey
      skip
      return (.mappingStart none none, t.start)
    if t.token != .flowSequenceEnd then
      within .flowSequenceEntry
      return ← node false false
    back
    let _ ← popMark
    skip
    return (.sequenceEnd, t.start)
  back
  let _ ← popMark
  skip
  pure (.sequenceEnd, t.start)

def flowSequenceEntryMappingKey : Parsing (Event × Mark) := do
  let t ← peek
  match t.token with
  | .value | .flowEntry | .flowSequenceEnd =>
    skip
    going .flowSequenceEntryMappingValue
    pure (empty t.stop)
  | _ =>
    within .flowSequenceEntryMappingValue
    node false false

def flowSequenceEntryMappingValue : Parsing (Event × Mark) := do
  let t ← peek
  if t.token == .value then
    skip
    let n ← peek
    if n.token != .flowEntry && n.token != .flowSequenceEnd then
      within .flowSequenceEntryMappingEnd
      return ← node false false
    going .flowSequenceEntryMappingEnd
    return empty n.start
  going .flowSequenceEntryMappingEnd
  pure (empty t.start)

def flowMappingKey (first : Bool) : Parsing (Event × Mark) := do
  if first then
    pushMark (← peek).start
    skip
  let t ← peek
  if t.token != .flowMappingEnd then
    let t ← if first then pure t
      else if t.token == .flowEntry then do skip; peek
      else throw (.within "while parsing a flow mapping" (← popMark)
        "did not find expected ',' or '\x7d'" t.start)
    if t.token == .key then
      skip
      let n ← peek
      if n.token != .value && n.token != .flowEntry && n.token != .flowMappingEnd then
        within .flowMappingValue
        return ← node false false
      going .flowMappingValue
      return empty n.start
    if t.token != .flowMappingEnd then
      within .flowMappingEmptyValue
      return ← node false false
    back
    let _ ← popMark
    skip
    return (.mappingEnd, t.start)
  back
  let _ ← popMark
  skip
  pure (.mappingEnd, t.start)

def flowMappingValue (emptyValue : Bool) : Parsing (Event × Mark) := do
  let t ← peek
  if emptyValue then
    going .flowMappingKey
    return empty t.start
  if t.token == .value then
    skip
    let n ← peek
    if n.token != .flowEntry && n.token != .flowMappingEnd then
      within .flowMappingKey
      return ← node false false
    going .flowMappingKey
    return empty n.start
  going .flowMappingKey
  pure (empty t.start)

def step : Parsing (Option (Event × Mark)) := do
  match (← get).expect with
  | .streamStart =>
    let t ← peek
    if t.token != .streamStart then
      throw (.atMark "did not find expected <stream-start>" t.start)
    going .implicitDocumentStart
    skip
    pure (some (.streamStart, t.start))
  | .implicitDocumentStart => some <$> documentStart true
  | .documentStart => some <$> documentStart false
  | .documentContent =>
    let t ← peek
    if isDocumentBoundary t.token then
      back
      pure (some (empty t.start))
    else some <$> node true false
  | .documentEnd =>
    let t ← peek
    if t.token == .documentEnd then skip
    modify fun p => { p with handles := [] }
    going .documentStart
    pure (some (.documentEnd, t.start))
  | .blockNode => some <$> node true false
  | .blockNodeOrIndentlessSequence => some <$> node true true
  | .flowNode => some <$> node false false
  | .blockSequenceFirstEntry => some <$> blockSequenceEntry true
  | .blockSequenceEntry => some <$> blockSequenceEntry false
  | .indentlessSequenceEntry => some <$> indentlessSequenceEntry
  | .blockMappingFirstKey => some <$> blockMappingKey true
  | .blockMappingKey => some <$> blockMappingKey false
  | .blockMappingValue => some <$> blockMappingValue
  | .flowSequenceFirstEntry => some <$> flowSequenceEntry true
  | .flowSequenceEntry => some <$> flowSequenceEntry false
  | .flowSequenceEntryMappingKey => some <$> flowSequenceEntryMappingKey
  | .flowSequenceEntryMappingValue => some <$> flowSequenceEntryMappingValue
  | .flowSequenceEntryMappingEnd =>
    going .flowSequenceEntry
    pure (some (.mappingEnd, (← peek).start))
  | .flowMappingFirstKey => some <$> flowMappingKey true
  | .flowMappingKey => some <$> flowMappingKey false
  | .flowMappingValue => some <$> flowMappingValue false
  | .flowMappingEmptyValue => some <$> flowMappingValue true
  | .finished => pure none

def ofInput (input : Input) : Parser := { scanner := { input } }

end Parser

end Depot.Yaml
