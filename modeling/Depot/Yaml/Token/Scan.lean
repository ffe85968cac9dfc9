import Depot.Yaml.Token.Tag

namespace Depot.Yaml

namespace Scanner

def toNextToken : Nat → Scanning Unit
  | 0 => pure ()
  | fuel + 1 => do
    need 1
    if (← get).mark.column == 0 && (← cur) == '\uFEFF' then skip
    need 1
    let tabsPass := (← get).flowLevel != 0 || !(← get).keyAllowed
    skipWhile (fun c => c == ' ' || (tabsPass && c == '\t')) (← charsLeft)
    if (← cur) == '#' then skipWhile (fun c => !isBreakOrEnd c) (← charsLeft)
    if isBreak (← cur) then
      need 2
      skipLine
      if (← get).flowLevel == 0 then modify fun s => { s with keyAllowed := true }
      toNextToken fuel

def anchor (isAlias : Bool) : Scanning Unit := do
  let start := (← get).mark
  skip
  need 1
  let rec word : Nat → String → Scanning String
    | 0, h => pure h
    | fuel + 1, h => do
      if isWordChar (← cur) then
        let h ← read h
        need 1
        word fuel h
      else pure h
  let name ← word (← charsLeft) ""
  let stop := (← get).mark
  let c ← cur
  if name.isEmpty || !(isBlankOrEnd c || c == '?' || c == ':' || c == ',' || c == ']' ||
      c == '}' || c == '%' || c == '@' || c == '\x60') then
    fail (some (if isAlias then "while scanning an alias" else "while scanning an anchor")) start
      "did not find expected alphabetic or numeric character"
  enqueue (if isAlias then .alias name else .anchor name) start stop

def versionFault {α : Type} (start : Mark) (problem : String) : Scanning α :=
  fail (some "while scanning a %YAML directive") start problem

def versionNumber (start : Mark) : Scanning Nat := do
  let rec go : Nat → Nat → Nat → Scanning (Nat × Nat)
    | 0, v, n => pure (v, n)
    | fuel + 1, v, n => do
      let c ← cur
      if !c.isDigit then return (v, n)
      if n + 1 > 9 then versionFault start "found extremely long version number"
      skip
      need 1
      go fuel (10 * v + (c.toNat - 48)) (n + 1)
  need 1
  let (v, n) ← go (← charsLeft) 0 0
  if n == 0 then versionFault start "did not find expected version number"
  pure v

def directiveName (start : Mark) : Scanning String := do
  let rec go : Nat → String → Scanning String
    | 0, h => pure h
    | fuel + 1, h => do
      if isWordChar (← cur) then
        let h ← read h
        need 1
        go fuel h
      else pure h
  need 1
  let name ← go (← charsLeft) ""
  if name.isEmpty then
    fail (some "while scanning a directive") start "could not find expected directive name"
  if !isBlankOrEnd (← cur) then
    fail (some "while scanning a directive") start "found unexpected non-alphabetical character"
  pure name

def directive : Scanning Unit := do
  let start := (← get).mark
  skip
  let name ← directiveName start
  let t ←
    if name == "YAML" then do
      need 1
      skipWhile isBlank (← charsLeft)
      let major ← versionNumber start
      if (← cur) != '.' then
        versionFault start "did not find expected digit or '.' character"
      skip
      let minor ← versionNumber start
      pure (Token.versionDirective major minor)
    else if name == "TAG" then do
      need 1
      skipWhile isBlank (← charsLeft)
      let handle ← tagHandle true start
      need 1
      if !isBlank (← cur) then
        fail (some "while scanning a %TAG directive") start "did not find expected whitespace"
      skipWhile isBlank (← charsLeft)
      let expansion ← tagUri true true "" start
      need 1
      if !isBlankOrEnd (← cur) then
        fail (some "while scanning a %TAG directive") start
          "did not find expected whitespace or line break"
      pure (Token.tagDirective handle expansion)
    else fail (some "while scanning a directive") start "found unknown directive name"
  let stop := (← get).mark
  need 1
  skipWhile isBlank (← charsLeft)
  if (← cur) == '#' then skipWhile (fun c => !isBreakOrEnd c) (← charsLeft)
  if !isBreakOrEnd (← cur) then
    fail (some "while scanning a directive") start "did not find expected comment or line break"
  if isBreak (← cur) then
    need 2
    skipLine
  enqueue t start stop

def single (t : Token) : Scanning Unit := do
  let start := (← get).mark
  skip
  enqueue t start (← get).mark

def streamStart : Scanning Unit := do
  let m := (← get).mark
  modify fun s => { s with indent := -1, keys := {} :: s.keys, keyAllowed := true, started := true }
  enqueue .streamStart m m

def streamEnd : Scanning Unit := do
  let s ← get
  if s.mark.column != 0 then
    set { s with mark := { s.mark with column := 0, line := s.mark.line + 1 } }
  unrollIndent (-1)
  removeKey
  modify fun s => { s with keyAllowed := false }
  let m := (← get).mark
  enqueue .streamEnd m m

def valueToken : Scanning Unit := do
  let k ← topKey
  if k.possible then
    insertAt k.tokenNumber .key k.mark k.mark
    rollIndent k.mark.column (some k.tokenNumber) .blockMappingStart k.mark
    setTopKey { k with possible := false }
    modify fun s => { s with keyAllowed := false }
  else
    let s ← get
    if s.flowLevel == 0 then
      if !s.keyAllowed then fail none s.mark "mapping values are not allowed in this context"
      rollIndent s.mark.column none .blockMappingStart s.mark
    modify fun s => { s with keyAllowed := s.flowLevel == 0 }
  single .value

def fetchNext : Scanning Unit := do
  need 1
  if !(← get).started then
    streamStart
    return
  toNextToken (← charsLeft)
  dropStaleKeys
  unrollIndent (← get).mark.column
  need 4
  let s ← get
  let c ← cur
  let d ← peekAt 1
  let flow := s.flowLevel != 0
  if isEnd c then streamEnd
  else if s.mark.column == 0 && c == '%' then
    unrollIndent (-1)
    removeKey
    modify fun s => { s with keyAllowed := false }
    directive
  else if ← atDocumentMarker then
    unrollIndent (-1)
    removeKey
    modify fun s => { s with keyAllowed := false }
    let start := (← get).mark
    skipN 3
    enqueue (if c == '-' then .documentStart else .documentEnd) start (← get).mark
  else if c == '[' || c == '{' then
    saveKey
    modify fun s => { s with keys := {} :: s.keys, flowLevel := s.flowLevel + 1 }
    modify fun s => { s with keyAllowed := true }
    single (if c == '[' then .flowSequenceStart else .flowMappingStart)
  else if c == ']' || c == '}' then
    removeKey
    modify fun s =>
      if s.flowLevel != 0 then { s with keys := s.keys.drop 1, flowLevel := s.flowLevel - 1 }
      else s
    modify fun s => { s with keyAllowed := false }
    single (if c == ']' then .flowSequenceEnd else .flowMappingEnd)
  else if c == ',' then
    removeKey
    modify fun s => { s with keyAllowed := true }
    single .flowEntry
  else if c == '-' && isBlankOrEnd d then
    if !flow then
      if !s.keyAllowed then
        fail none s.mark "block sequence entries are not allowed in this context"
      rollIndent s.mark.column none .blockSequenceStart s.mark
    removeKey
    modify fun s => { s with keyAllowed := true }
    single .blockEntry
  else if c == '?' && (flow || isBlankOrEnd d) then
    if !flow then
      if !s.keyAllowed then fail none s.mark "mapping keys are not allowed in this context"
      rollIndent s.mark.column none .blockMappingStart s.mark
    removeKey
    modify fun s => { s with keyAllowed := !flow }
    single .key
  else if c == ':' && (flow || isBlankOrEnd d) then valueToken
  else if c == '*' || c == '&' then
    saveKey
    modify fun s => { s with keyAllowed := false }
    anchor (c == '*')
  else if c == '!' then
    saveKey
    modify fun s => { s with keyAllowed := false }
    tag
  else if (c == '|' || c == '>') && !flow then
    removeKey
    modify fun s => { s with keyAllowed := true }
    blockScalar (c == '|')
  else if c == '\'' || c == '"' then
    saveKey
    modify fun s => { s with keyAllowed := false }
    quotedScalar (c == '\'')
  else if plainStart c d flow then
    saveKey
    modify fun s => { s with keyAllowed := false }
    plainScalar
  else
    fail (some "while scanning for the next token") s.mark
      "found character that cannot start any token"
where
  plainStart (c d : Char) (flow : Bool) : Bool :=
    let indicator := c == '-' || c == '?' || c == ':' || c == ',' || c == '[' || c == ']' ||
      c == '{' || c == '}' || c == '#' || c == '&' || c == '*' || c == '!' || c == '|' ||
      c == '>' || c == '\'' || c == '"' || c == '%' || c == '@' || c == '\x60'
    !(isBlankOrEnd c || indicator) || (c == '-' && !isBlank d) ||
      (!flow && (c == '?' || c == ':') && !isBlankOrEnd d)

def fetchMore : Nat → Scanning Unit
  | 0 => pure ()
  | fuel + 1 => do
    let waiting ←
      if (← get).queue.isEmpty then pure true
      else do
        dropStaleKeys
        let s ← get
        pure (s.keys.any fun k => k.possible && k.tokenNumber == s.handed)
    if waiting then
      fetchNext
      fetchMore fuel

def peekToken : Scanning Lexeme := do
  if !(← get).available then
    fetchMore (2 * (← charsLeft))
    modify fun s => { s with available := true }
  let s ← get
  match s.queue with
  | t :: _ => pure t
  | [] => pure ⟨.streamEnd, s.mark, s.mark⟩

def skipToken : Scanning Unit :=
  modify fun s => { s with queue := s.queue.drop 1, handed := s.handed + 1, available := false }

end Scanner

end Depot.Yaml
