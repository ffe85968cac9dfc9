import Depot.Yaml.Token

namespace Depot.Yaml

structure Gap where
  blanks : String := ""
  leading : String := ""
  trailing : String := ""
  broken : Bool := false
  deriving Inhabited

namespace Gap

def text (g : Gap) : String :=
  if g.broken then
    if g.leading.startsWith "\n" then (if g.trailing.isEmpty then " " else g.trailing)
    else g.leading ++ g.trailing
  else g.blanks

def isEmpty (g : Gap) : Bool := !g.broken && g.blanks.isEmpty

end Gap

def isFlowIndicator (c : Char) : Bool := c == ',' || c == '[' || c == ']' || c == '{' || c == '}'

namespace Scanner

def gap (limit : Option Int) (start : Mark) : Nat → Gap → Scanning Gap
  | 0, g => pure g
  | fuel + 1, g => do
    let c ← cur
    if isBlank c then
      let column := (← get).mark.column
      match limit with
      | some l =>
        if g.broken && (column : Int) < l && c == '\t' then
          fail (some "while scanning a plain scalar") start
            "found a tab character that violates indentation"
      | none => pure ()
      let g ← if g.broken then do skip; pure g else do pure { g with blanks := ← read g.blanks }
      need 1
      gap limit start fuel g
    else if isBreak c then
      need 2
      let g ← if g.broken then do pure { g with trailing := ← readLine g.trailing }
        else do pure { g with blanks := "", leading := ← readLine "", broken := true }
      need 1
      gap limit start fuel g
    else pure g

def charsLeft : Scanning Nat := do
  let s ← get
  pure (s.input.chars.size - s.pos + 8)

def plainRun (start : Mark) : Nat → String → Gap → Mark → Scanning (String × Gap × Mark)
  | 0, text, g, stop => pure (text, g, stop)
  | fuel + 1, text, g, stop => do
    let c ← cur
    let d ← peekAt 1
    let flow ← inFlow
    if isBlankOrEnd c then return (text, g, stop)
    if flow && c == ':' && (isFlowIndicator d || d == '?') then
      fail (some "while scanning a plain scalar") start "found unexpected ':'"
    if (c == ':' && isBlankOrEnd d) || (flow && isFlowIndicator c) then return (text, g, stop)
    let text ← read (text ++ g.text)
    let stop := (← get).mark
    need 2
    plainRun start fuel text {} stop

def plainLines (start : Mark) (indent : Int) : Nat → String → Gap → Mark →
    Scanning (String × Gap × Mark)
  | 0, text, g, stop => pure (text, g, stop)
  | fuel + 1, text, g, stop => do
    need 4
    if (← atDocumentMarker) || (← cur) == '#' then return (text, g, stop)
    let (text, g, stop) ← plainRun start (← charsLeft) text g stop
    let c ← cur
    if !(isBlank c || isBreak c) then return (text, g, stop)
    need 1
    let g ← gap (some indent) start (← charsLeft) g
    if !(← inFlow) && ((← get).mark.column : Int) < indent then return (text, g, stop)
    plainLines start indent fuel text g stop

def plainScalar : Scanning Unit := do
  let s ← get
  let start := s.mark
  let (text, g, stop) ← plainLines start (s.indent + 1) (← charsLeft) "" {} start
  enqueue (.scalar text .plain) start stop
  if g.broken then modify fun s => { s with keyAllowed := true }

def escapeChar? : Char → Option Char
  | '0' => some '\x00'
  | 'a' => some '\x07'
  | 'b' => some '\x08'
  | 't' => some '\t'
  | '\t' => some '\t'
  | 'n' => some '\n'
  | 'v' => some '\x0b'
  | 'f' => some '\x0c'
  | 'r' => some '\r'
  | 'e' => some '\x1b'
  | ' ' => some ' '
  | '"' => some '"'
  | '/' => some '/'
  | '\'' => some '\''
  | '\\' => some '\\'
  | 'N' => some '\x85'
  | '_' => some '\xa0'
  | 'L' => some '\u2028'
  | 'P' => some '\u2029'
  | _ => none

def escapeWidth : Char → Nat
  | 'x' => 2
  | 'u' => 4
  | 'U' => 8
  | _ => 0

def hexDigits (start : Mark) (width : Nat) : Scanning Nat := do
  let digits ← (List.range width).mapM fun k => peekAt k
  match digits.mapM hexValue? with
  | some ds => pure (ds.foldl (fun n d => 16 * n + d) 0)
  | none =>
    fail (some "while parsing a quoted scalar") start "did not find expected hexdecimal number"

def escape (start : Mark) (text : String) : Scanning String := do
  let e ← peekAt 1
  match escapeChar? e with
  | some ch =>
    skipN 2
    pure (text.push ch)
  | none =>
    let width := escapeWidth e
    if width == 0 then
      fail (some "while parsing a quoted scalar") start "found unknown escape character"
    skipN 2
    need width
    let v ← hexDigits start width
    if (0xD800 ≤ v && v ≤ 0xDFFF) || v > 0x10FFFF then
      fail (some "while parsing a quoted scalar") start "found invalid Unicode character escape code"
    skipN width
    pure (text.push (Char.ofNat v))

def quotedRun (single : Bool) (start : Mark) : Nat → String → Scanning (String × Bool)
  | 0, text => pure (text, false)
  | fuel + 1, text => do
    let c ← cur
    let d ← peekAt 1
    if isBlankOrEnd c then return (text, false)
    let text ←
      if single && c == '\'' && d == '\'' then do
        skipN 2
        pure (text.push '\'')
      else if c == (if single then '\'' else '"') then return (text, false)
      else if !single && c == '\\' && isBreak d then do
        need 3
        skip
        skipLine
        return (text, true)
      else if !single && c == '\\' then escape start text
      else read text
    need 2
    quotedRun single start fuel text

def quotedLines (single : Bool) (start : Mark) : Nat → String → Scanning String
  | 0, text => pure text
  | fuel + 1, text => do
    need 4
    if ← atDocumentMarker then
      fail (some "while scanning a quoted scalar") start "found unexpected document indicator"
    if isEnd (← cur) then
      fail (some "while scanning a quoted scalar") start "found unexpected end of stream"
    need 2
    let (text, joined) ← quotedRun single start (← charsLeft) text
    need 1
    if (← cur) == (if single then '\'' else '"') then return text
    need 1
    let g ← gap none start (← charsLeft) { broken := joined }
    quotedLines single start fuel (text ++ g.text)

def quotedScalar (single : Bool) : Scanning Unit := do
  let start := (← get).mark
  skip
  let text ← quotedLines single start (← charsLeft) ""
  skip
  enqueue (.scalar text (if single then .singleQuoted else .doubleQuoted)) start (← get).mark

def blockHeader (start : Mark) : Scanning (Int × Nat) := do
  let zero {α : Type} : Scanning α :=
    fail (some "while scanning a block scalar") start "found an indentation indicator equal to 0"
  need 1
  let c ← cur
  if c == '+' || c == '-' then
    let chomp : Int := if c == '+' then 1 else -1
    skip
    need 1
    let d ← cur
    if d.isDigit then
      if d == '0' then zero
      skip
      pure (chomp, d.toNat - 48)
    else pure (chomp, 0)
  else if c.isDigit then
    if c == '0' then zero
    skip
    need 1
    let d ← cur
    if d == '+' || d == '-' then
      skip
      pure (if d == '+' then 1 else -1, c.toNat - 48)
    else pure (0, c.toNat - 48)
  else pure (0, 0)

def skipWhile (p : Char → Bool) : Nat → Scanning Unit
  | 0 => pure ()
  | fuel + 1 => do
    if p (← cur) then
      skip
      need 1
      skipWhile p fuel

def indentSpaces (indent : Nat) : Nat → Scanning Unit
  | 0 => pure ()
  | fuel + 1 => do
    let column := (← get).mark.column
    if (indent == 0 || column < indent) && (← cur) == ' ' then
      skip
      need 1
      indentSpaces indent fuel

def blockBreaks (start : Mark) (indent : Nat) : Nat → Nat → String → Mark →
    Scanning (Nat × String × Mark)
  | 0, _, breaks, stop => pure (indent, breaks, stop)
  | fuel + 1, deepest, breaks, stop => do
    need 1
    indentSpaces indent (← charsLeft)
    let column := (← get).mark.column
    let deepest := max deepest column
    let c ← cur
    if (indent == 0 || column < indent) && c == '\t' then
      fail (some "while scanning a block scalar") start
        "found a tab character where an indentation space is expected"
    if !isBreak c then
      let s ← get
      let indent :=
        if indent == 0 then max (max deepest (s.indent + 1).toNat) 1 else indent
      return (indent, breaks, stop)
    need 2
    let breaks ← readLine breaks
    blockBreaks start indent fuel deepest breaks (← get).mark

def readRest : Nat → String → Scanning String
  | 0, text => pure text
  | fuel + 1, text => do
    if isBreakOrEnd (← cur) then return text
    let text ← read text
    need 1
    readRest fuel text

def blockLines (literal : Bool) (start : Mark) (indent : Nat) :
    Nat → String → String → String → Bool → Mark → Scanning (String × String × String × Mark)
  | 0, text, leading, trailing, _, stop => pure (text, leading, trailing, stop)
  | fuel + 1, text, leading, trailing, leadingBlank, stop => do
    let c ← cur
    if (← get).mark.column != indent || isEnd c then return (text, leading, trailing, stop)
    let trailingBlank := isBlank c
    let text :=
      if !literal && leading.startsWith "\n" && !leadingBlank && !trailingBlank then
        if trailing.isEmpty then text.push ' ' else text
      else text ++ leading
    let text ← readRest (← charsLeft) (text ++ trailing)
    need 2
    let leading ← readLine ""
    let (_, trailing, stop) ← blockBreaks start indent (← charsLeft) 0 "" (← get).mark
    blockLines literal start indent fuel text leading trailing (isBlank c) stop

def blockScalar (literal : Bool) : Scanning Unit := do
  let start := (← get).mark
  skip
  let (chomping, increment) ← blockHeader start
  need 1
  skipWhile isBlank (← charsLeft)
  if (← cur) == '#' then skipWhile (fun c => !isBreakOrEnd c) (← charsLeft)
  if !isBreakOrEnd (← cur) then
    fail (some "while scanning a block scalar") start "did not find expected comment or line break"
  if isBreak (← cur) then
    need 2
    skipLine
  let s ← get
  let indent : Nat :=
    if increment == 0 then 0 else if s.indent ≥ 0 then s.indent.toNat + increment else increment
  let (indent, trailing, stop) ← blockBreaks start indent (← charsLeft) 0 "" s.mark
  need 1
  let (text, leading, trailing, stop) ←
    blockLines literal start indent (← charsLeft) "" "" trailing false stop
  let text := text ++ (if chomping != -1 then leading else "") ++
    (if chomping == 1 then trailing else "")
  enqueue (.scalar text (if literal then .literal else .folded)) start stop

end Scanner

end Depot.Yaml
