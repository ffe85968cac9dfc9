import Depot.Yaml.Input

namespace Depot.Yaml

inductive Style where
  | plain
  | singleQuoted
  | doubleQuoted
  | literal
  | folded
  deriving DecidableEq, Repr, Inhabited

inductive Token where
  | streamStart
  | streamEnd
  | versionDirective (major minor : Nat)
  | tagDirective (handle : String) (expansion : List UInt8)
  | documentStart
  | documentEnd
  | blockSequenceStart
  | blockMappingStart
  | blockEnd
  | flowSequenceStart
  | flowSequenceEnd
  | flowMappingStart
  | flowMappingEnd
  | blockEntry
  | flowEntry
  | key
  | value
  | alias (name : String)
  | anchor (name : String)
  | tag (handle : String) (suffix : List UInt8)
  | scalar (text : String) (style : Style)
  deriving DecidableEq, Repr, Inhabited

structure Lexeme where
  token : Token
  start : Mark
  stop : Mark
  deriving Repr, Inhabited

def isBreak (c : Char) : Bool :=
  c == '\n' || c == '\r' || c == '\x85' || c == '\u2028' || c == '\u2029'

def isBlank (c : Char) : Bool := c == ' ' || c == '\t'

def isEnd (c : Char) : Bool := c == '\x00'

def isBreakOrEnd (c : Char) : Bool := isBreak c || isEnd c

def isBlankOrEnd (c : Char) : Bool := isBlank c || isBreak c || isEnd c

def isWordChar (c : Char) : Bool := c.isAlphanum || c == '_' || c == '-'

def hexValue? (c : Char) : Option Nat :=
  if c.isDigit then some (c.toNat - 48)
  else if 'a' ≤ c && c ≤ 'f' then some (c.toNat - 87)
  else if 'A' ≤ c && c ≤ 'F' then some (c.toNat - 55)
  else none

structure SimpleKey where
  possible : Bool := false
  required : Bool := false
  tokenNumber : Nat := 0
  mark : Mark := {}
  deriving Inhabited

structure Scanner where
  input : Input
  ready : Nat := 0
  blocks : List Nat := input.blocks
  pos : Nat := 0
  mark : Mark := {}
  queue : List Lexeme := []
  handed : Nat := 0
  started : Bool := false
  available : Bool := false
  indent : Int := -1
  indents : List Int := []
  keyAllowed : Bool := false
  keys : List SimpleKey := []
  flowLevel : Nat := 0
  deriving Inhabited

abbrev Scanning := StateT Scanner (Except Problem)

namespace Scanner

def peekAt (k : Nat) : Scanning Char := do
  let s ← get
  pure (s.input.chars.getD (s.pos + k) '\x00')

def cur : Scanning Char := peekAt 0

def need (n : Nat) : Scanning Unit := do
  let s ← get
  let rec go (ready : Nat) : List Nat → Except Problem (Nat × List Nat)
    | [] =>
      match s.input.fault with
      | some p => if ready < s.pos + n then .error p else .ok (ready, [])
      | none => .ok (ready, [])
    | b :: bs => if ready ≥ s.pos + n then .ok (ready, b :: bs) else go b bs
  let (ready, blocks) ← go s.ready s.blocks
  set { s with ready, blocks }

def inFlow : Scanning Bool := do pure ((← get).flowLevel != 0)

def skip : Scanning Unit := do
  let c ← cur
  modify fun s => { s with
    pos := s.pos + 1
    mark := { s.mark with index := s.mark.index + c.utf8Size, column := s.mark.column + 1 } }

def skipN : Nat → Scanning Unit
  | 0 => pure ()
  | n + 1 => do skip; skipN n

def skipLine : Scanning Unit := do
  let c ← cur
  let d ← peekAt 1
  if c == '\r' && d == '\n' then
    modify fun s => { s with
      pos := s.pos + 2
      mark := { index := s.mark.index + 2, line := s.mark.line + 1, column := 0 } }
  else if isBreak c then
    modify fun s => { s with
      pos := s.pos + 1
      mark := { index := s.mark.index + c.utf8Size, line := s.mark.line + 1, column := 0 } }

def read (acc : String) : Scanning String := do
  let c ← cur
  skip
  pure (acc.push c)

def breakChar (c : Char) : Char := if c == '\u2028' || c == '\u2029' then c else '\n'

def readLine (acc : String) : Scanning String := do
  let c ← cur
  if isBreak c then
    skipLine
    pure (acc.push (breakChar c))
  else pure acc

def fail {α : Type} (context : Option String) (start : Mark) (problem : String) : Scanning α := do
  let m := (← get).mark
  match context with
  | some c => throw (.within c start problem m)
  | none => throw (.atMark problem m)

def atDocumentMarker : Scanning Bool := do
  let s ← get
  let c0 ← peekAt 0
  let c1 ← peekAt 1
  let c2 ← peekAt 2
  let c3 ← peekAt 3
  pure (s.mark.column == 0 &&
    ((c0 == '-' && c1 == '-' && c2 == '-') || (c0 == '.' && c1 == '.' && c2 == '.')) &&
    isBlankOrEnd c3)

def enqueue (t : Token) (start stop : Mark) : Scanning Unit :=
  modify fun s => { s with queue := s.queue ++ [⟨t, start, stop⟩] }

def insertAt (number : Nat) (t : Token) (start stop : Mark) : Scanning Unit :=
  modify fun s => { s with queue := s.queue.insertIdx (number - s.handed) ⟨t, start, stop⟩ }

def topKey : Scanning SimpleKey := do pure ((← get).keys.headD {})

def setTopKey (k : SimpleKey) : Scanning Unit :=
  modify fun s => { s with keys := match s.keys with
    | _ :: rest => k :: rest
    | [] => [k] }

def keyFault {α : Type} (k : SimpleKey) : Scanning α :=
  fail (some "while scanning a simple key") k.mark "could not find expected ':'"

def removeKey : Scanning Unit := do
  let k ← topKey
  if k.possible && k.required then keyFault k
  setTopKey { k with possible := false }

def saveKey : Scanning Unit := do
  let s ← get
  let required := s.flowLevel == 0 && s.indent == (s.mark.column : Int)
  if s.keyAllowed then
    let k : SimpleKey := ⟨true, required, s.handed + s.queue.length, s.mark⟩
    removeKey
    setTopKey k

def dropStaleKeys : Scanning Unit := do
  let s ← get
  let stale (k : SimpleKey) : Bool :=
    k.possible && (k.mark.line < s.mark.line || k.mark.index + 1024 < s.mark.index)
  match s.keys.find? fun k => stale k && k.required with
  | some k => keyFault k
  | none =>
    set { s with keys := s.keys.map fun k => if stale k then { k with possible := false } else k }

def unrollIndent (column : Int) : Scanning Unit := do
  let s ← get
  if s.flowLevel != 0 then return
  let rec go : List Int → Scanning Unit
    | [] => pure ()
    | i :: rest => do
      let s ← get
      if s.indent > column then
        enqueue .blockEnd s.mark s.mark
        set { (← get) with indent := i, indents := rest }
        go rest
  go s.indents

def rollIndent (column : Int) (number : Option Nat) (t : Token) (m : Mark) : Scanning Unit := do
  let s ← get
  if s.flowLevel != 0 || column ≤ s.indent then return
  set { s with indents := s.indent :: s.indents, indent := column }
  match number with
  | none => enqueue t m m
  | some n => insertAt n t m m

end Scanner

end Depot.Yaml
