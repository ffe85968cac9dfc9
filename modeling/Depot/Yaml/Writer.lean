import Depot.Metadata.Value
import Depot.Yaml.Resolve
import Depot.Yaml.Token
import Depot.Binary64.Shortest

namespace Depot.Yaml

def realLayout : Decimal.Layout where
  positionalMax := 16
  positionalMin := -5
  pointZero := true
  exponentMark := "e"
  infinityText := ".inf"
  nanText := ".nan"

def isPrintable (ch : Char) : Bool :=
  let n := ch.toNat
  n == 0x0A || (0x20 ≤ n && n ≤ 0x7E) || (0xA0 ≤ n && n ≤ 0xD7FF) ||
    (0xE000 ≤ n && n ≤ 0xFFFD && n != 0xFEFF) || 0x10000 ≤ n

def blankzAt : Option Char → Bool
  | none => true
  | some ch => ch == ' ' || ch == '\t' || isBreak ch

structure Analysis where
  multiline : Bool
  flowPlain : Bool
  blockPlain : Bool
  singleQuoted : Bool
  block : Bool

structure Scan where
  blockIndicators : Bool := false
  flowIndicators : Bool := false
  lineBreaks : Bool := false
  special : Bool := false
  leadingSpace : Bool := false
  leadingBreak : Bool := false
  trailingSpace : Bool := false
  trailingBreak : Bool := false
  breakSpace : Bool := false
  spaceBreak : Bool := false
  previousSpace : Bool := false
  previousBreak : Bool := false

def firstIndicators : List Char :=
  ['#', ',', '[', ']', '\x7b', '\x7d', '&', '*', '!', '|', '>', '\'', '"', '%', '@', '\x60']

def innerIndicators : List Char := [',', '?', '[', ']', '\x7b', '\x7d']

def scanChars (first : Bool) (preceded : Bool) (st : Scan) : List Char → Scan
  | [] => st
  | ch :: r =>
    let followed := blankzAt r.head?
    let st :=
      if first then
        let st := if firstIndicators.contains ch then
            { st with flowIndicators := true, blockIndicators := true } else st
        let st := if ch == '?' || ch == ':' then
            { st with flowIndicators := true, blockIndicators := st.blockIndicators || followed } else st
        if ch == '-' && followed then { st with flowIndicators := true, blockIndicators := true } else st
      else
        let st := if innerIndicators.contains ch then { st with flowIndicators := true } else st
        let st := if ch == ':' then
            { st with flowIndicators := true, blockIndicators := st.blockIndicators || followed } else st
        if ch == '#' && preceded then { st with flowIndicators := true, blockIndicators := true } else st
    let st := if !isPrintable ch then { st with special := true } else st
    let st := if isBreak ch then { st with lineBreaks := true } else st
    let last := r.isEmpty
    let st :=
      if ch == ' ' then
        { st with leadingSpace := st.leadingSpace || first, trailingSpace := st.trailingSpace || last,
                  breakSpace := st.breakSpace || st.previousBreak, previousSpace := true,
                  previousBreak := false }
      else if isBreak ch then
        { st with leadingBreak := st.leadingBreak || first, trailingBreak := st.trailingBreak || last,
                  spaceBreak := st.spaceBreak || st.previousSpace, previousSpace := false,
                  previousBreak := true }
      else { st with previousSpace := false, previousBreak := false }
    scanChars false (ch == ' ' || ch == '\t' || isBreak ch) st r

def analyze (s : String) : Analysis :=
  let cs := s.toList
  if cs.isEmpty then ⟨false, false, true, true, false⟩
  else
    let marker := ['-', '-', '-'].isPrefixOf cs || ['.', '.', '.'].isPrefixOf cs
    let st : Scan := if marker then { blockIndicators := true, flowIndicators := true } else {}
    let st := scanChars true true st cs
    let edge := st.leadingSpace || st.leadingBreak || st.trailingSpace || st.trailingBreak
    let broken := st.spaceBreak || st.special
    { multiline := st.lineBreaks
      flowPlain := !(edge || st.breakSpace || broken || st.lineBreaks || st.flowIndicators)
      blockPlain := !(edge || st.breakSpace || broken || st.lineBreaks || st.blockIndicators)
      singleQuoted := !(st.breakSpace || broken)
      block := !(st.trailingSpace || broken) }

def requestedStyle (s : String) : Style :=
  if s.contains '\n' then .literal
  else match plainReading s with
    | .text _ => if zeroLed s then .singleQuoted else .plain
    | _ => .singleQuoted

def selectStyle (requested : Style) (a : Analysis) (simpleKey : Bool) (empty : Bool) : Style :=
  let style := if simpleKey && a.multiline then Style.doubleQuoted else requested
  let style :=
    if style == .plain && (!a.blockPlain || (empty && simpleKey)) then Style.singleQuoted else style
  let style := if style == .singleQuoted && !a.singleQuoted then Style.doubleQuoted else style
  if style == .literal && (!a.block || simpleKey) then .doubleQuoted else style

structure Out where
  text : String := ""
  column : Nat := 0
  whitespace : Bool := true
  indention : Bool := true
  openEnded : Bool := false

namespace Out

def put (o : Out) (ch : Char) : Out := { o with text := o.text.push ch, column := o.column + 1 }

def putBreak (o : Out) : Out := { o with text := o.text.push '\n', column := 0 }

def writeBreak (o : Out) (ch : Char) : Out :=
  if ch == '\n' then o.putBreak else { o with text := o.text.push ch, column := 0 }

def puts (o : Out) (s : String) : Out := s.foldl put o

def writeIndent (o : Out) (indent : Int) : Out :=
  let ind := indent.toNat
  let o := if !o.indention || o.column > ind || (o.column == ind && !o.whitespace) then o.putBreak else o
  let o := o.puts (String.ofList (List.replicate (ind - o.column) ' '))
  { o with whitespace := true, indention := true }

def indicator (o : Out) (s : String) (needSpace isSpace isIndention : Bool) : Out :=
  let o := if needSpace && !o.whitespace then o.put ' ' else o
  let o := o.puts s
  { o with whitespace := isSpace, indention := o.indention && isIndention }

end Out

def plainChars (indent : Int) (o : Out) (breaks : Bool) : List Char → Out
  | [] => { o with whitespace := false, indention := false }
  | ch :: r =>
    if ch == ' ' then plainChars indent (o.put ch) breaks r
    else if isBreak ch then
      let o := if !breaks && ch == '\n' then o.putBreak else o
      plainChars indent { o.writeBreak ch with indention := true } true r
    else
      let o := if breaks then o.writeIndent indent else o
      plainChars indent { o.put ch with indention := false } false r

def singleChars (indent : Int) (o : Out) (breaks : Bool) : List Char → Out
  | [] => if breaks then o.writeIndent indent else o
  | ch :: r =>
    if ch == ' ' then singleChars indent (o.put ch) breaks r
    else if isBreak ch then
      let o := if !breaks && ch == '\n' then o.putBreak else o
      singleChars indent { o.writeBreak ch with indention := true } true r
    else
      let o := if breaks then o.writeIndent indent else o
      let o := if ch == '\'' then o.put '\'' else o
      singleChars indent { o.put ch with indention := false } false r

def hexText (width n : Nat) : String :=
  let ds := Nat.toDigits 16 n |>.map Char.toUpper
  String.ofList (List.replicate (width - ds.length) '0' ++ ds)

def escapeText (ch : Char) : String :=
  match ch.toNat with
  | 0x00 => "\\0"
  | 0x07 => "\\a"
  | 0x08 => "\\b"
  | 0x09 => "\\t"
  | 0x0A => "\\n"
  | 0x0B => "\\v"
  | 0x0C => "\\f"
  | 0x0D => "\\r"
  | 0x1B => "\\e"
  | 0x22 => "\\\""
  | 0x5C => "\\\\"
  | 0x85 => "\\N"
  | 0xA0 => "\\_"
  | 0x2028 => "\\L"
  | 0x2029 => "\\P"
  | n => if n ≤ 0xFF then "\\x" ++ hexText 2 n
    else if n ≤ 0xFFFF then "\\u" ++ hexText 4 n
    else "\\U" ++ hexText 8 n

def doubleChars (o : Out) : List Char → Out
  | [] => o
  | ch :: r =>
    if !isPrintable ch || ch.toNat == 0xFEFF || isBreak ch || ch == '"' || ch == '\\' then
      doubleChars (o.puts (escapeText ch)) r
    else doubleChars (o.put ch) r

def chompIndicator (cs : List Char) : String :=
  match cs.reverse with
  | [] => "-"
  | ch :: rest =>
    if !isBreak ch then "-"
    else match rest with
      | [] => "+"
      | c2 :: _ => if isBreak c2 then "+" else ""

def literalChars (indent : Int) (o : Out) (breaks : Bool) : List Char → Out
  | [] => o
  | ch :: r =>
    if isBreak ch then literalChars indent { o.writeBreak ch with indention := true } true r
    else
      let o := if breaks then o.writeIndent indent else o
      literalChars indent { o.put ch with indention := false } false r

def writeScalar (o : Out) (s : String) (style : Style) (indent : Int) : Out :=
  let cs := s.toList
  match style with
  | .plain =>
    let o := if !o.whitespace && !cs.isEmpty then o.put ' ' else o
    plainChars indent o false cs
  | .singleQuoted =>
    let o := o.indicator "'" true false false
    let o := singleChars indent o false cs
    let o := o.indicator "'" false false false
    { o with whitespace := false, indention := false }
  | .doubleQuoted =>
    let o := o.indicator "\"" true false false
    let o := doubleChars o cs
    let o := o.indicator "\"" false false false
    { o with whitespace := false, indention := false }
  | .literal | .folded =>
    -- texts are never given the folded style
    let o := o.indicator "|" true false false
    let o := match cs.head? with
      | some ch => if ch == ' ' || isBreak ch then o.indicator "2" false false false else o
      | none => o
    let chomp := chompIndicator cs
    let o := if chomp.isEmpty then o else o.indicator chomp false false false
    let o := if chomp == "+" then { o with openEnded := true } else o
    let o := { o.putBreak with indention := true, whitespace := true }
    literalChars indent o true cs

def deeper (indent : Int) (flow indentless : Bool) : Int :=
  if indent < 0 then (if flow then 2 else 0) else if indentless then indent else indent + 2

def textNode (o : Out) (s : String) (indent : Int) (simpleKey : Bool) : Out :=
  let style := selectStyle (requestedStyle s) (analyze s) simpleKey s.isEmpty
  writeScalar o s style (deeper indent true false)

def plainNode (o : Out) (s : String) (indent : Int) : Out :=
  writeScalar o s .plain (deeper indent true false)

def simpleKey (k : String) : Bool := !(analyze k).multiline && k.utf8ByteSize ≤ 128

inductive WriteError where
  | data
  deriving DecidableEq, Repr

mutual
def node (o : Out) (v : Value) (indent : Int) (mapValue : Bool) : Except WriteError Out :=
  match v with
  | .string s => pure (textNode o s indent false)
  | .integer i => pure (plainNode o (toString i) indent)
  | .real x => pure (plainNode o (Decimal.layout realLayout x) indent)
  | .boolean b => pure (plainNode o (if b then "true" else "false") indent)
  | .date t => pure (textNode o t.text indent false)
  | .null => pure (plainNode o "null" indent)
  | .uid n => pure (plainNode o (toString n) indent)
  | .data _ => throw .data
  | .array [] =>
    let o := o.indicator "[" true true false
    pure (o.indicator "]" false false false)
  | .dict [] =>
    let o := o.indicator "\x7b" true true false
    pure (o.indicator "\x7d" false false false)
  | .array items => seqItems o items (deeper indent false (mapValue && !o.indention))
  | .dict entries => mapEntries o entries (deeper indent false false)

def seqItems (o : Out) (items : List Value) (indent : Int) : Except WriteError Out :=
  match items with
  | [] => pure o
  | v :: vs => do
    let o := (o.writeIndent indent).indicator "-" true false true
    let o ← node o v indent false
    seqItems o vs indent

def mapEntries (o : Out) (entries : List (String × Value)) (indent : Int) :
    Except WriteError Out :=
  match entries with
  | [] => pure o
  | (k, v) :: es => do
    let o := o.writeIndent indent
    let o ←
      if simpleKey k then
        let o := textNode o k indent true
        let o := o.indicator ":" false false false
        node o v indent true
      else
        let o := o.indicator "?" true false true
        let o := textNode o k indent false
        let o := (o.writeIndent indent).indicator ":" true false true
        node o v indent true
    mapEntries o es indent
end

def write (v : Value) : Except WriteError String := do
  let o := (← node {} v (-1) false).writeIndent 0
  pure (if o.openEnded then ((o.indicator "..." true false false).writeIndent 0).text else o.text)

end Depot.Yaml
