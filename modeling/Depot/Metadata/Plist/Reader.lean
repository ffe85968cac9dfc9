import Depot.Metadata.Plist.Fault
import Depot.Binary64.Read
import Depot.Text.Base64
import Depot.Text.Space

namespace Depot.Plist

def isXmlSpace (c : Char) : Bool := c == ' ' || c == '\t' || c == '\n' || c == '\r'

def after (stop : List Char) : List Char → Option (List Char)
  | [] => none
  | c :: r => if stop.isPrefixOf (c :: r) then some ((c :: r).drop stop.length) else after stop r

def byteSize (cs : List Char) : Nat := cs.foldl (fun n c => n + c.utf8Size) 0

def before (stop : List Char) : List Char → Option (List Char × List Char)
  | [] => none
  | c :: r =>
    if stop.isPrefixOf (c :: r) then some ([], (c :: r).drop stop.length)
    else (before stop r).map fun (a, b) => (c :: a, b)

def hexValue? (cs : List Char) : Option Nat :=
  if cs.isEmpty then none
  else cs.foldlM (fun n c =>
    if c.isDigit then some (16 * n + (c.toNat - 48))
    else if 'a' ≤ c && c ≤ 'f' then some (16 * n + (c.toNat - 87))
    else if 'A' ≤ c && c ≤ 'F' then some (16 * n + (c.toNat - 55))
    else none) 0

def decimalValue? (cs : List Char) : Option Nat :=
  if !cs.isEmpty && cs.all Char.isDigit then
    some (cs.foldl (fun n c => 10 * n + (c.toNat - 48)) 0)
  else none

def dropHexMarks : Nat → List Char → List Char
  | 0, cs => cs
  | fuel + 1, '0' :: 'x' :: r => dropHexMarks fuel r
  | _, cs => cs

def readInteger (cs : List Char) : Option Int :=
  match cs with
  | '0' :: 'x' :: _ =>
    let hs := dropHexMarks cs.length cs
    let hs := match hs with
      | '+' :: r => r
      | r => r
    (hexValue? hs).bind fun n => if n < Nat.pow 2 64 then some (n : Int) else none
  | '-' :: r => (decimalValue? r).bind fun n => if n ≤ Nat.pow 2 63 then some (-(n : Int)) else none
  | '+' :: r => (decimalValue? r).bind fun n => if n < Nat.pow 2 64 then some (n : Int) else none
  | r => (decimalValue? r).bind fun n => if n < Nat.pow 2 64 then some (n : Int) else none

inductive Token where
  | text (cs : List Char)
  | ref (name : List Char)
  | start (name : String)
  | finish (name : String)
  | aside
  deriving Inhabited

structure Piece where
  token : Token
  stop : Nat
  deriving Inhabited

def tagBody (quote : Option Char) : List Char → Option (List Char × List Char)
  | [] => none
  | c :: r =>
    match quote with
    | some q => (tagBody (if c == q then none else quote) r).map fun (b, t) => (c :: b, t)
    | none =>
      if c == '>' then some ([], r)
      else (tagBody (if c == '"' || c == '\'' then some c else none) r).map fun (b, t) => (c :: b, t)

inductive DoctypePart where
  | before
  | subset
  | afterSubset

def quotesInDeclaration (cs : List Char) : Bool :=
  ["!ENTITY", "!ATTLIST", "!NOTATION"].any fun w => w.toList.isPrefixOf cs

def afterDoctype : Nat → DoctypePart → List Char → Option (List Char)
  | 0, _, _ => none
  | _ + 1, _, [] => none
  | fuel + 1, part, c :: r =>
    match part with
    | .before =>
      if c == '"' || c == '\'' then (after [c] r).bind (afterDoctype fuel .before)
      else if c == '[' then afterDoctype fuel .subset r
      else if c == '>' then some r
      else afterDoctype fuel .before r
    | .subset =>
      if c == ']' then afterDoctype fuel .afterSubset r
      else if c == '<' then
        match r with
        | '!' :: '-' :: '-' :: r' => (after "-->".toList r').bind (afterDoctype fuel .subset)
        | '?' :: r' => (after "?>".toList r').bind (afterDoctype fuel .subset)
        | _ =>
          let markupEnd := if quotesInDeclaration r then tagBody none r else before ['>'] r
          markupEnd.bind fun (_, rest) => afterDoctype fuel .subset rest
      else afterDoctype fuel .subset r
    | .afterSubset => if c == '>' then some r else afterDoctype fuel .afterSubset r

def startsFolded (word : String) (cs : List Char) : Bool :=
  (cs.take word.length).map Char.toUpper == word.toList.map Char.toUpper

def closedBy (close : Char) (least : Nat) (seen : List Char) (n : Nat) :
    List Char → Option (List Char × List Char)
  | [] => none
  | c :: r =>
    let closes := match seen with
      | a :: b :: _ => a == close && b == close
      | _ => false
    if c == '>' && n ≥ least && closes then some (seen.reverse, r)
    else closedBy close least (c :: seen) (n + 1) r

def tokens (total : Nat) :
    Nat → Nat → List String → List Nat → List Char → List Piece × Option Failure
  | 0, _, _, _, _ => ([], some (.atOffset .unexpectedEof total))
  | _ + 1, _, _, _, [] => ([], none)
  | fuel + 1, pos, opened, bad, c :: r =>
    let fault (f : Fault) (place : Nat) : List Piece × Option Failure :=
      ([], some (.atOffset f place))
    let unclosed := fault .unexpectedEof total
    let emitAll (ts : List Token) (size : Nat) (opened : List String) (rest : List Char) :
        List Piece × Option Failure :=
      let stop := pos + size
      if bad.head?.any (· < stop) then fault .invalidXmlUtf8 stop
      else
        let (ps, last) := tokens total fuel stop opened bad rest
        (ts.map (⟨·, stop⟩) ++ ps, last)
    let emit (t : Token) := emitAll [t]
    if c == '&' then
      let name := r.takeWhile fun d => d != ';' && d != '<' && d != '&'
      match r.drop name.length with
      | ';' :: rest => emit (.ref name) (2 + byteSize name) opened rest
      | [] => fault .invalidXmlSyntax total
      | _ => fault .invalidXmlSyntax (pos + 1 + byteSize name)
    else if c != '<' then
      let t := (c :: r).takeWhile fun d => d != '<' && d != '&'
      emit (.text t) (byteSize t) opened ((c :: r).drop t.length)
    else
      match r with
      | [] => fault .unexpectedEof pos
      | '!' :: r' =>
        let ended (body rest : List Char) (kept : Bool) : List Piece × Option Failure :=
          let size := 3 + byteSize body
          if kept then emit .aside size opened rest else fault .unexpectedEof (pos + size)
        match r' with
        | [] => fault .unexpectedEof pos
        | '-' :: _ =>
          match closedBy '-' 4 [] 0 r' with
          | some (body, rest) => ended body rest ("--".toList.isPrefixOf body)
          | none => unclosed
        | '[' :: _ =>
          match closedBy ']' 2 [] 0 r' with
          | some (body, rest) => ended body rest ("[CDATA[".toList.isPrefixOf body)
          | none => unclosed
        | d :: _ =>
          if d == 'D' || d == 'd' then
            match afterDoctype (r'.length + 1) .before r' with
            | some rest =>
              let body := r'.take (r'.length - rest.length - 1)
              let size := 3 + byteSize body
              if !startsFolded "DOCTYPE" body then fault .unexpectedEof (pos + size)
              else if (body.drop 7).all isXmlSpace then fault .invalidXmlSyntax (pos + size)
              else emit .aside size opened rest
            | none => unclosed
          else fault .unexpectedEof pos
      | '?' :: _ =>
        match before "?>".toList r with
        | some ([], _) => fault .unexpectedEof (pos + 3)
        | some (body, rest) => emit .aside (3 + byteSize body) opened rest
        | none => unclosed
      | '/' :: r' =>
        match tagBody none r' with
        | some (body, rest) =>
          let size := 3 + byteSize body
          let name := String.ofList (body.reverse.dropWhile isXmlSpace).reverse
          match opened with
          | top :: outer =>
            if top == name then emit (.finish name) size outer rest
            else fault .invalidXmlSyntax (pos + size)
          | [] => fault .invalidXmlSyntax (pos + size)
        | none => unclosed
      | _ =>
        match tagBody none r with
        | some (body, rest) =>
          let size := 2 + byteSize body
          let empty := body.getLast? == some '/'
          let body := if empty then body.dropLast else body
          let name := String.ofList (body.takeWhile (!isXmlSpace ·))
          if empty then emitAll [.start name, .finish name] size opened rest
          else emit (.start name) size (name :: opened) rest
        | none => unclosed

def localName (name : String) : String :=
  let cs := name.toList
  if cs.contains ':' then String.ofList ((cs.dropWhile (· != ':')).drop 1) else name

def charRef (body : List Char) : Option Char :=
  let value : Option Nat :=
    match body with
    | 'x' :: hs => hexValue? hs
    | ds => decimalValue? ds
  match value with
  | some n => if n.isValidChar && n != 0 then some (Char.ofNat n) else none
  | none => none

def resolve (name : List Char) : Option (List Char) :=
  match name with
  | '#' :: body => (charRef body).map ([·])
  | _ =>
    match String.ofList name with
    | "lt" => some ['<']
    | "gt" => some ['>']
    | "amp" => some ['&']
    | "quot" => some ['"']
    | "apos" => some ['\'']
    | _ => some []

structure Source where
  total : Nat
  stop : Option Failure

def Source.exhausted (src : Source) (atEnd : Failure) : Failure := src.stop.getD atEnd

def content (src : Source) : List Piece → Except Failure (List Char × Nat × List Piece)
  | [] => .error (src.exhausted (.atOffset .unclosedXmlElement src.total))
  | p :: ps =>
    match p.token with
    | .text cs => (content src ps).map fun (more, stop, rest) => (cs ++ more, stop, rest)
    | .ref name =>
      match resolve name with
      | some cs => (content src ps).map fun (more, stop, rest) => (cs ++ more, stop, rest)
      | none => .error (.atOffset .invalidXmlSyntax p.stop)
    | .finish _ => .ok ([], p.stop, ps)
    | .start _ => .error (.atOffset .unexpectedXmlOpeningTag p.stop)
    | .aside => content src ps

def isDataSpace (c : Char) : Bool := isXmlSpace c || c == '\x0c'

def leafValue (name : String) (text : List Char) : Except Fault Event :=
  let orFault (f : Fault) : Option Event → Except Fault Event
    | some e => .ok e
    | none => .error f
  match name with
  | "integer" => orFault .invalidIntegerString ((readInteger text).map .integer)
  | "real" => orFault .invalidRealString ((Binary64.read? (String.ofList text)).map .real)
  | "date" =>
    orFault .invalidDateString ((Date.read? (String.ofList text)).bind fun t =>
      if t.isWritable then some (.date t) else none)
  | "data" =>
    orFault .invalidDataString
      ((Base64.decode? (String.ofList (text.filter (!isDataSpace ·)))).map .data)
  | _ => .ok (.string (String.ofList text))

def nextEvent (src : Source) : List Piece → Except Failure (Option Event × List Piece)
  | [] =>
    match src.stop with
    | some f => .error f
    | none => .ok (none, [])
  | p :: ps =>
    match p.token with
    | .start name =>
      match localName name with
      | "plist" => nextEvent src ps
      | "array" => .ok (some .startArray, ps)
      | "dict" => .ok (some .startDictionary, ps)
      | "true" => .ok (some (.boolean true), ps)
      | "false" => .ok (some (.boolean false), ps)
      | "string" | "key" | "integer" | "real" | "date" | "data" => do
        let (text, stop, rest) ← content src ps
        match leafValue (localName name) text with
        | .ok e => .ok (some e, rest)
        | .error f => .error (.atOffset f stop)
      | _ => .error (.atOffset .unknownXmlElement p.stop)
    | .finish name =>
      match localName name with
      | "array" | "dict" => .ok (some .endCollection, ps)
      | _ => nextEvent src ps
    | .text cs =>
      if cs.all Text.isWhite then nextEvent src ps
      else .error (.atOffset .unexpectedXmlCharactersExpectedElement p.stop)
    | .ref ('#' :: body) =>
      match charRef body with
      | some c =>
        if Text.isWhite c then nextEvent src ps
        else .error (.atOffset .unexpectedXmlCharactersExpectedElement p.stop)
      | none => .error (.atOffset .invalidXmlSyntax p.stop)
    | .ref _ => .error (.atOffset .unexpectedXmlCharactersExpectedElement p.stop)
    | .aside => nextEvent src ps

def events (src : Source) : Nat → List Piece → Stream
  | 0, _ => { events := [], stop := some (.atOffset .unexpectedEof src.total) }
  | fuel + 1, ps =>
    match nextEvent src ps with
    | .error f => { events := [], stop := some f }
    | .ok (none, _) => { events := [] }
    | .ok (some e, rest) =>
      let s := events src fuel rest
      { s with events := e :: s.events }

def charAt? (b : ByteArray) (i : Nat) : Option (Char × Nat) :=
  let byte (k : Nat) : Nat := if h : i + k < b.size then b[i + k].toNat else 256
  let follows (k : Nat) : Bool := 0x80 ≤ byte k && byte k ≤ 0xBF
  let low (k : Nat) : Nat := byte k % 64
  let lead : Nat := byte 0
  if lead < 0x80 then some (Char.ofNat lead, 1)
  else if lead < 0xC2 then none
  else if lead < 0xE0 then
    if follows 1 then some (Char.ofNat (lead % 32 * 64 + low 1), 2) else none
  else if lead < 0xF0 then
    let v := (lead % 16 * 64 + low 1) * 64 + low 2
    if !(follows 1 && follows 2) || v < 0x800 || (0xD800 ≤ v && v < 0xE000) then none
    else some (Char.ofNat v, 3)
  else if lead < 0xF5 then
    let v := ((lead % 8 * 64 + low 1) * 64 + low 2) * 64 + low 3
    if !(follows 1 && follows 2 && follows 3) || v < 0x10000 || v > 0x10FFFF then none
    else some (Char.ofNat v, 4)
  else none

def decodeMarked (b : ByteArray) : Nat → Nat → List Char → List Nat → List Char × List Nat
  | 0, _, cs, bad => (cs.reverse, bad.reverse)
  | fuel + 1, i, cs, bad =>
    if i < b.size then
      match charAt? b i with
      | some (c, n) => decodeMarked b fuel (i + n) (c :: cs) bad
      | none => decodeMarked b fuel (i + 1) ('\x00' :: cs) (i :: bad)
    else (cs.reverse, bad.reverse)

def readEvents (bytes : ByteArray) : Stream :=
  let (cs, bad) := decodeMarked bytes bytes.size 0 [] []
  let (cs, start) := match cs with
    | '\uFEFF' :: r => (r, 3)
    | r => (r, 0)
  let (ps, stop) := tokens bytes.size (cs.length + 1) start [] bad cs
  events ⟨bytes.size, stop⟩ (ps.length + 1) ps

def declaresXml (bytes : ByteArray) : Bool :=
  (bytes.extract 0 5).toList == "<?xml".toUTF8.toList

end Depot.Plist
