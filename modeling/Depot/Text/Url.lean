import Depot.Text.Idna

namespace Depot

inductive Url.Host where
  | domain (name : String)
  | ipv4 (address : Nat)
  | ipv6 (text : String)
  | verbatim (text : String)
  deriving DecidableEq, Repr, Inhabited

structure Url where
  scheme : String
  host : Option Url.Host
  segments : List String
  deriving Inhabited

namespace Url

inductive ParseError where
  | relativeWithoutBase
  | emptyHost
  | invalidPort
  | invalidDomainCharacter
  | invalidIpv4Address
  | invalidIpv6Address
  | invalidInternationalName
  deriving DecidableEq, Repr, Inhabited

def ParseError.message : ParseError → String
  | .relativeWithoutBase => "relative URL without a base"
  | .emptyHost => "empty host"
  | .invalidPort => "invalid port number"
  | .invalidDomainCharacter => "invalid domain character"
  | .invalidIpv4Address => "invalid IPv4 address"
  | .invalidIpv6Address => "invalid IPv6 address"
  | .invalidInternationalName => "invalid international domain name"

inductive SchemeKind where
  | file
  | special
  | other
  deriving DecidableEq, Repr

def SchemeKind.of (scheme : String) : SchemeKind :=
  if scheme == "file" then .file
  else if ["http", "https", "ws", "wss", "ftp"].contains scheme then .special
  else .other

def isSchemeChar (c : Char) : Bool := c.isAlphanum || c == '+' || c == '-' || c == '.'

def isSlash (c : Char) : Bool := c == '/' || c == '\\'

def endsAuthority (kind : SchemeKind) (c : Char) : Bool :=
  c == '/' || c == '?' || c == '#' || (kind != .other && c == '\\')

def clean (s : String) : List Char :=
  let cs := ((s.toList.dropWhile (·.toNat ≤ 0x20)).reverse.dropWhile (·.toNat ≤ 0x20)).reverse
  cs.filter fun c => c != '\t' && c != '\n' && c != '\r'

def hexValue (c : Char) : Option Nat :=
  if c.isDigit then some (c.toNat - 48)
  else if 'a' ≤ c && c ≤ 'f' then some (c.toNat - 87)
  else if 'A' ≤ c && c ≤ 'F' then some (c.toNat - 55)
  else none

def percentDecode : List Char → List UInt8
  | [] => []
  | '%' :: a :: b :: rest =>
    match hexValue a, hexValue b with
    | some x, some y => (16 * x + y).toUInt8 :: percentDecode rest
    | _, _ => '%'.toUInt8 :: percentDecode (a :: b :: rest)
  | c :: rest => (String.singleton c).toUTF8.toList ++ percentDecode rest

def isEmbeddedIpv4 (cs : List Char) : Bool :=
  let parts := (String.ofList cs).splitOn "."
  parts.length == 4 && parts.all fun p =>
    !p.isEmpty && p.toList.all Char.isDigit && (p.length == 1 || p.front != '0') &&
      p.toList.foldl (fun n c => 10 * n + (c.toNat - 48)) 0 ≤ 255

def ipv6Pieces : Nat → Nat → Bool → List Char → Option (Nat × Bool)
  | 0, _, _, _ => none
  | _ + 1, count, compressed, [] => some (count, compressed)
  | fuel + 1, count, compressed, c :: r =>
    if count == 8 then none
    else if c == ':' then
      if compressed then none else ipv6Pieces fuel (count + 1) true r
    else
      let hex := ((c :: r).take 4).takeWhile Char.isHexDigit
      match (c :: r).drop hex.length with
      | [] => some (count + 1, compressed)
      | '.' :: _ =>
        if hex.isEmpty || count > 6 || !isEmbeddedIpv4 (c :: r) then none
        else some (count + 2, compressed)
      | ':' :: r' => if r'.isEmpty then none else ipv6Pieces fuel (count + 1) compressed r'
      | _ => none

def isIpv6 (cs : List Char) : Bool :=
  if cs.length < 2 then false
  else
    let start : Option (Nat × Bool × List Char) :=
      match cs with
      | ':' :: ':' :: r => some (1, true, r)
      | ':' :: _ => none
      | _ => some (0, false, cs)
    match start with
    | none => false
    | some (count, compressed, r) =>
      match ipv6Pieces (r.length + 1) count compressed r with
      | some (n, c) => c || n == 8
      | none => false

def bracketHost (inner : List Char) : Except ParseError Host :=
  if inner.getLast? != some ']' then .error .invalidIpv6Address
  else if isIpv6 inner.dropLast then .ok (.ipv6 (String.ofList inner.dropLast))
  else .error .invalidIpv6Address

def digitsValue? (radix : Nat) (ds : List Char) : Option Nat :=
  if ds.all fun c => match hexValue c with
      | some d => d < radix
      | none => false
  then some (ds.foldl (fun n c => radix * n + (hexValue c).getD 0) 0)
  else none

def ipv4Number? (cs : List Char) : Option Nat :=
  match cs with
  | [] => none
  | '0' :: x :: r =>
    if x == 'x' || x == 'X' then digitsValue? 16 r else digitsValue? 8 (x :: r)
  | _ => digitsValue? 10 cs

def endsInNumber (d : String) : Bool :=
  let last? : Option String :=
    match (d.splitOn ".").reverse with
    | "" :: l :: _ => some l
    | "" :: [] => none
    | l :: _ => some l
    | [] => none
  match last? with
  | none => false
  | some l => (!l.isEmpty && l.toList.all Char.isDigit) || (ipv4Number? l.toList).isSome

def ipv4Address? (d : String) : Option Nat := do
  let parts := d.splitOn "."
  let parts := if parts.getLast? == some "" then parts.dropLast else parts
  if parts.length > 4 then none
  let numbers ← parts.mapM fun p => ipv4Number? p.toList
  if numbers.any (· ≥ Nat.pow 2 32) then none
  match numbers.reverse with
  | [] => none
  | last :: leading =>
    let leading := leading.reverse
    if last ≥ Nat.pow 256 (4 - leading.length) then none
    if leading.any (· > 255) then none
    pure (leading.foldl (fun n b => 256 * n + b) 0 * Nat.pow 256 (4 - leading.length) + last)

def domainOf? (cs : List Char) : Option String := do
  let s ← String.fromUTF8? (ByteArray.mk (percentDecode cs).toArray)
  Text.Idna.domain? s

def parseHost (cs : List Char) : Except ParseError Host :=
  match cs with
  | '[' :: inner => bracketHost inner
  | _ =>
    match domainOf? cs with
    | none => .error .invalidInternationalName
    | some d =>
      if d.isEmpty then .error .emptyHost
      else if endsInNumber d then
        match ipv4Address? d with
        | some a => .ok (.ipv4 a)
        | none => .error .invalidIpv4Address
      else .ok (.domain d)

def forbiddenVerbatimChars : List Char :=
  ['\x00', '\t', '\n', '\r', ' ', '#', '/', ':', '<', '>', '?', '@', '[', '\\', ']', '^', '|']

def parseVerbatimHost (cs : List Char) : Except ParseError (Option Host) :=
  match cs with
  | '[' :: inner => some <$> bracketHost inner
  | _ =>
    if cs.any forbiddenVerbatimChars.contains then .error .invalidDomainCharacter
    else .ok (if cs.isEmpty then none else some (.verbatim (String.ofList cs)))

def lastAt? : List Char → Option Nat
  | [] => none
  | c :: r =>
    match lastAt? r with
    | some i => some (i + 1)
    | none => if c == '@' then some 0 else none

def hostText (kind : SchemeKind) : Bool → List Char → List Char
  | _, [] => []
  | inside, c :: r =>
    if (c == ':' && !inside) || endsAuthority kind c then []
    else c :: hostText kind (if c == '[' then true else if c == ']' then false else inside) r

def portFits : Nat → List Char → Bool
  | _, [] => true
  | n, c :: r =>
    if c.isDigit then
      let m := 10 * n + (c.toNat - 48)
      m ≤ 65535 && portFits m r
    else isSlash c || c == '?' || c == '#'

def parseAuthority (kind : SchemeKind) (cs : List Char) : Except ParseError (Option Host) := do
  let (rest, hasUser) ← match lastAt? (cs.takeWhile (!endsAuthority kind ·)) with
    | none => pure (cs, false)
    | some 0 =>
      match cs.drop 1 with
      | c :: r => if endsAuthority kind c then throw .emptyHost else pure (c :: r, false)
      | [] => pure ([], false)
    | some i => pure (cs.drop (i + 1), cs.take i != [':'])
  let h := hostText kind false rest
  let after := rest.drop h.length
  let host ← if kind == .other then parseVerbatimHost h
    else if h.isEmpty then throw .emptyHost
    else some <$> parseHost h
  if host.isNone && after.head? == some ':' then throw .emptyHost
  match after with
  | ':' :: r => if !portFits 0 r then throw .invalidPort
  | _ => pure ()
  if host.isNone && hasUser then throw .emptyHost
  pure host

def isDriveLetter (cs : List Char) : Bool :=
  match cs with
  | [a, b] => a.isAlpha && (b == ':' || b == '|')
  | _ => false

def splitSlashes : List Char → List String
  | [] => [""]
  | c :: rest =>
    match splitSlashes rest with
    | [] => [String.singleton c]
    | first :: more => if isSlash c then "" :: first :: more else (String.singleton c ++ first) :: more

def isDot (s : String) : Bool := s == "." || s.toLower == "%2e"

def isDotDot (s : String) : Bool :=
  let l := s.toLower
  l == ".." || l == ".%2e" || l == "%2e." || l == "%2e%2e"

def addSegments : List String → Bool → List String → List String × Bool
  | acc, drive, [] => (acc, drive)
  | acc, drive, s :: rest =>
    let close := fun (acc : List String) => if rest.isEmpty then acc ++ [""] else acc
    if isDotDot s then
      let acc := match acc.getLast? with
        | some l => if isDriveLetter l.toList then acc else acc.dropLast
        | none => acc
      addSegments (close acc) drive rest
    else if isDot s then addSegments (close acc) drive rest
    else if acc.isEmpty && isDriveLetter s.toList then
      addSegments [String.ofList [s.front, ':']] true rest
    else addSegments (acc ++ [s]) drive rest

def fileSegments (cs : List Char) : List String × Bool :=
  let p := cs.takeWhile fun c => c != '?' && c != '#'
  let p := match p with
    | c :: r => if isSlash c then r else p
    | [] => []
  addSegments [] false (splitSlashes p)

def fileUrl (host : Option Host) (path : List Char) : Url :=
  let (segments, drive) := fileSegments path
  ⟨"file", if drive then none else host, segments⟩

def parseFile (cs : List Char) : Except ParseError Url :=
  match cs with
  | a :: b :: rest =>
    if isSlash a && isSlash b then
      let h := rest.takeWhile fun c => !(isSlash c || c == '?' || c == '#')
      if isDriveLetter h then .ok (fileUrl none rest)
      else if h.isEmpty then .ok (fileUrl none rest)
      else do
        let host ← parseHost h
        pure (fileUrl (if host == .domain "localhost" then none else some host) (rest.drop h.length))
    else .ok (fileUrl none cs)
  | _ => .ok (fileUrl none cs)

def parse (s : String) : Except ParseError Url := do
  let cs := clean s
  let schemeChars := cs.takeWhile isSchemeChar
  match cs.head?, cs.drop schemeChars.length with
  | some c, ':' :: after =>
    if !c.isAlpha then throw .relativeWithoutBase
    let scheme := String.ofList (schemeChars.map Char.toLower)
    match SchemeKind.of scheme with
    | .file => parseFile after
    | .special => do
      let host ← parseAuthority .special (after.dropWhile isSlash)
      pure ⟨scheme, host, []⟩
    | .other =>
      match after with
      | '/' :: '/' :: rest => do
        let host ← parseAuthority .other rest
        pure ⟨scheme, host, []⟩
      | _ => pure ⟨scheme, none, []⟩
  | _, _ => throw .relativeWithoutBase

def endsInDriveLetter (bytes : List UInt8) : Bool :=
  match bytes.reverse with
  | last :: letter :: _ :: _ =>
    (last == 58 || last == 124) &&
      ((65 ≤ letter && letter ≤ 90) || (97 ≤ letter && letter ≤ 122))
  | _ => false

def filePath (u : Url) : Option (List UInt8) :=
  if u.host.isSome then none
  else
    let bytes := u.segments.flatMap fun s => '/'.toUInt8 :: percentDecode s.toList
    some (if endsInDriveLetter bytes then bytes ++ ['/'.toUInt8] else bytes)

end Url

end Depot
