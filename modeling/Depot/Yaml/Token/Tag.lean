import Depot.Yaml.Token.Scalar

namespace Depot.Yaml

namespace Scanner

def tagContext (directive : Bool) : String :=
  if directive then "while parsing a %TAG directive" else "while parsing a tag"

def isUriChar (full : Bool) (c : Char) : Bool :=
  isWordChar c || c == ';' || c == '/' || c == '?' || c == ':' || c == '@' || c == '&' ||
    c == '=' || c == '+' || c == '$' || c == '.' || c == '%' || c == '!' || c == '~' ||
    c == '*' || c == '\'' || c == '(' || c == ')' || (full && (c == ',' || c == '[' || c == ']'))

def utf8Width (b : Nat) : Nat :=
  if b < 0x80 then 1
  else if b / 0x20 == 6 then 2
  else if b / 0x10 == 14 then 3
  else if b / 8 == 30 then 4
  else 0

def uriEscapes (directive : Bool) (start : Mark) : Nat → Nat → List UInt8 → Scanning (List UInt8)
  | 0, _, bytes => pure bytes
  | fuel + 1, left, bytes => do
    need 3
    let c ← cur
    match c == '%', hexValue? (← peekAt 1), hexValue? (← peekAt 2) with
    | true, some hi, some lo =>
      let b := 16 * hi + lo
      let left ←
        if left == 0 then
          if utf8Width b == 0 then
            fail (some (tagContext directive)) start "found an incorrect leading UTF-8 octet"
          else pure (utf8Width b)
        else if b / 0x40 != 2 then
          fail (some (tagContext directive)) start "found an incorrect trailing UTF-8 octet"
        else pure left
      skipN 3
      if left == 1 then pure (bytes ++ [b.toUInt8])
      else uriEscapes directive start fuel (left - 1) (bytes ++ [b.toUInt8])
    | _, _, _ => fail (some (tagContext directive)) start "did not find URI escaped octet"

def tagUri (full directive : Bool) (head : String) (start : Mark) : Scanning (List UInt8) := do
  let rec go : Nat → List UInt8 → Nat → Scanning (List UInt8 × Nat)
    | 0, bytes, count => pure (bytes, count)
    | fuel + 1, bytes, count => do
      let c ← cur
      if !isUriChar full c then return (bytes, count)
      let bytes ← if c == '%' then uriEscapes directive start (← charsLeft) 0 bytes
        else do
          skip
          pure (bytes ++ (String.singleton c).toUTF8.toList)
      need 1
      go fuel bytes (count + 1)
  need 1
  let (bytes, count) ← go (← charsLeft) (head.drop 1).toString.toUTF8.toList head.length
  if count == 0 then fail (some (tagContext directive)) start "did not find expected tag URI"
  pure bytes

def tagHandle (directive : Bool) (start : Mark) : Scanning String := do
  need 1
  if (← cur) != '!' then
    fail (some (if directive then "while scanning a tag directive" else "while scanning a tag"))
      start "did not find expected '!'"
  let rec word : Nat → String → Scanning String
    | 0, h => pure h
    | fuel + 1, h => do
      if isWordChar (← cur) then
        let h ← read h
        need 1
        word fuel h
      else pure h
  let h ← read ""
  need 1
  let h ← word (← charsLeft) h
  if (← cur) == '!' then read h
  else if directive && h != "!" then
    fail (some "while parsing a tag directive") start "did not find expected '!'"
  else pure h

def tag : Scanning Unit := do
  let start := (← get).mark
  need 2
  let (handle, suffix) ←
    if (← peekAt 1) == '<' then do
      skipN 2
      let suffix ← tagUri true false "" start
      if (← cur) != '>' then
        fail (some "while scanning a tag") start "did not find the expected '>'"
      skip
      pure ("", suffix)
    else do
      let handle ← tagHandle false start
      if handle.length > 1 && handle.endsWith "!" then
        pure (handle, ← tagUri false false "" start)
      else
        let suffix ← tagUri false false handle start
        pure (if suffix.isEmpty then ("", [0x21]) else ("!", suffix))
  need 1
  let c ← cur
  if !isBlankOrEnd c && !((← inFlow) && c == ',') then
    fail (some "while scanning a tag") start "did not find expected whitespace or line break"
  enqueue (.tag handle suffix) start (← get).mark

end Scanner

end Depot.Yaml
