import Depot.Text.Idna.Mapping
import Depot.Text.Idna.Punycode
import Depot.Text.Normalize
import Depot.Text.Mark
import Depot.Text.Bidi
import Depot.Text.Joining

namespace Depot.Text.Idna

def zeroWidthNonJoiner : Char := '\u200C'

def zeroWidthJoiner : Char := '\u200D'

def isDenied (c : Char) : Bool :=
  c.toNat ≤ 0x20 || c.toNat == 0x7F || "%#/:<>?@[\\]^|".toList.contains c

def map (cs : List Char) : Option (List Char) :=
  (cs.mapM fun c =>
    match status c with
    | .valid | .deviation => some [c]
    | .mapped image => some image
    | .ignored => some []
    | .disallowed => none).map List.flatten

def isKept (c : Char) : Bool :=
  match status c with
  | .valid | .deviation => true
  | _ => false

def isVirama (c : Char) : Bool := combiningClass c == 9

def joinsAs (ok : JoiningType → Bool) (cs : List Char) : Bool :=
  match cs.dropWhile (joiningType · == .transparent) with
  | c :: _ => ok (joiningType c)
  | [] => false

def joinersFit (before : List Char) : List Char → Bool
  | [] => true
  | c :: after =>
    let afterVirama := match before with
      | p :: _ => isVirama p
      | [] => false
    let fits :=
      if c == zeroWidthJoiner then afterVirama
      else if c == zeroWidthNonJoiner then
        afterVirama ||
          (joinsAs (fun t => t == .left || t == .dual) before &&
            joinsAs (fun t => t == .right || t == .dual) after)
      else true
    fits && joinersFit (c :: before) after

def labelFits (label : List Char) : Bool :=
  !(label.take 4 == ['x', 'n', '-', '-']) &&
    (match label with
     | c :: _ => !isMark c
     | [] => true) &&
    joinersFit [] label

def decodeLimit : Nat := 2000

def encodeLimit : Nat := 1000

def decodeLabel (label : List Char) : Option (List Char) :=
  if label.take 4 == ['x', 'n', '-', '-'] then do
    if !label.all (·.toNat < 0x80) || label.length - 4 > decodeLimit then none
    let decoded ← Punycode.decode (label.drop 4)
    if decoded.all (·.toNat < 0x80) then none
    if !decoded.all isKept || nfc decoded != decoded then none
    pure decoded
  else some label

def lastClass (label : List Char) : Option BidiClass :=
  (label.reverse.map bidiClass).find? (· != .nonspacingMark)

def bidiFits (label : List Char) : Bool :=
  match label with
  | [] => true
  | c :: rest =>
    let classes := rest.map bidiClass
    match bidiClass c with
    | .leftToRight =>
      classes.all (fun k => [.leftToRight, .europeanNumber, .europeanSeparator,
          .commonSeparator, .europeanTerminator, .otherNeutral, .boundaryNeutral,
          .nonspacingMark].contains k) &&
        (match lastClass label with
         | some k => k == .leftToRight || k == .europeanNumber
         | none => true)
    | .rightToLeft | .arabicLetter =>
      classes.all (fun k => [.rightToLeft, .arabicLetter, .arabicNumber, .europeanNumber,
          .europeanSeparator, .commonSeparator, .europeanTerminator, .otherNeutral,
          .boundaryNeutral, .nonspacingMark].contains k) &&
        (match lastClass label with
         | some k => [.rightToLeft, .arabicLetter, .europeanNumber, .arabicNumber].contains k
         | none => false) &&
        !(classes.contains .europeanNumber && classes.contains .arabicNumber)
    | _ => false

def isRightToLeft (c : Char) : Bool :=
  match bidiClass c with
  | .rightToLeft | .arabicLetter | .arabicNumber => true
  | _ => false

def domain? (host : String) : Option String := do
  let mapped ← map host.toList
  let mapped := nfc mapped
  if mapped.any fun c => c.toNat < 0x80 && isDenied c then none
  let labels ← ((String.ofList mapped).splitOn ".").mapM fun l => decodeLabel l.toList
  if !labels.all labelFits then none
  if labels.any (·.any isRightToLeft) && !labels.all bidiFits then none
  if labels.any fun l => l.any (·.toNat ≥ 0x80) && l.length > encodeLimit then none
  pure (String.intercalate "." (labels.map String.ofList))

end Depot.Text.Idna
