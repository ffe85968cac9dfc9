import Depot.Text.BreakClass

namespace Depot.Text

namespace BreakClass

def isLineBreak (k : BreakClass) : Bool :=
  k == .mandatory || k == .carriageReturn || k == .lineFeed || k == .nextLine

def isLetter (k : BreakClass) : Bool := k == .alphabetic || k == .hebrewLetter

def isHangul (k : BreakClass) : Bool :=
  k == .hangulLeading || k == .hangulVowel || k == .hangulTrailing || k == .hangulTwoJamo ||
    k == .hangulThreeJamo

def isNumberSign (k : BreakClass) : Bool := k == .beforeNumber || k == .afterNumber

def isIdeographLike (k : BreakClass) : Bool :=
  k == .ideographic || k == .emojiBase || k == .emojiModifier

def takesMarks (k : BreakClass) : Bool :=
  !(k.isLineBreak || k == .space || k == .zeroWidthSpace)

end BreakClass

structure Cluster where
  info : BreakInfo
  dotted : Bool := false
  size : Nat := 1
  joined : Bool := false
  deriving Inhabited

namespace Cluster

def cls (k : Cluster) : BreakClass := k.info.cls

def isAksara (k : Cluster) : Bool :=
  k.cls == .aksara || k.cls == .startingAksara || k.dotted

def followsVirama (k : Cluster) : Bool := k.cls == .aksara || k.dotted

def single (c : Char) : Cluster :=
  let i := breakInfo c
  let joins := i.cls == .combiningMark || i.cls == .zeroWidthJoiner
  { info := if joins then { i with cls := .alphabetic } else i, dotted := c == '\u25CC',
    joined := i.cls == .zeroWidthJoiner }

def push (acc : List Cluster) (c : Char) : List Cluster :=
  let k := (breakInfo c).cls
  let isJoiner := k == .zeroWidthJoiner
  match acc with
  | last :: rest =>
    if (k == .combiningMark || isJoiner) && last.cls.takesMarks then
      { last with size := last.size + 1, joined := isJoiner } :: rest
    else single c :: acc
  | [] => [single c]

end Cluster

def clusters (cs : List Char) : List Cluster := (cs.foldl Cluster.push []).reverse

def classIn (k : Option Cluster) (ks : List BreakClass) : Bool :=
  match k with
  | some k => ks.contains k.cls
  | none => false

def allowsBetween (a : Cluster) (earlier : List Cluster) (b : Cluster) (after : List Cluster) :
    Bool :=
  let A := a.cls
  let B := b.cls
  let before := a :: earlier
  let next := after.head?
  let previous := earlier.head?
  let pastSpaces := before.dropWhile (·.cls == .space)
  let lastNonSpace := pastSpaces.head?
  let afterSpaces (k : BreakClass) : Bool := classIn lastNonSpace [k]
  if A == .mandatory then true
  else if A == .carriageReturn && B == .lineFeed then false
  else if A.isLineBreak then true
  else if B.isLineBreak || B == .space || B == .zeroWidthSpace then false
  else if afterSpaces .zeroWidthSpace then true
  else if a.joined then false
  else if A == .wordJoiner || B == .wordJoiner || A == .glue then false
  else if B == .glue && !(A == .space || A == .breakAfter || A == .hyphen) then false
  else if B == .closePunctuation || B == .closeParenthesis || B == .exclamation ||
      B == .infixSeparator || B == .symbol then false
  else if afterSpaces .openPunctuation then false
  else if (lastNonSpace.map fun k => k.cls == .quotation && k.info.opening).getD false &&
      (pastSpaces.tail.head?.isNone || classIn pastSpaces.tail.head? [.mandatory,
        .carriageReturn, .lineFeed, .nextLine, .openPunctuation, .quotation, .glue, .space,
        .zeroWidthSpace]) then false
  else if B == .quotation && b.info.closing && (next.isNone || classIn next [.space, .glue,
      .wordJoiner, .closePunctuation, .quotation, .closeParenthesis, .exclamation,
      .infixSeparator, .symbol, .mandatory, .carriageReturn, .lineFeed, .nextLine,
      .zeroWidthSpace]) then false
  else if (afterSpaces .closePunctuation || afterSpaces .closeParenthesis) && B == .nonstarter then
    false
  else if afterSpaces .breakEitherSide && B == .breakEitherSide then false
  else if A == .space then true
  else if A == .quotation || B == .quotation then false
  else if A == .contingent || B == .contingent then true
  else if B == .breakAfter || B == .hyphen || B == .nonstarter || A == .breakBefore then false
  else if (A == .hyphen || A == .breakAfter) && classIn previous [.hebrewLetter] then false
  else if A == .symbol && B == .hebrewLetter then false
  else if B == .inseparable then false
  else if (A.isLetter && B == .numeric) || (A == .numeric && B.isLetter) then false
  else if A == .beforeNumber && B.isIdeographLike then false
  else if A.isIdeographLike && B == .afterNumber then false
  else if (A.isNumberSign && B.isLetter) || (A.isLetter && B.isNumberSign) then false
  else if (A == .closePunctuation || A == .closeParenthesis || A == .numeric) && B.isNumberSign then
    false
  else if A.isNumberSign && B == .openPunctuation then false
  else if (A.isNumberSign || A == .hyphen || A == .infixSeparator || A == .numeric ||
      A == .symbol) && B == .numeric then false
  else if A == .hangulLeading && (B == .hangulLeading || B == .hangulVowel ||
      B == .hangulTwoJamo || B == .hangulThreeJamo) then false
  else if (A == .hangulVowel || A == .hangulTwoJamo) &&
      (B == .hangulVowel || B == .hangulTrailing) then false
  else if (A == .hangulTrailing || A == .hangulThreeJamo) && B == .hangulTrailing then false
  else if (A.isHangul && B == .afterNumber) || (A == .beforeNumber && B.isHangul) then false
  else if A.isLetter && B.isLetter then false
  else if A == .prebaseAksara && b.isAksara then false
  else if a.isAksara && (B == .virama || B == .finalVirama) then false
  else if A == .virama && (previous.map Cluster.isAksara).getD false && b.followsVirama then false
  else if a.isAksara && b.isAksara && classIn next [.finalVirama] then false
  else if A == .infixSeparator && B.isLetter then false
  else if (A.isLetter || A == .numeric) && B == .openPunctuation && !b.info.eastAsian then false
  else if A == .closeParenthesis && !a.info.eastAsian && (B.isLetter || B == .numeric) then
    false
  else if A == .regionalIndicator && B == .regionalIndicator then
    (before.takeWhile (·.cls == .regionalIndicator)).length % 2 == 0
  else if B == .emojiModifier && (A == .emojiBase || a.info.pictograph) then false
  else true

def breaksFrom (before : List Cluster) : List Cluster → Nat → Array Nat → Array Nat
  | [], read, found => if read == 0 then found else found.push read
  | b :: after, read, found =>
    let found := match before with
      | a :: earlier => if allowsBetween a earlier b after then found.push read else found
      | [] => found
    breaksFrom (b :: before) after (read + b.size) found

def lineBreaks (cs : List Char) : List Nat := (breaksFrom [] (clusters cs) 0 #[]).toList

end Depot.Text
