import Depot.Text.Packed

namespace Depot.Text

inductive BreakClass where
  | mandatory
  | carriageReturn
  | lineFeed
  | combiningMark
  | nextLine
  | wordJoiner
  | zeroWidthSpace
  | glue
  | space
  | zeroWidthJoiner
  | breakEitherSide
  | breakAfter
  | breakBefore
  | hyphen
  | contingent
  | closePunctuation
  | closeParenthesis
  | exclamation
  | inseparable
  | nonstarter
  | openPunctuation
  | quotation
  | infixSeparator
  | numeric
  | afterNumber
  | beforeNumber
  | symbol
  | alphabetic
  | emojiBase
  | emojiModifier
  | hangulTwoJamo
  | hangulThreeJamo
  | hebrewLetter
  | ideographic
  | hangulLeading
  | hangulVowel
  | hangulTrailing
  | regionalIndicator
  | aksara
  | prebaseAksara
  | startingAksara
  | finalVirama
  | virama
  deriving DecidableEq, Repr, Inhabited

def BreakClass.all : List BreakClass :=
  [.mandatory, .carriageReturn, .lineFeed, .combiningMark, .nextLine, .wordJoiner,
    .zeroWidthSpace, .glue, .space, .zeroWidthJoiner, .breakEitherSide, .breakAfter,
    .breakBefore, .hyphen, .contingent, .closePunctuation, .closeParenthesis, .exclamation,
    .inseparable, .nonstarter, .openPunctuation, .quotation, .infixSeparator, .numeric,
    .afterNumber, .beforeNumber, .symbol, .alphabetic, .emojiBase, .emojiModifier,
    .hangulTwoJamo, .hangulThreeJamo, .hebrewLetter, .ideographic, .hangulLeading,
    .hangulVowel, .hangulTrailing, .regionalIndicator, .aksara, .prebaseAksara,
    .startingAksara, .finalVirama, .virama]

structure BreakInfo where
  cls : BreakClass
  eastAsian : Bool := false
  opening : Bool := false
  closing : Bool := false
  pictograph : Bool := false
  deriving Inhabited, Repr

def breakClassTable : String := "
0C3;9Cb;1C2;1C0;2C1;1C3;12C8;1C11;1C15;1C1b;1C19;1C18;1C1b;1C15;1C14;1C10;1C1b;1C19;1C16;
1Cd;1C16;1C1a;1C17;aC16;2C1b;3C11;1C1b;1bC14;1C19;1C10;1C1b;1dC14;1Cb;1Cf;1C1b;1C3;6C4;1C3;
1aC7;1C14;1C18;1C19;3C1b;5C15,1;1C1b;1Cb;1C1b;2C18;1C19;1C1b;2Cc;1C1b;6C15,2;1C1b;3C14;1C1b;
208Cc;1C1b;3Cc;1C1b;12Cc;1C1b;20C3;4fC7;1C3;cC7;7C3;dC1b;eC16;1C1b;104C3;7C1b;ffC16;1Cb;
1C1b;4C19;1C1b;1C3;2dCb;1C3;1C1b;1C3;2C1b;1C3;2C11;1C3;1C1b;8C20;1bC1b;4C20;4C1b;16C18;3C16;
2C1b;2C3;bC11;1C3;1C11;3C1b;2bC3;15C17;aC18;1C17;2C1b;3C3;1C1b;63C11;1C1b;1C3;7C1b;2C3;6C1b;
2C3;2C1b;1C3;4C1b;2C17;aC1b;17C3;1C1b;1eC3;1bC1b;5bC3;bC1b;fC17;aC1b;21C3;9C1b;4C16;1C11;
1C1b;3C3;1C19;2C1b;16C3;4C1b;1C3;9C1b;1C3;3C1b;1C3;5C1b;2bC3;3C1b;3cC3;8C1b;2aC3;18C1b;1C3;
21C1b;36C3;3C1b;1C3;12C1b;1C3;7C1b;aC3;2Cb;2C17;aC1b;11C3;3C1b;38C3;1C1b;1C3;7C1b;2C3;2C1b;
2C3;3C1b;9C3;1C1b;aC3;2C1b;2C17;aC1b;2C18;2C1b;5C18;1C1b;1C19;1C1b;2C3;1C1b;2C3;3C1b;38C3;
1C1b;1C3;5C1b;4C3;2C1b;2C3;3C1b;3C3;1C1b;14C17;aC3;2C1b;3C3;1C1b;bC3;3C1b;38C3;1C1b;1C3;
8C1b;1C3;3C1b;1C3;3C1b;14C3;2C1b;2C17;aC1b;1C19;1C1b;8C3;6C1b;1C3;3C1b;38C3;1C1b;1C3;7C1b;
2C3;2C1b;2C3;3C1b;7C3;3C1b;aC3;2C1b;2C17;aC1b;12C3;1C1b;3bC3;5C1b;3C3;3C1b;1C3;4C1b;9C3;
1C1b;eC17;aC1b;9C19;1C1b;6C3;5C1b;37C3;1C1b;1C3;7C1b;1C3;3C1b;1C3;4C1b;7C3;2C1b;bC3;2C1b;
2C17;aC1b;7Cc;1C1b;9C3;3Cc;1C1b;37C3;1C1b;1C3;7C1b;1C3;3C1b;1C3;4C1b;7C3;2C1b;bC3;2C1b;2C17;
aC1b;3C3;1C1b;cC3;4C1b;37C3;2C1b;1C3;7C1b;1C3;3C1b;1C3;4C1b;9C3;1C1b;aC3;2C1b;2C17;aC1b;
9C18;1C1b;7C3;3C1b;46C3;1C1b;4C3;6C1b;1C3;1C1b;1C3;8C1b;6C17;aC1b;2C3;2C1b;4bC19;1C1b;10C17;
aCb;2C1b;74C17;aC1b;27Cc;4C1b;1Cc;2C7;1Cc;2Cb;1C7;1C11;5C7;1C1b;1C11;1C1b;3C3;2C1b;6C17;
aC1b;aCb;1C3;1C1b;1C3;1C1b;1C3;1C14;1Cf;1C14;1Cf;1C3;2C1b;31C3;eCb;1C3;5Cb;1C3;2C1b;5C3;
bC1b;1C3;24C1b;1Cb;2C1b;6C3;1C1b;9Cc;2Cb;1Cc;1C1b;5C7;2C1b;65C17;aCb;2C1b;44C17;aC1b;66E22;
60C23;48C24;58C1b;15dC3;3C1b;1Cb;1C1b;9eCb;1C1b;27fCb;1C1b;1aC14;1Cf;1C1b;4eCb;3C1b;24C3;
4C1b;1cC3;3Cb;2C1b;1bC3;2C1b;1eC3;2C1b;60Cb;2C13;1C1b;1Cb;1C1b;1Cb;1C19;1C1b;4C17;aC1b;
18C11;2Cb;2Cc;1C1b;1C11;2C1b;1C3;3C7;1C3;1C17;aC1b;6bC3;2C1b;22C3;1C1b;76C3;cC1b;4C3;cC1b;
8C11;2C17;aC1b;80C17;aC1b;3dC3;5C1b;63C3;1C17;aC1b;6C17;aC1b;16C3;1fC1b;31C3;5C26;2fC3;
10C2a;1C26;8C1b;3C28;aCb;2C21;1Cb;4C21;aC3;9C21;9Cb;2C1b;1C3;3C1b;1eC3;dC1b;2C17;aC1b;6C28;
26C3;cC29;2C1b;30C3;14C1b;3Cb;5C17;aC1b;6C17;aC1b;24Cb;2C1b;50C3;3C1b;1C3;15C1b;4C3;1C1b;
6C3;1C1b;2C3;3C1b;c6C3;dC7;1C3;2eC7;1C3;3C1b;1fdCc;1C1b;2Cb;7C7;1Cb;3C6;1C3;1C9;1C3;2Cb;1C7;
1Cb;2Ca;1C1b;3C15,1;1C15,2;1C14;1C15,1;2C15,2;1C14;1C15,1;1C1b;4C12;3Cb;1C0;2C3;5C7;1C18;
8C1b;1C15,1;1C15,2;1C1b;1C13;2C1b;6C16;1C14;1Cf;1C13;3C1b;cCb;1C18;1Cb;4C1b;1Cb;3C5;1C1b;
5C3;aC1b;dC14;1Cf;1C1b;eC14;1Cf;1C1b;11C19;7C18;1C19;1E19;1C19;cC18;1C19;4C18;1C19;2C18;
1C19;1C18;1C19;fC3;21C1b;12C18;1C1b;5C18;1C1b;cC19;1C1b;fbC19;2C1b;dbC12;1C1b;18C14;1Cf;
1C14;1Cf;1C1b;eE21;2C1b;dE14;1Ef;1C1b;beE1b;4C1b;3E21;1C21;2E21;1C1b;209E1b;2C1b;1C21;4C1b;
10E21;2C1b;2C21;1C1b;1C21;3C1c;1C21;2C1b;19C21;3C1b;cE1b;cC1b;14C21;1C1b;16E21;1C1b;13E1b;
1C1b;dE1b;1C1b;8E1b;2C1b;11E21;2C21;5E21;2C21;3C1b;4C21;1E1b;1C21;3C1b;1C21;1E21;1C1b;3C21;
2C1b;2C21;1C1b;2C21;3C1b;8E21;1C1b;6C21;1E21;2C21;1E21;1C1b;1C21;2C1c;1E21;1C1b;2E21;1C21;
7E1b;1C1b;2C21;2E1c;2C1c;2C1b;1aE1b;1C1b;23E1b;1C1b;1E1b;1C1b;4E1b;3C1b;1E1b;1C1b;3C15;6C1b;
1C11;2C21;1C1b;3C14;1Cf;1C14;1Cf;1C14;1Cf;1C14;1Cf;1C14;1Cf;1C14;1Cf;1C14;1Cf;1C1b;1fE1b;
3C1b;18E1b;1C1b;eE1b;1C1b;5C14;1Cf;1C1b;1fC14;1Cf;1C14;1Cf;1C14;1Cf;1C14;1Cf;1C14;1Cf;1C1b;
10Cb;1C1b;182C14;1Cf;1C14;1Cf;1C14;1Cf;1C14;1Cf;1C14;1Cf;1C14;1Cf;1C14;1Cf;1C14;1Cf;1C14;
1Cf;1C14;1Cf;1C14;1Cf;1C1b;3fC14;1Cf;1C14;1Cf;1C1b;20C14;1Cf;1C1b;11dE1b;2C1b;33E1b;1C1b;
4E1b;1C1b;199C3;3C1b;7C11;1Cb;3C1b;1C11;1Cb;1C1b;70Cb;1C1b;eC3;1C1b;60C3;20C15;2C15,1;
1C15,2;1C15,1;1C15,2;1C15;3C15,1;1C15,2;1C15;1C15,1;1C15,2;1Cb;8C1b;1Cb;1C14;1Cb;1C1b;
2C15,1;1C15,2;1C1b;2C15,1;1C15,2;1C14;1Cf;1C14;1Cf;1C14;1Cf;1C14;1Cf;1Cb;4C11;1C1b;1Cb;2C1b;
1Cb;2C1b;5Ca;2Cb;3C1b;1Cb;2C14;1Cb;8C1b;1Cb;1C1b;1Cb;2C1b;3C11;2C14;1Cf;1C14;1Cf;1C14;1Cf;
1C14;1Cf;1Cb;1C1b;22E21;1aC1b;1E21;59C1b;cE21;d6C1b;1aE21;10Eb;1Ef;2E21;2E13;1E21;2E14;1Ef;
1E14;1Ef;1E14;1Ef;1E14;1Ef;1E14;1Ef;1E21;2E14;1Ef;1E14;1Ef;1E14;1Ef;1E14;1Ef;1E13;1E14;1Ef;
2E21;aE3;6E21;5E3;1E21;5E13;2E21;2C21;1C1b;1E13;1E21;1E13;1E21;1E13;1E21;1E13;1E21;1E13;
1E21;19E13;1E21;1fE13;1E21;1E13;1E21;1E13;1E21;6E13;1E21;6E13;2C1b;2E3;2E13;4E21;1E13;2E21;
1E13;1E21;1E13;1E21;1E13;1E21;1E13;1E21;19E13;1E21;1fE13;1E21;1E13;1E21;1E13;1E21;6E13;1E21;
6E13;2E21;4E13;4E21;1C1b;5E21;2bC1b;1E21;5eC1b;1E21;54C1b;bE21;1E13;10E21;1fC1b;1E21;28C1b;
8E21;1b70C1b;40E21;5215E13;1E21;477C1b;3E21;37C1b;37Cb;2C1b;10dCb;1C11;1Cb;1C1b;10C17;aC1b;
45C3;4C1b;1C3;aC1b;20C3;2C1b;50C3;2C1b;1Cb;5C1b;10aC3;1C1b;3C3;1C1b;4C3;1C1b;17C3;5C1b;4C3;
1C1b;bC18;1C1b;3bCc;2C11;2C1b;8C3;2C1b;32C3;12C1b;8Cb;2C17;aC1b;6C3;12C1b;aCc;1C1b;2C3;1C17;
aC1b;1cC3;8Cb;2C1b;17C3;dC1b;cE22;1dC1b;3C3;4C26;2fC3;dC2a;1C21;6Cb;3C21;4C1b;1Cb;1C28;aC1b;
4C21;2C1b;10C17;aC1b;6C28;29C3;eC1b;9Cb;3C3;1Cb;8C3;2C1b;2C28;aC1b;2C21;1Cb;3C1b;8bC3;5Cb;
2C1b;3C3;2C1b;ecC3;8Cb;1C3;2C1b;2C17;aC1b;6E1e;1E1f;1bE1e;1E1f;1bE1e;1E1f;1bE1e;1E1f;1bE1e;
1E1f;1bE1e;1E1f;1bE1e;1E1f;1bE1e;1E1f;1bE1e;1E1f;1bE1e;1E1f;1bE1e;1E1f;1bE1e;1E1f;1bE1e;
1E1f;1bE1e;1E1f;1bE1e;1E1f;1bE1e;1E1f;1bE1e;1E1f;1bE1e;1E1f;1bE1e;1E1f;1bE1e;1E1f;1bE1e;
1E1f;1bE1e;1E1f;1bE1e;1E1f;1bE1e;1E1f;1bE1e;1E1f;1bE1e;1E1f;1bE1e;1E1f;1bE1e;1E1f;1bE1e;
1E1f;1bE1e;1E1f;1bE1e;1E1f;1bE1e;1E1f;1bE1e;1E1f;1bE1e;1E1f;1bE1e;1E1f;1bE1e;1E1f;1bE1e;
1E1f;1bE1e;1E1f;1bE1e;1E1f;1bE1e;1E1f;1bE1e;1E1f;1bE1e;1E1f;1bE1e;1E1f;1bE1e;1E1f;1bE1e;
1E1f;1bE1e;1E1f;1bE1e;1E1f;1bE1e;1E1f;1bE1e;1E1f;1bE1e;1E1f;1bE1e;1E1f;1bE1e;1E1f;1bE1e;
1E1f;1bE1e;1E1f;1bE1e;1E1f;1bE1e;1E1f;1bE1e;1E1f;1bE1e;1E1f;1bE1e;1E1f;1bE1e;1E1f;1bE1e;
1E1f;1bE1e;1E1f;1bE1e;1E1f;1bE1e;1E1f;1bE1e;1E1f;1bE1e;1E1f;1bE1e;1E1f;1bE1e;1E1f;1bE1e;
1E1f;1bE1e;1E1f;1bE1e;1E1f;1bE1e;1E1f;1bE1e;1E1f;1bE1e;1E1f;1bE1e;1E1f;1bE1e;1E1f;1bE1e;
1E1f;1bE1e;1E1f;1bE1e;1E1f;1bE1e;1E1f;1bE1e;1E1f;1bE1e;1E1f;1bE1e;1E1f;1bE1e;1E1f;1bE1e;
1E1f;1bE1e;1E1f;1bE1e;1E1f;1bE1e;1E1f;1bE1e;1E1f;1bE1e;1E1f;1bE1e;1E1f;1bE1e;1E1f;1bE1e;
1E1f;1bE1e;1E1f;1bE1e;1E1f;1bE1e;1E1f;1bE1e;1E1f;1bE1e;1E1f;1bE1e;1E1f;1bE1e;1E1f;1bE1e;
1E1f;1bE1e;1E1f;1bE1e;1E1f;1bE1e;1E1f;1bE1e;1E1f;1bE1e;1E1f;1bE1e;1E1f;1bE1e;1E1f;1bE1e;
1E1f;1bE1e;1E1f;1bE1e;1E1f;1bE1e;1E1f;1bE1e;1E1f;1bE1e;1E1f;1bE1e;1E1f;1bE1e;1E1f;1bE1e;
1E1f;1bE1e;1E1f;1bE1e;1E1f;1bE1e;1E1f;1bE1e;1E1f;1bE1e;1E1f;1bE1e;1E1f;1bE1e;1E1f;1bE1e;
1E1f;1bE1e;1E1f;1bE1e;1E1f;1bE1e;1E1f;1bE1e;1E1f;1bE1e;1E1f;1bE1e;1E1f;1bE1e;1E1f;1bE1e;
1E1f;1bE1e;1E1f;1bE1e;1E1f;1bE1e;1E1f;1bE1e;1E1f;1bE1e;1E1f;1bE1e;1E1f;1bE1e;1E1f;1bE1e;
1E1f;1bE1e;1E1f;1bE1e;1E1f;1bE1e;1E1f;1bE1e;1E1f;1bE1e;1E1f;1bE1e;1E1f;1bE1e;1E1f;1bE1e;
1E1f;1bE1e;1E1f;1bE1e;1E1f;1bE1e;1E1f;1bE1e;1E1f;1bE1e;1E1f;1bE1e;1E1f;1bE1e;1E1f;1bE1e;
1E1f;1bE1e;1E1f;1bE1e;1E1f;1bE1e;1E1f;1bE1e;1E1f;1bE1e;1E1f;1bE1e;1E1f;1bE1e;1E1f;1bE1e;
1E1f;1bE1e;1E1f;1bE1e;1E1f;1bE1e;1E1f;1bE1e;1E1f;1bE1e;1E1f;1bE1e;1E1f;1bE1e;1E1f;1bE1e;
1E1f;1bE1e;1E1f;1bE1e;1E1f;1bE1e;1E1f;1bE1e;1E1f;1bE1e;1E1f;1bE1e;1E1f;1bE1e;1E1f;1bE1e;
1E1f;1bE1e;1E1f;1bE1e;1E1f;1bE1e;1E1f;1bE1e;1E1f;1bE1e;1E1f;1bE1e;1E1f;1bE1e;1E1f;1bE1e;
1E1f;1bE1e;1E1f;1bE1e;1E1f;1bE1e;1E1f;1bE1e;1E1f;1bE1e;1E1f;1bE1e;1E1f;1bE1e;1E1f;1bE1e;
1E1f;1bE1e;1E1f;1bE1e;1E1f;1bE1e;1E1f;1bE1e;1E1f;1bE1e;1E1f;1bE1e;1E1f;1bE1e;1E1f;1bE1e;
1E1f;1bE1e;1E1f;1bE1e;1E1f;1bE1e;1E1f;1bE1e;1E1f;1bE1e;1E1f;1bE1e;1E1f;1bE1e;1E1f;1bE1e;
1E1f;1bE1e;1E1f;1bE1e;1E1f;1bE1e;1E1f;1bE1e;1E1f;1bE1e;1E1f;1bE1e;1E1f;1bE1e;1E1f;1bE1e;
1E1f;1bE1e;1E1f;1bE1e;1E1f;1bE1e;1E1f;1bE1e;1E1f;1bE1e;1E1f;1bE1e;1E1f;1bE1e;1E1f;1bE1e;
1E1f;1bE1e;1E1f;1bE1e;1E1f;1bE1e;1E1f;1bE1e;1E1f;1bE1e;1E1f;1bE1e;1E1f;1bE1e;1E1f;1bE1e;
1E1f;1bE1e;1E1f;1bE1e;1E1f;1bE1e;1E1f;1bE1e;1E1f;1bE1e;1E1f;1bE1e;1E1f;1bE1e;1E1f;1bE1e;
1E1f;1bE1e;1E1f;1bE1e;1E1f;1bE1e;1E1f;1bE1e;1E1f;1bE1e;1E1f;1bE1e;1E1f;1bE1e;1E1f;1bE1e;
1E1f;1bE1e;1E1f;1bE1e;1E1f;1bE1e;1E1f;1bE1e;1E1f;1bE1e;1E1f;1bE1e;1E1f;1bE1e;1E1f;1bE1e;
1E1f;1bE1e;1E1f;1bE1e;1E1f;1bE1e;1E1f;1bE1e;1E1f;1bE1e;1E1f;1bE1e;1E1f;1bE1e;1E1f;1bE1e;
1E1f;1bE1e;1E1f;1bE1e;1E1f;1bE1e;1E1f;1bE1e;1E1f;1bE1e;1E1f;1bE1e;1E1f;1bE1e;1E1f;1bE1e;
1E1f;1bE1e;1E1f;1bE1e;1E1f;1bE1e;1E1f;1bE1e;1E1f;1bE1e;1E1f;1bE1e;1E1f;1bE1e;1E1f;1bE1e;
1E1f;1bE1e;1E1f;1bE1e;1E1f;1bE1e;1E1f;1bE1e;1E1f;1bE1e;1E1f;1bE1e;1E1f;1bE1e;1E1f;1bE1e;
1E1f;1bE1e;1E1f;1bE1e;1E1f;1bE1e;1E1f;1bE1e;1E1f;1bE1e;1E1f;1bE1e;1E1f;1bE1e;1E1f;1bE1e;
1E1f;1bE1e;1E1f;1bE1e;1E1f;1bE1e;1E1f;1bE1e;1E1f;1bE1e;1E1f;1bE1e;1E1f;1bE1e;1E1f;1bE1e;
1E1f;1bE1e;1E1f;1bE1e;1E1f;1bE1e;1E1f;1bE1e;1E1f;1bE1e;1E1f;1bE1e;1E1f;1bE1e;1E1f;1bE1e;
1E1f;1bE1e;1E1f;1bE1e;1E1f;1bE1e;1E1f;1bE1e;1E1f;1bE1e;1E1f;1bE1e;1E1f;1bE1e;1E1f;1bE1e;
1E1f;1bE1e;1E1f;1bE1e;1E1f;1bE1e;1E1f;1bE1e;1E1f;1bE1e;1E1f;1bE1e;1E1f;1bE1e;1E1f;1bE1e;
1E1f;1bE1e;1E1f;1bE1e;1E1f;1bE1e;1E1f;1bE1e;1E1f;1bE1e;1E1f;1bE1e;1E1f;1bE1e;1E1f;1bE1e;
1E1f;1bE1e;1E1f;1bE1e;1E1f;1bE1e;1E1f;1bE1e;1E1f;1bE1e;1E1f;1bE1e;1E1f;1bE1e;1E1f;1bE1e;
1E1f;1bE1e;1E1f;1bE1e;1E1f;1bE1e;1E1f;1bE1e;1E1f;1bE1e;1E1f;1bE1e;1E1f;1bE1e;1E1f;1bE1e;
1E1f;1bE1e;1E1f;1bE1e;1E1f;1bE1e;1E1f;1bE1e;1E1f;1bE1e;1E1f;1bE1e;1E1f;1bE1e;1E1f;1bE1e;
1E1f;1bE1e;1E1f;1bE1e;1E1f;1bE1e;1E1f;1bE1e;1E1f;1bE1e;1E1f;1bE1e;1E1f;1bE1e;1E1f;1bE1e;
1E1f;1bE1e;1E1f;1bE1e;1E1f;1bE1e;1E1f;1bE1e;1E1f;1bE1e;1E1f;1bE1e;1E1f;1bE1e;1E1f;1bE1e;
1E1f;1bE1e;1E1f;1bE1e;1E1f;1bE1e;1E1f;1bE1e;1E1f;1bE1e;1E1f;1bE1e;1E1f;1bE1e;1E1f;1bE1e;
1E1f;1bE1e;1E1f;1bE1e;1E1f;1bE1e;1E1f;1bE1e;1E1f;1bE1e;1E1f;1bE1e;1E1f;1bE1e;1E1f;1bE1e;
1E1f;1bE1e;1E1f;1bE1e;1E1f;1bC1b;cC23;17C1b;4C24;31C1b;2104E21;200C1b;1dC20;1C3;1C20;aC1b;
1C20;dC1b;1C20;5C1b;1C20;1C1b;1C20;2C1b;1C20;2C1b;1C20;aC1b;1eeCf;1C14;1C1b;bcC18;1C1b;3C3;
10E16;1Ef;2E16;2E11;2E14;1Ef;1E12;1C1b;6C3;10E21;5E14;1Ef;1E14;1Ef;1E14;1Ef;1E14;1Ef;1E14;
1Ef;1E14;1Ef;1E14;1Ef;1E14;1Ef;1E21;2E14;1Ef;1E21;7Ef;1E21;1Ef;1C1b;1E13;2E11;2E21;1E14;1Ef;
1E14;1Ef;1E14;1Ef;1E21;8C1b;1E21;1E19;1E18;1E21;1C1b;93C5;1C1b;1E11;1E21;2E19;1E18;1E21;
2E14;1Ef;1E21;2Ef;1E21;1Ef;1E21;bE13;2E21;3E11;1E21;1bE14;1E21;1Ef;1E21;1dE14;1E21;1Ef;1E21;
1E14;1Ef;2E14;1Ef;2E13;1E21;1E13;aE21;2dE13;2E21;1fC1b;3E21;6C1b;2E21;6C1b;2E21;6C1b;2E21;
3C1b;3E18;1E19;1E21;3E19;2C1b;1E1b;7C1b;aC3;3Ce;1C1b;103Cb;3C1b;faC3;1C1b;e2C3;1C1b;95C3;
5C1b;24Cb;1C1b;30Cb;1C1b;cfC17;aC1b;3adCb;1C1b;c7Cb;1C1b;e1C3;3C1b;1C3;2C1b;5C3;4C1b;28C3;
3C1b;4C3;1C1b;10Cb;8C1b;8dC3;2C1b;9Cb;6C12;1C1b;42Cb;7C1b;1e4C3;4C1b;8C17;aC1b;171C3;2Cb;
1C1b;4fC3;3C1b;46C3;bC1b;31C3;4C1b;7aC3;3C27;2C26;33C3;eC2a;1Cb;2C21;5C1b;4C21;14C28;aC3;
1C26;2C3;2C26;1C1b;9C3;4C1b;2dC3;bC1b;3Cb;4C3;1C1b;2dC17;aC1b;6C3;3C1b;24C3;eC1b;1C17;aCb;
4C1b;1C3;2C1b;2cC3;1C1b;1Cc;1C1b;aC3;3C1b;30C3;eC1b;4Cb;2C1b;1Cb;1C3;4C1b;1C3;2C17;aC1b;1Cc;
1C1b;1Cb;3C1b;4cC3;cCb;2C1b;1Cb;2C1b;1C3;1C1b;2C3;1C1b;67Cb;1C1b;35C3;cC1b;5C17;aC1b;6C3;
4C1b;1C26;8C1b;2C26;2C1b;2C26;16C1b;1C26;7C1b;1C26;2C1b;1C26;5C1b;1C3;2Cb;1C3;7C1b;2C3;2C1b;
2C3;2C2a;1C1b;2C28;1C1b;6C3;1C1b;5Cb;1C28;2C26;2C3;2C1b;2C3;7C1b;3C3;5C1b;c0C3;12C1b;4Cb;
4C1b;1C17;aCb;2C1b;2C3;1C1b;51C3;14C1b;cC17;aC1b;d5C3;7C1b;2C3;9Cc;1Cb;2C11;2C1b;3Cb;fC1b;
4C3;2C1b;52C3;11Cb;2C1b;dC17;aC1b;6Cc;dC1b;3eC3;dC1b;8C17;aC1b;66C17;aC1b;2Cb;3C1b;edC3;
fC1b;a5C17;aC1b;16C26;7C1b;2C26;1C1b;2C26;8C1b;1C26;2C1b;1C26;18C3;6C1b;1C3;2C1b;2C3;3C2a;
1C27;1C3;1C27;1C3;2Cb;3C1b;9C28;aC1b;77C3;7C1b;2C3;7C1b;1Cc;1C1b;1C3;1C1b;1cC3;aC1b;28C3;
7C1b;1C3;4Cc;1C1b;1Cb;4Cc;1C1b;1C3;1C1b;9C3;bC1b;2eC3;10Cb;3C1b;1Cc;3Cb;2C1b;5dCc;aC1b;
125C3;8C1b;1C3;8C1b;1Cb;5C1b;aC17;aC1b;16Cc;1C11;1C1b;20C3;16C1b;1C3;eC1b;7aC3;6C1b;3C3;
1C1b;1C3;2C1b;1C3;7C1b;1C3;1C1b;8C17;aC1b;30C3;5C1b;1C3;2C1b;1C3;5C1b;8C17;aC1b;136C28;12Cb;
1C3;4Cb;2C1b;7C3;2C27;1C3;1C26;dC1b;1C26;22C3;7C1b;3C3;4C2a;1Cb;2C21;bC28;aC1b;83C18;4C1b;
1eCb;1C1b;470Cb;5C1b;de3C14;3Cf;3C1b;24Cf;1C1b;3C14;1Cf;1C14;1Cf;1C1b;efC14;1Cf;2C1b;b4C7;
7C14;1Cf;1C7;3C14;1Cf;1C14;1Cf;1C3;1C1b;6C3;fC1b;1178C14;1Cf;1C1b;2490C17;aC1b;4Cb;2C1b;
50C17;aC1b;26C3;5Cb;1C1b;3aC3;7Cb;3C1b;aCb;1C1b;bC17;aC1b;33dCb;2C1b;b6C3;1C1b;1C3;37C1b;
7C3;4C1b;4dE13;4E7;1C1b;bE3;2C1b;eE21;17f8C1b;8E21;300E1b;1d6C1b;2aE21;9C1b;22e7E1b;4C1b;
1E1b;7C1b;1E1b;2C1b;1E21;123C1b;fE13;1C1b;1dE13;3C1b;2E13;1C1b;eE13;4C1b;8E21;18cC1b;9a1C3;
2Cb;1C3;4C1b;125cC3;2eC1b;2C3;17C1b;21eC3;5C1b;3C3;16C1b;2C3;7C1b;1eC3;4C1b;94C3;3C1b;
589C17;32C1b;200C3;37C1b;4C3;32C1b;8C3;1C1b;eC3;1C1b;2Cb;4C1b;10C3;5C1b;1C3;fC1b;550C3;7C1b;
1C3;11C1b;2C3;7C1b;1C3;2C1b;1C3;5C1b;64C3;1C1b;a0C3;7C1b;9C17;aC1b;164C3;1C1b;3dC3;4C17;
aC1b;5C19;1C1b;1ecC3;4C17;aC1b;3d6C3;7C1b;6dC3;7C1b;5C17;aC1b;4C14;2C1b;34cC18;1C1b;3C18;
1C1b;34fC21;4E21;1C21;27C21,3;4C21;64C21,3;cC21;fC21,3;2C21;fC21,3;1C21;eE21;1C21,3;1C21;
25C21,3;aC1b;dC21;3C1b;5dC21;3C1b;1eE1b;1C1b;2E1b;aC1b;12C21;1C21,3;38C25;1aE21;3C21,3;dE21;
2cC21,3;4E21;9C21,3;7E21;2C21,3;eE21;6C21,3;9aE21;21C21;cE21;9C21;1E21;46C21;1E21;7E1c;1E21;
eC21;8C1b;2C21;2E21;15E1b;2E21;5E1b;1E21;5E1c;3E21;2E1c;1E21;2E1c;1C1c;2C21;2E21;5C21;cE21;
11C21;3E21;1C21;3E21;3E1d;5E21;3fC21;1E21;1C21;1E1c;2E21;2E1c;bE21;15E1c;13E21;3E1c;1E21;
4E1c;3E21;1E1c;3E21;7E1c;1E21;1E1c;1E21;eE1b;1E21;1E1b;1E21;1E1b;1E21;5E1c;1E21;4E1b;1E21;
1E1b;2E21;4aC21;2E21;1E1b;7E21;10E1b;eE21;dE1b;cC1b;cC21;1E21;4C21;1E21;18C21;cC1c;2C21;
4E1c;1C21;15C1c;1C21;4E1c;2C21;dE21;1C21;2fC1b;8C21;18C1b;6C21;1E21;4aE1c;3E21;3E1c;5C1b;
26C15;3C13;3C1b;4E21;23E1c;1E21;10E1c;3E21;9E1c;1E21;5C21;6E1c;1C21;3E21;3C21;2E21;3C21,3;
4E21;4C21;bE21;2C21,3;3C21;4E21;9C21,3;3C1b;74C21;cC1b;55C21;5C21,3;6E21;cC21,3;4E21;1C21,3;
fC1b;cC21,3;4C1b;38C21,3;8C1b;aC21,3;6C1b;28C21,3;8C1b;1eC21,3;2C21;cC21,3;4C21;2C21,3;eC21;
9C21,3;27C1b;cE1c;1E21;2E1c;1E21;8E1c;8E21;6E1c;1E21;9E1c;aE21;1C21;1E1c;3E21;7C21;1E21;
30E1c;1E21;3dE1c;2E21;1E1c;2E21;1E1c;1E21;11E1c;3E21;1E1c;dE21;22C1b;54C21;4C21,3;8C21;
eC21,3;2E21;dC21,3;3E21;9C21,3;7E21;2eC21,3;1E21;4E1c;3C21,3;8E21;eC21,3;4E21;9C21,3;7E1c;
9C21,3;7C1b;f0C17;aC1b;6C21,3;3feC1b;2E21;fffeC1b;2E21;fffeC1b;a0003C3;1C1b;1eC3;60C1b;80C3;
f0C1b;"

def breakClassRows : Array Row := Row.unpack breakClassTable

def breakInfo (c : Char) : BreakInfo :=
  match Row.find? breakClassRows c.toNat with
  | some r =>
    let mark := r.values.getD 1 0
    { cls := BreakClass.all.getD (r.values.headD 0) .alphabetic, eastAsian := r.tag == 'E',
      opening := mark == 1, closing := mark == 2, pictograph := mark == 3 }
  | none => { cls := .alphabetic }

def breakClass (c : Char) : BreakClass := (breakInfo c).cls

end Depot.Text
