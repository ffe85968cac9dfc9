import Depot.Metadata.Plist.Event
import Depot.Metadata.Mismatch

namespace Depot.Plist

inductive Fault where
  | unexpectedEof
  | unexpectedEndOfEventStream
  | unexpectedEventType (expected found : EventKind)
  | expectedEndOfEventStream (found : EventKind)
  | unclosedString
  | incompleteComment
  | invalidUtf8AsciiStream
  | invalidOctalString
  | unclosedXmlElement
  | unexpectedXmlCharactersExpectedElement
  | unexpectedXmlOpeningTag
  | unknownXmlElement
  | invalidXmlSyntax
  | invalidXmlUtf8
  | invalidDataString
  | invalidDateString
  | invalidIntegerString
  | invalidRealString
  | invalidTrailerObjectOffsetSize
  | invalidTrailerObjectReferenceSize
  | invalidObjectLength
  | objectReferenceTooLarge
  | objectOffsetTooLarge
  | recursiveObject
  | integerOutOfRange
  | overflowOrNanDate
  | nullObjectUnimplemented
  | fillObjectUnimplemented
  | invalidUtf8String
  | invalidUtf16String
  | unknownObjectType (marker : Nat)
  | input (kind message : String)
  | mismatch (m : Mismatch)
  deriving Repr, Inhabited

namespace Fault

def describe : Fault → String
  | .unexpectedEof => "UnexpectedEof"
  | .unexpectedEndOfEventStream => "UnexpectedEndOfEventStream"
  | .unexpectedEventType e f =>
    "UnexpectedEventType \x7b expected: " ++ e.name ++ ", found: " ++ f.name ++ " \x7d"
  | .expectedEndOfEventStream f => "ExpectedEndOfEventStream \x7b found: " ++ f.name ++ " \x7d"
  | .unclosedString => "UnclosedString"
  | .incompleteComment => "IncompleteComment"
  | .invalidUtf8AsciiStream => "InvalidUtf8AsciiStream"
  | .invalidOctalString => "InvalidOctalString"
  | .unclosedXmlElement => "UnclosedXmlElement"
  | .unexpectedXmlCharactersExpectedElement => "UnexpectedXmlCharactersExpectedElement"
  | .unexpectedXmlOpeningTag => "UnexpectedXmlOpeningTag"
  | .unknownXmlElement => "UnknownXmlElement"
  | .invalidXmlSyntax => "InvalidXmlSyntax"
  | .invalidXmlUtf8 => "InvalidXmlUtf8"
  | .invalidDataString => "InvalidDataString"
  | .invalidDateString => "InvalidDateString"
  | .invalidIntegerString => "InvalidIntegerString"
  | .invalidRealString => "InvalidRealString"
  | .invalidTrailerObjectOffsetSize => "InvalidTrailerObjectOffsetSize"
  | .invalidTrailerObjectReferenceSize => "InvalidTrailerObjectReferenceSize"
  | .invalidObjectLength => "InvalidObjectLength"
  | .objectReferenceTooLarge => "ObjectReferenceTooLarge"
  | .objectOffsetTooLarge => "ObjectOffsetTooLarge"
  | .recursiveObject => "RecursiveObject"
  | .integerOutOfRange => "IntegerOutOfRange"
  | .overflowOrNanDate => "OverflowOrNanDate"
  | .nullObjectUnimplemented => "NullObjectUnimplemented"
  | .fillObjectUnimplemented => "FillObjectUnimplemented"
  | .invalidUtf8String => "InvalidUtf8String"
  | .invalidUtf16String => "InvalidUtf16String"
  | .unknownObjectType m => "UnknownObjectType(" ++ toString m ++ ")"
  | .input k m => "Io(Error \x7b kind: " ++ k ++ ", message: " ++ Text.quoted m ++ " \x7d)"
  | .mismatch m => "Serde(" ++ Text.quoted m.message ++ ")"

def tooShort : Fault := .input "UnexpectedEof" "failed to fill whole buffer"

def noTrailer : Fault := .input "InvalidInput" "invalid seek to a negative or overflowing position"

end Fault

structure Failure where
  fault : Fault
  offset : Option Nat := none
  deriving Repr, Inhabited

namespace Failure

def atOffset (fault : Fault) (offset : Nat) : Failure := ⟨fault, some offset⟩

def mismatch (m : Mismatch) : Failure := ⟨.mismatch m, none⟩

def message (f : Failure) : String :=
  match f.offset with
  | some n => f.fault.describe ++ " (offset " ++ toString n ++ ")"
  | none => f.fault.describe

def chain (f : Failure) : List String :=
  match f.fault with
  | .input _ m => [f.message, m]
  | _ => [f.message]

end Failure

structure Stream where
  events : List Event
  stop : Option Failure := none
  deriving Inhabited

def Stream.append (s t : Stream) : Stream := { events := s.events ++ t.events, stop := t.stop }

end Depot.Plist
