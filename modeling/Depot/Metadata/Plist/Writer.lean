import Depot.Metadata.Value
import Depot.Binary64.Shortest
import Depot.Text.Base64

namespace Depot.Plist

def realLayout : Decimal.Layout where
  positionalMax := 100000
  positionalMin := -100000
  pointZero := false
  exponentMark := "e"
  infinityText := "inf"
  nanText := "NaN"

def escape (s : String) : String :=
  s.foldl (fun acc c =>
    match c with
    | '<' => acc ++ "&lt;"
    | '>' => acc ++ "&gt;"
    | '&' => acc ++ "&amp;"
    | '"' => acc ++ "&quot;"
    | '\'' => acc ++ "&apos;"
    | '\r' => acc ++ "&#13;"
    | c => acc.push c) ""

def tabs (n : Nat) : String := String.ofList (List.replicate n '\t')

def chunks (n : Nat) (cs : List Char) (fuel : Nat) : List String :=
  match fuel with
  | 0 => []
  | fuel + 1 =>
    if cs.isEmpty then [] else String.ofList (cs.take n) :: chunks n (cs.drop n) fuel

def dataBody (bytes : ByteArray) (depth : Nat) : String :=
  let brk := "\n" ++ tabs depth
  let text := (Base64.encode bytes).toList
  brk ++ String.join ((chunks 68 text text.length).map (· ++ brk))

def element (depth : Nat) (tag body : String) : String :=
  tabs depth ++ "<" ++ tag ++ ">" ++ body ++ "</" ++ tag ++ ">\n"

mutual
def valueLines (depth : Nat) : Value → String
  | .string s => element depth "string" (escape s)
  | .integer i => element depth "integer" (toString i)
  | .real x => element depth "real" (Decimal.layout realLayout x)
  | .boolean b => tabs depth ++ (if b then "<true/>\n" else "<false/>\n")
  | .null => element depth "string" ""
  | .date t => element depth "date" t.text
  | .data bytes => element depth "data" (dataBody bytes depth)
  | .uid _ => ""
  | .array [] => tabs depth ++ "<array/>\n"
  | .array items => tabs depth ++ "<array>\n" ++ itemLines (depth + 1) items ++ tabs depth ++ "</array>\n"
  | .dict [] => tabs depth ++ "<dict/>\n"
  | .dict entries =>
    tabs depth ++ "<dict>\n" ++ entryLines (depth + 1) entries ++ tabs depth ++ "</dict>\n"

def itemLines (depth : Nat) : List Value → String
  | [] => ""
  | v :: vs => valueLines depth v ++ itemLines depth vs

def entryLines (depth : Nat) : List (String × Value) → String
  | [] => ""
  | (k, v) :: es => element depth "key" (escape k) ++ valueLines depth v ++ entryLines depth es
end

def header : String :=
  "<?xml version=\"1.0\" encoding=\"UTF-8\"?>\n" ++
  "<!DOCTYPE plist PUBLIC \"-//Apple//DTD PLIST 1.0//EN\" " ++
  "\"http://www.apple.com/DTDs/PropertyList-1.0.dtd\">\n" ++
  "<plist version=\"1.0\">\n"

mutual
def holdsUid : Value → Bool
  | .uid _ => true
  | .array items => itemsHoldUid items
  | .dict entries => entriesHoldUid entries
  | _ => false

def itemsHoldUid : List Value → Bool
  | [] => false
  | v :: vs => holdsUid v || itemsHoldUid vs

def entriesHoldUid : List (String × Value) → Bool
  | [] => false
  | (_, v) :: es => holdsUid v || entriesHoldUid es
end

def write? (v : Value) : Option String :=
  if holdsUid v then none else some (header ++ valueLines 0 v ++ "</plist>")

end Depot.Plist
