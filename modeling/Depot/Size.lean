
namespace Depot.Size

def wordMax : Nat := Nat.pow 2 64 - 1

def kibToBytes (kib : Nat) : Nat := min (kib * 1024) wordMax

def wrappingAdd (a b : Nat) : Nat := (a + b) % Nat.pow 2 64

def roundHalfEven (num den : Nat) : Nat :=
  let q := num / den
  let r := num % den
  if 2 * r < den then q
  else if 2 * r > den then q + 1
  else if q % 2 == 0 then q else q + 1

def bitLength (n : Nat) : Nat := if n = 0 then 0 else n.log2 + 1

def toDoublePrecision (n : Nat) : Nat :=
  let extra := bitLength n - 53
  roundHalfEven n (Nat.pow 2 extra) * Nat.pow 2 extra

def units : List (Nat × String) := [(4, "TB"), (3, "GB"), (2, "MB"), (1, "KB")]

def tenthsText (tenths : Nat) : String :=
  toString (tenths / 10) ++ "." ++ toString (tenths % 10)

def format (bytes : Nat) : String :=
  match units.find? fun (e, _) => Nat.pow 2 (10 * e) ≤ bytes with
  | some (e, unit) =>
    tenthsText (roundHalfEven (toDoublePrecision bytes * 10) (Nat.pow 2 (10 * e))) ++ " " ++ unit
  | none => toString bytes ++ " bytes"

end Depot.Size
