
namespace Depot.Base64

def alphabet : List Char :=
  "ABCDEFGHIJKLMNOPQRSTUVWXYZabcdefghijklmnopqrstuvwxyz0123456789+/".toList

def charOf (v : Nat) : Char := alphabet.getD v 'A'

def valueOf? (c : Char) : Option Nat :=
  if 'A' ≤ c && c ≤ 'Z' then some (c.toNat - 'A'.toNat)
  else if 'a' ≤ c && c ≤ 'z' then some (c.toNat - 'a'.toNat + 26)
  else if '0' ≤ c && c ≤ '9' then some (c.toNat - '0'.toNat + 52)
  else if c == '+' then some 62
  else if c == '/' then some 63
  else none

def encodeList : List UInt8 → List Char
  | [] => []
  | [a] =>
    let n := a.toNat * 65536
    [charOf (n / 262144 % 64), charOf (n / 4096 % 64), '=', '=']
  | [a, b] =>
    let n := a.toNat * 65536 + b.toNat * 256
    [charOf (n / 262144 % 64), charOf (n / 4096 % 64), charOf (n / 64 % 64), '=']
  | a :: b :: c :: rest =>
    let n := a.toNat * 65536 + b.toNat * 256 + c.toNat
    charOf (n / 262144 % 64) :: charOf (n / 4096 % 64) :: charOf (n / 64 % 64) ::
      charOf (n % 64) :: encodeList rest

def encode (data : ByteArray) : String := String.ofList (encodeList data.toList)

def decodeList : List Char → Option (List UInt8)
  | [] => some []
  | [a, b, '=', '='] => do
    let n := (← valueOf? a) * 262144 + (← valueOf? b) * 4096
    if n % 65536 != 0 then none else pure [(n / 65536).toUInt8]
  | [a, b, c, '='] => do
    let n := (← valueOf? a) * 262144 + (← valueOf? b) * 4096 + (← valueOf? c) * 64
    if n % 256 != 0 then none else pure [(n / 65536).toUInt8, (n / 256 % 256).toUInt8]
  | a :: b :: c :: d :: rest => do
    let n := (← valueOf? a) * 262144 + (← valueOf? b) * 4096 + (← valueOf? c) * 64 + (← valueOf? d)
    let tail ← decodeList rest
    pure ((n / 65536).toUInt8 :: (n / 256 % 256).toUInt8 :: (n % 256).toUInt8 :: tail)
  | _ => none

def decode? (s : String) : Option ByteArray :=
  (decodeList s.toList).map fun bs => ⟨bs.toArray⟩

end Depot.Base64
