import Depot.Metadata.Shape
import Depot.Metadata.Plist.Reader
import Depot.Metadata.Plist.Binary
import Depot.Metadata.Plist.OpenStep
import Depot.Metadata.Plist.Decode
import Depot.Metadata.Plist.Writer
import Depot.Yaml.Decode
import Depot.Yaml.Writer
import Depot.Error

namespace Depot

inductive Format where
  | plist
  | yaml
  deriving DecidableEq, Repr, Inhabited

namespace Format

def endsWithFolded (s suffix : String) : Bool :=
  let lower (t : String) := t.toList.map Char.toLower
  (lower suffix).isSuffixOf (lower s)

def ofIdentifier (identifier : String) : Format :=
  if endsWithFolded identifier ".yaml" || endsWithFolded identifier ".yml" then .yaml else .plist

def name : Format → String
  | .plist => "plist"
  | .yaml => "yaml"

end Format

namespace Plist

def read (data : ByteArray) : Stream :=
  if data.size < 8 then { events := [], stop := some (.atOffset .tooShort 0) }
  else if Binary.isBinary data then Binary.readEvents data
  else
    let xml := readEvents data
    if declaresXml data || !(xml.events.isEmpty && xml.stop.isSome) then xml
    else OpenStep.readEvents data

end Plist

def decode (identifier : String) (data : ByteArray) (shape : Shape) : Except Error Datum :=
  match Format.ofIdentifier identifier with
  | .plist =>
    match (Plist.read data).decode shape with
    | .ok d => .ok d
    | .error f => .error (.parse identifier (.plist f))
  | .yaml =>
    match (Yaml.Document.ofBytes data).decode shape with
    | .ok d => .ok d
    | .error f => .error (.parse identifier (.yaml f))

def encode (what : String) (v : Value) : Format → Except Error String
  | .plist =>
    match Plist.write? v with
    | some s => .ok s
    | none => .error (.serialization what)
  | .yaml =>
    match Yaml.write v with
    | .ok s => .ok s
    | .error _ => .error (.serialization what)

end Depot
