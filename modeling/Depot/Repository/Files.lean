import Depot.Disk.Walk
import Depot.Repository.Basic

namespace Depot

open Disk

structure FileRepo where
  tree : FileTree
  root : String
  deriving Inhabited

namespace FileRepo

def join (base relative : String) : String :=
  if base.isEmpty then relative
  else if relative.startsWith "/" then relative
  else if base.endsWith "/" then base ++ relative
  else base ++ "/" ++ relative

def staysInside (identifier : String) : Bool :=
  !identifier.isEmpty && !identifier.startsWith "/" && !(identifier.splitOn "/").contains ".."

def resolve (r : FileRepo) (identifier : String) : Except Error PathText :=
  if staysInside identifier then .ok (PathText.ofString (join r.root identifier))
  else .error (.access identifier .escapesRoot)

def ioError (identifier : String) : IoKind → Error
  | .notFound => .notFound identifier
  | k => .access identifier (.system k)

def givable (identifier : String) (p : PathText) : Except Error Unit :=
  if p.hasNul then .error (.access identifier .nulInName) else .ok ()

def get (r : FileRepo) (identifier : String) : Except Error ByteArray := do
  let p ← r.resolve identifier
  givable identifier p
  match r.tree.read p with
  | .ok d => pure d
  | .error k => throw (ioError identifier k)

def put (r : FileRepo) (identifier : String) (data : ByteArray) : Changed FileRepo :=
  let made : Except Error (PathText × FileTree) := do
    let p ← r.resolve identifier
    let parent := p.parent
    givable identifier parent
    match r.tree.createDirAll (r.tree.steps parent.parts) parent with
    | .ok t => pure (p, t)
    | .error k => throw (.access identifier (.system k))
  match made with
  | .error e => (r, .error e)
  | .ok (p, t) =>
    let r := { r with tree := t }
    match givable identifier p with
    | .error e => (r, .error e)
    | .ok () =>
      match t.write p data with
      | .ok t => ({ r with tree := t }, .ok ())
      | .error k => (r, .error (ioError identifier k))

def delete (r : FileRepo) (identifier : String) : Except Error FileRepo := do
  let p ← r.resolve identifier
  givable identifier p
  match r.tree.unlink p with
  | .ok t => pure { r with tree := t }
  | .error k => throw (ioError identifier k)

def walkFailure (c : Collection) : WalkError → Error
  | .io path k =>
    .access c.name
      ⟨k, "IO error for operation on " ++ path ++ ": " ++ IoFailure.systemMessage k, true,
        [IoFailure.systemMessage k]⟩
  | .loop ancestor child =>
    .access c.name
      ⟨.other, "File system loop found: " ++ child ++ " points to an ancestor " ++ ancestor, true, []⟩

def itemlist (r : FileRepo) (c : Collection) : Except Error (List String) :=
  let shown := join r.root c.name
  let dir := PathText.ofString shown
  if !r.tree.present dir then .ok []
  else
    let (found, stop) := r.tree.walk dir shown
    let named := found.map fun ns => (ns, ns.mapM Name.text?)
    match named.find? (·.2.isNone) with
    | some (ns, _) => .error (.access (showNames ns) ⟨.invalidData, "path is not valid UTF-8", true, []⟩)
    | none =>
      match stop with
      | some e => .error (walkFailure c e)
      | none => .ok ((named.filterMap fun (_, t) => t.map ("/".intercalate ·)).mergeSort fun a b => a ≤ b)

def entries (r : FileRepo) : List String :=
  match r.tree.lookup (PathText.ofString r.root) true with
  | .ok (q, some .dir) =>
    ((r.tree.entriesBelow q).map fun (ns, _) => showNames ns).mergeSort fun a b => a ≤ b
  | _ => []

def rootIsDir (r : FileRepo) : Bool := r.tree.isDir (PathText.ofString r.root)

def makeDirs (r : FileRepo) (relative : String) : Except IoKind FileRepo := do
  let p := PathText.ofString (join r.root relative)
  pure { r with tree := ← r.tree.createDirAll (r.tree.steps p.parts) p }

def makeLink (r : FileRepo) (relative target : String) : Except IoKind FileRepo := do
  let p := PathText.ofString (join r.root relative)
  let parent := p.parent
  let t ← r.tree.createDirAll (r.tree.steps parent.parts) parent
  pure { r with tree := ← t.symlink p target }

def placeFile (r : FileRepo) (dir : String) (name : Name) (data : ByteArray) :
    Except IoKind FileRepo := do
  let d := PathText.ofString (join r.root dir)
  let t ← r.tree.createDirAll (r.tree.steps d.parts) d
  pure { r with tree := ← t.write { d with parts := d.parts ++ [name] } data }

instance : Repository FileRepo where
  itemlist := itemlist
  get := get
  put := put
  delete r id := Changed.ofExcept r (delete r id)

end FileRepo

end Depot
