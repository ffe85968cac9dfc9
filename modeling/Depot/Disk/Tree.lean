import Depot.Disk.Name
import Depot.Error

namespace Depot.Disk

inductive Node where
  | file (data : ByteArray)
  | dir
  | link (target : String)
  deriving Inhabited

def Node.isDir : Node → Bool
  | .dir => true
  | _ => false

structure FileTree where
  nodes : List (List Name × Node) := []
  cwd : List Name := []
  deriving Inhabited

def linkLimit : Nat := 40

def nameLimit : Nat := 255

def pathLimit : Nat := 4096

def compareNames : Name → Name → Ordering
  | [], [] => .eq
  | [], _ :: _ => .lt
  | _ :: _, [] => .gt
  | a :: as, b :: bs => (compare a b).then (compareNames as bs)

namespace FileTree

def node (t : FileTree) (p : List Name) : Option Node :=
  if p.isEmpty then some .dir else (t.nodes.find? (·.1 == p)).map (·.2)

def children (t : FileTree) (p : List Name) : List Name :=
  (t.nodes.filterMap fun (q, _) =>
    if q.length == p.length + 1 && q.take p.length == p then q.getLast? else none).mergeSort
    fun a b => compareNames a b != .gt

def setNode (t : FileTree) (p : List Name) (n : Node) : FileTree :=
  { t with nodes := (t.nodes.filter (·.1 != p)) ++ [(p, n)] }

def removeNode (t : FileTree) (p : List Name) : FileTree :=
  { t with nodes := t.nodes.filter (·.1 != p) }

def start (t : FileTree) (path : PathText) : List Name := if path.absolute then [] else t.cwd

def locate (t : FileTree) : Nat → Nat → List Name → List Name → Bool →
    Except IoKind (List Name × Option Node)
  | 0, _, _, _, _ => .error .filesystemLoop
  | _ + 1, _, cur, [], _ => .ok (cur, some .dir)
  | fuel + 1, hops, cur, c :: rest, follow =>
    if c == Name.here then t.locate fuel hops cur rest follow
    else if c == Name.up then t.locate fuel hops cur.dropLast rest follow
    else if c.length > nameLimit then .error .invalidFilename
    else
      let p := cur ++ [c]
      match t.node p with
      | none => if rest.isEmpty then .ok (p, none) else .error .notFound
      | some .dir => t.locate fuel hops p rest follow
      | some (.file d) => if rest.isEmpty then .ok (p, some (.file d)) else .error .notADirectory
      | some (.link target) =>
        if rest.isEmpty && !follow then .ok (p, some (.link target))
        else if hops ≥ linkLimit then .error .filesystemLoop
        else
          let tp := PathText.ofString target
          match t.locate fuel (hops + 1) (if tp.absolute then [] else cur) tp.parts true with
          | .error e => .error e
          | .ok (q, some .dir) => t.locate fuel (hops + 1) q rest follow
          | .ok (q, some n) => if rest.isEmpty then .ok (q, some n) else .error .notADirectory
          | .ok (q, none) => if rest.isEmpty then .ok (q, none) else .error .notFound

def steps (t : FileTree) (parts : List Name) : Nat := 10000 + parts.length + t.nodes.length

def lookup (t : FileTree) (path : PathText) (follow : Bool) : Except IoKind (List Name × Option Node) :=
  if path.size ≥ pathLimit then .error .invalidFilename
  else t.locate (t.steps path.parts) 0 (t.start path) path.parts follow

def parentOf (t : FileTree) (path : PathText) :
    Except IoKind (Option (List Name × Name × Bool)) :=
  let trailing := path.parts.getLast? == some Name.here
  let parts := if trailing then path.parts.dropLast else path.parts
  match parts.getLast? with
  | none => .ok none
  | some last =>
    if last == Name.here || last == Name.up then .ok none
    else match t.lookup { path with parts := parts.dropLast } true with
      | .error e => .error e
      | .ok (_, none) => .error .notFound
      | .ok (q, some .dir) =>
        if last.length > nameLimit then .error .invalidFilename else .ok (some (q, last, trailing))
      | .ok (_, some _) => .error .notADirectory

def isDir (t : FileTree) (path : PathText) : Bool :=
  match t.lookup path true with
  | .ok (_, some .dir) => true
  | _ => false

def present (t : FileTree) (path : PathText) : Bool :=
  match t.lookup path true with
  | .ok (_, some _) => true
  | _ => false

def read (t : FileTree) (path : PathText) : Except IoKind ByteArray :=
  match t.lookup path true with
  | .error e => .error e
  | .ok (_, none) => .error .notFound
  | .ok (_, some (.file d)) => .ok d
  | .ok (_, some _) => .error .isADirectory

def write (t : FileTree) (path : PathText) (data : ByteArray) : Except IoKind FileTree :=
  match t.parentOf path with
  | .error e => .error e
  | .ok none => .error .isADirectory
  | .ok (some (dir, last, dirOnly)) =>
    let p := dir ++ [last]
    let place : Except IoKind (List Name × Option Node) :=
      match t.node p with
      | some (.link _) => t.locate (t.steps [last]) 0 dir [last] true
      | n => .ok (p, n)
    match place with
    | .error e => .error e
    | .ok (q, none) => if dirOnly then .error .isADirectory else .ok (t.setNode q (.file data))
    | .ok (q, some (.file _)) => if dirOnly then .error .notADirectory else .ok (t.setNode q (.file data))
    | .ok (_, some _) => .error .isADirectory

def mkdir (t : FileTree) (path : PathText) : Except IoKind FileTree :=
  match t.parentOf path with
  | .error e => .error e
  | .ok none => .error .alreadyExists
  | .ok (some (dir, last, _)) =>
    let p := dir ++ [last]
    if (t.node p).isSome then .error .alreadyExists else .ok (t.setNode p .dir)

def createDirAll (t : FileTree) : Nat → PathText → Except IoKind FileTree
  | 0, _ => .error .filesystemLoop
  | fuel + 1, path =>
    if path.parts.isEmpty then .ok t
    else match t.mkdir path with
      | .ok t => .ok t
      | .error .notFound =>
        match t.createDirAll fuel path.parent with
        | .error e => .error e
        | .ok t =>
          match t.mkdir path with
          | .ok t => .ok t
          | .error e => if t.isDir path then .ok t else .error e
      | .error e => if t.isDir path then .ok t else .error e

def unlink (t : FileTree) (path : PathText) : Except IoKind FileTree :=
  match t.parentOf path with
  | .error e => .error e
  | .ok none => .error .isADirectory
  | .ok (some (dir, last, dirOnly)) =>
    let p := dir ++ [last]
    match t.node p with
    | none => .error .notFound
    | some .dir => .error .isADirectory
    | some _ => if dirOnly then .error .notADirectory else .ok (t.removeNode p)

def symlink (t : FileTree) (path : PathText) (target : String) : Except IoKind FileTree :=
  match t.parentOf path with
  | .error e => .error e
  | .ok none => .error .alreadyExists
  | .ok (some (dir, last, _)) =>
    let p := dir ++ [last]
    if (t.node p).isSome then .error .alreadyExists else .ok (t.setNode p (.link target))

def entriesBelow (t : FileTree) (p : List Name) : List (List Name × Node) :=
  t.nodes.filterMap fun (q, n) =>
    if q.length > p.length && q.take p.length == p && !n.isDir then some (q.drop p.length, n) else none

end FileTree

inductive Change where
  | makeDir (path : String)
  | write (path : String) (data : ByteArray)
  | remove (path : String)
  deriving Inhabited

def pathText (p : List Name) : String := "/" ++ showNames p

namespace FileTree

def changesTo (before after : FileTree) : List Change :=
  let dirs := (after.nodes.filter fun (p, n) => n.isDir && (before.node p).isNone).map (·.1)
  let writes := after.nodes.filterMap fun (p, n) =>
    match n, before.node p with
    | .file d, some (.file e) => if d.data == e.data then none else some (Change.write (pathText p) d)
    | .file d, _ => some (Change.write (pathText p) d)
    | _, _ => none
  let removals := before.nodes.filterMap fun (p, n) =>
    if !n.isDir && (after.node p).isNone then some (Change.remove (pathText p)) else none
  ((dirs.mergeSort fun a b => a.length ≤ b.length).map (Change.makeDir ∘ pathText)) ++ writes ++ removals

end FileTree

end Depot.Disk
