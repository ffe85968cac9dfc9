import Depot.Disk.Tree

namespace Depot.Disk

inductive WalkError where
  | io (path : String) (kind : IoKind)
  | loop (ancestor child : String)
  deriving Inhabited

namespace FileTree

def follow (t : FileTree) (ancestors : List (List Name × String)) (dir : List Name)
    (name : Name) (shown : String) : Except WalkError (Option (List Name)) :=
  let p := dir ++ [name]
  match t.node p with
  | some .dir => .ok (some p)
  | some (.link _) =>
    match t.locate (t.steps [name]) 0 dir [name] true with
    | .error e => .error (.io shown e)
    | .ok (_, none) => .error (.io shown .notFound)
    | .ok (q, some .dir) =>
      match ancestors.find? (·.1 == q) with
      | some (_, a) => .error (.loop a shown)
      | none => .ok (some q)
    | .ok (_, some _) => .ok none
  | _ => .ok none

mutual
def walkDir (t : FileTree) : Nat → List (List Name × String) → List Name → String → List Name →
    List (List Name) × Option WalkError
  | 0, _, _, _, _ => ([], none)
  | fuel + 1, ancestors, dir, shown, below =>
    walkEntries t fuel ancestors dir shown below (t.children dir)

def walkEntries (t : FileTree) : Nat → List (List Name × String) → List Name → String → List Name →
    List Name → List (List Name) × Option WalkError
  | _, _, _, _, _, [] => ([], none)
  | fuel, ancestors, dir, shown, below, name :: rest =>
    let entryShown := shown ++ "/" ++ name.lossy
    match t.follow ancestors dir name entryShown with
    | .error e => ([], some e)
    | .ok kind =>
      let (here, stop) : List (List Name) × Option WalkError :=
        if name.isHidden then ([], none)
        else match kind with
          | some q => t.walkDir fuel (ancestors ++ [(q, entryShown)]) q entryShown (below ++ [name])
          | none => ([below ++ [name]], none)
      match stop with
      | some e => (here, some e)
      | none =>
        let (more, stop) := walkEntries t fuel ancestors dir shown below rest
        (here ++ more, stop)
end

def walk (t : FileTree) (path : PathText) (shown : String) : List (List Name) × Option WalkError :=
  match t.lookup path true with
  | .ok (q, some .dir) => t.walkDir (t.nodes.length + 1) [(q, shown)] q shown []
  | _ => ([], none)

end FileTree

end Depot.Disk
