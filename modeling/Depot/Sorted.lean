
namespace Depot.Sorted

variable {α β : Type}

def insertBy (cmp : α → α → Ordering) (x : α) : List α → List α
  | [] => [x]
  | y :: ys =>
    match cmp x y with
    | .lt => x :: y :: ys
    | .eq => y :: ys
    | .gt => y :: insertBy cmp x ys

def insert (x : String) (xs : List String) : List String := insertBy compare x xs

def insertPair (x : String × String) (xs : List (String × String)) : List (String × String) :=
  insertBy (fun a b => (compare a.1 b.1).then (compare a.2 b.2)) x xs

def ofList (xs : List String) : List String := xs.foldl (fun s x => insert x s) []

def alterBy (cmp : α → α → Ordering) (k : α) (f : Option β → β) :
    List (α × β) → List (α × β)
  | [] => [(k, f none)]
  | (j, v) :: rest =>
    match cmp k j with
    | .lt => (k, f none) :: (j, v) :: rest
    | .eq => (j, f (some v)) :: rest
    | .gt => (j, v) :: alterBy cmp k f rest

def findBy (cmp : α → α → Ordering) (k : α) : List (α × β) → Option β
  | [] => none
  | (j, v) :: rest => if cmp k j == .eq then some v else findBy cmp k rest

end Depot.Sorted
