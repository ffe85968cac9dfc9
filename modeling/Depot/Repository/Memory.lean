import Depot.Repository.Basic

namespace Depot

structure MemoryStore where
  items : List (String × ByteArray) := []
  failing : List String := []
  undeletable : List String := []

namespace MemoryStore

def insertItem (id : String) (data : ByteArray) :
    List (String × ByteArray) → List (String × ByteArray)
  | [] => [(id, data)]
  | (k, v) :: rest =>
    if id < k then (id, data) :: (k, v) :: rest
    else if id = k then (id, data) :: rest
    else (k, v) :: insertItem id data rest

def insert (s : MemoryStore) (id : String) (data : ByteArray) : MemoryStore :=
  { s with items := insertItem id data s.items }

def failOn (s : MemoryStore) (id : String) : MemoryStore :=
  { s with failing := id :: s.failing }

def failDeleteOn (s : MemoryStore) (id : String) : MemoryStore :=
  { s with undeletable := id :: s.undeletable }

def contains (s : MemoryStore) (id : String) : Bool :=
  s.items.any (·.1 == id)

def identifiers (s : MemoryStore) : List String :=
  s.items.map (·.1)

def refusal (id : String) : Error := .access id .injected

def check (marked : List String) (id : String) : Except Error Unit :=
  if marked.contains id then .error (refusal id) else .ok ()

def hasHiddenPart (relative : String) : Bool :=
  let cs := relative.toList
  (('/' :: cs).zip cs).any fun (before, c) => before == '/' && c == '.'

def itemlist (s : MemoryStore) (c : Collection) : List String :=
  s.items.filterMap fun (k, _) =>
    let p := c.name ++ "/"
    if p.isPrefixOf k then
      let relative := String.ofList (k.toList.drop p.length)
      if hasHiddenPart relative then none else some relative
    else none

def get (s : MemoryStore) (id : String) : Except Error ByteArray := do
  check s.failing id
  match s.items.find? (·.1 == id) with
  | some (_, data) => pure data
  | none => throw (.notFound id)

def put (s : MemoryStore) (id : String) (data : ByteArray) : Except Error MemoryStore := do
  check s.failing id
  pure (s.insert id data)

def delete (s : MemoryStore) (id : String) : Except Error MemoryStore := do
  check s.failing id
  check s.undeletable id
  if s.contains id then pure { s with items := s.items.filter (·.1 != id) }
  else throw (.notFound id)

instance : Repository MemoryStore where
  itemlist s c := .ok (s.itemlist c)
  get := get
  put s id data := Changed.ofExcept s (put s id data)
  delete s id := Changed.ofExcept s (delete s id)

end MemoryStore

end Depot
