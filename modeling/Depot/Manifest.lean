import Depot.Metadata.Format

namespace Depot

inductive Manifest where
  | mk (managedInstalls managedUninstalls managedUpdates optionalInstalls : List String)
      (condition : Option String) (conditionalItems : List Manifest)
  deriving Inhabited

namespace Manifest

def managedInstalls : Manifest → List String
  | mk l _ _ _ _ _ => l

def managedUninstalls : Manifest → List String
  | mk _ l _ _ _ _ => l

def managedUpdates : Manifest → List String
  | mk _ _ l _ _ _ => l

def optionalInstalls : Manifest → List String
  | mk _ _ _ l _ _ => l

def condition : Manifest → Option String
  | mk _ _ _ _ c _ => c

def conditionalItems : Manifest → List Manifest
  | mk _ _ _ _ _ bs => bs

def shape : Shape :=
  .record "Manifest"
    [("managed_installs", .list .text), ("managed_uninstalls", .list .text),
     ("managed_updates", .list .text), ("optional_installs", .list .text),
     ("condition", .optional .text), ("conditional_items", .list .enclosing)]

mutual
def ofDatum : Datum → Manifest
  | .record (a :: b :: c :: d :: e :: .list bs :: _) =>
    mk a.texts b.texts c.texts d.texts e.text? (blocksOf bs)
  | .record (a :: b :: c :: d :: e :: _) => mk a.texts b.texts c.texts d.texts e.text? []
  | _ => mk [] [] [] [] none []

def blocksOf : List Datum → List Manifest
  | [] => []
  | b :: bs => ofDatum b :: blocksOf bs
end

def parse (identifier : String) (data : ByteArray) : Except Error Manifest :=
  (decode identifier data shape).map ofDatum

def references : Manifest → List String
  | mk a b c d _ bs => a ++ b ++ c ++ d ++ (bs.attach.map fun ⟨m, _⟩ => m.references).flatten

end Manifest

end Depot
