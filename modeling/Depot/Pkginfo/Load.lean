import Depot.Pkginfo.Record
import Depot.Repository.Basic

namespace Depot

def loadRecord {σ : Type} [Repository σ] (s : σ) (identifier : String) :
    Except Error PkginfoRecord :=
  match Repository.get s identifier with
  | .ok data => PkginfoRecord.parse identifier data
  | .error e => .error (.pkginfoAccess identifier e)

def loadAll {σ : Type} [Repository σ] (s : σ) :
    Except Error (List (String × Except Error PkginfoRecord)) :=
  (Repository.list s .pkgsinfo).map fun ids => ids.map fun id => (id, loadRecord s id)

end Depot
