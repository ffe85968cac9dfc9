import Depot.Error

namespace Depot

inductive Collection where
  | pkgsinfo
  | manifests
  | pkgs
  | catalogs
  | icons
  deriving DecidableEq, Repr, Inhabited

namespace Collection

def name : Collection → String
  | .pkgsinfo => "pkgsinfo"
  | .manifests => "manifests"
  | .pkgs => "pkgs"
  | .catalogs => "catalogs"
  | .icons => "icons"

def identifier (c : Collection) (relative : String) : String := c.name ++ "/" ++ relative

end Collection

abbrev Changed (σ : Type) := σ × Except Error Unit

def Changed.ofExcept {σ : Type} (s : σ) : Except Error σ → Changed σ
  | .ok s' => (s', .ok ())
  | .error e => (s, .error e)

class Repository (σ : Type) where
  itemlist : σ → Collection → Except Error (List String)
  get : σ → String → Except Error ByteArray
  put : σ → String → ByteArray → Changed σ
  delete : σ → String → Changed σ

namespace Repository

variable {σ : Type} [Repository σ]

def list (s : σ) (c : Collection) : Except Error (List String) :=
  (itemlist s c).map (·.map c.identifier)

end Repository

end Depot
