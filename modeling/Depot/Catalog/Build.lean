import Depot.Catalog.Verify
import Depot.Digest.Sha256
import Depot.Pkginfo.Load
import Depot.Session
import Depot.Sorted

namespace Depot

def allCatalog : String := "all"

def iconHashesName : String := "_icon_hashes.plist"

structure CatalogOptions where
  force : Bool := false
  skipPkgCheck : Bool := false
  format : Format := .plist
  jobs : Nat := 8
  deriving Inhabited

structure CatalogReport where
  report : Report := {}
  catalogs : List (String × Nat) := []
  staleRemoved : List String := []
  iconsHashed : Nat := 0
  deriving Inhabited

def CatalogReport.hasErrors (c : CatalogReport) : Bool := c.report.hasErrors

def catalogEntry (document : List (String × Value)) : Value :=
  .dict (document.filter fun (k, _) => k != "notes" && !k.startsWith "_")

abbrev EntryKey := String × String × String × Constraints

structure Assembly where
  catalogs : List (String × List Value) := [(allCatalog, [])]
  seen : List (EntryKey × String) := []
  report : Report := {}
  log : List String := []

namespace Assembly

def push (a : Assembly) (name : String) (entry : Value) : Assembly :=
  { a with catalogs := Sorted.alterBy compare name (fun es => es.getD [] ++ [entry]) a.catalogs }

def addToCatalog (log : Logger) (id : String) (r : PkginfoRecord) (entry : Value) (a : Assembly)
    (catalog : String) : Assembly :=
  if catalog.isEmpty then { a with report := a.report.warn (id ++ " has an empty catalog name") }
  else
    let key : EntryKey := (catalog, r.name, r.version, r.constraints)
    match a.seen.find? (·.1 == key) with
    | some (_, first) =>
      if first == id then a
      else { a with report := a.report.error (.duplicateItem catalog r.name r.version first id) }
    | none =>
      { a with
        seen := a.seen ++ [(key, id)]
        log := a.log ++ log.detail 1 ("Adding " ++ id ++ " to " ++ catalog ++ "...") }.push catalog entry

def screen (options : CatalogOptions) (pkgs : PkgIndex) (id : String) (r : PkginfoRecord)
    (report : Report) : Except Report Report :=
  if options.skipPkgCheck then .ok report
  else match verifyItems r pkgs with
    | .ok ws => .ok (ws.foldl Report.warn report)
    | .error e =>
      let e := Error.pkginfoAccess id e
      if options.force then .ok (report.warn e.chainMessage) else .error (report.error e)

def add (options : CatalogOptions) (pkgs : PkgIndex) (log : Logger) (a : Assembly) :
    String × Except Error PkginfoRecord → Assembly
  | (_, .error e) => { a with report := a.report.error e }
  | (id, .ok r) =>
    match screen options pkgs id r a.report with
    | .error report => { a with report }
    | .ok report =>
      let entry := catalogEntry r.document
      r.catalogs.foldl (addToCatalog log id r entry) ({ a with report }.push allCatalog entry)

end Assembly

def assemble (options : CatalogOptions) (pkgs : PkgIndex) (log : Logger)
    (loaded : List (String × Except Error PkginfoRecord)) (report : Report) : Assembly :=
  loaded.foldl (Assembly.add options pkgs log) { report }

def caseCollisions (names : List String) : List String :=
  let groups := names.foldl (fun g n =>
    Sorted.alterBy compare (Text.lower n) (fun ns => ns.getD [] ++ [n]) g) []
  groups.flatMap fun (_, ns) => if ns.length > 1 then ns else []

def caseCollisionWarning (names : List String) : String :=
  "There are catalogs with names that differ only by case. This may cause issues depending " ++
    "on the case-sensitivity of the underlying filesystem: " ++ ", ".intercalate names

def hashIcons {σ : Type} [Repository σ] (s : σ) (icons : List String) (report : Report) :
    List (String × String) × Report :=
  icons.foldl (fun (hashes, report) icon =>
    match Repository.get s (Collection.icons.identifier icon) with
    | .ok data => (Sorted.alterBy compare icon (fun _ => Sha256.hexDigest data) hashes, report)
    | .error e => (hashes, report.warn ("Could not hash icon " ++ icon ++ ": " ++ e.chainMessage)))
    ([], report)

def removeStale {σ : Type} [Repository σ] (log : Logger) (assembled : List String)
    (out : CatalogReport) : Work σ CatalogReport := do
  match ← Work.attempt (Repository.itemlist · .catalogs) with
  | .error e =>
    pure { out with report := out.report.warn ("Could not list existing catalogs: " ++ e.chainMessage) }
  | .ok existing =>
    existing.foldlM (fun out name => do
      if assembled.contains name then return out
      match ← Work.change (Repository.delete · (Collection.catalogs.identifier name)) with
      | .ok () =>
        Work.say (log.info ("Removed stale catalog " ++ name))
        pure { out with staleRemoved := out.staleRemoved ++ [name] }
      | .error e => pure { out with report := out.report.error (.catalogWrite name e) }) out

def writeEncoded {σ : Type} [Repository σ] (identifier : String) (encoded : Except Error String) :
    Work σ (Except Error Unit) :=
  match encoded with
  | .ok text => Work.change (Repository.put · identifier text.toUTF8)
  | .error e => pure (.error e)

def writeCatalogs {σ : Type} [Repository σ] (options : CatalogOptions) (log : Logger)
    (catalogs : List (String × List Value)) (out : CatalogReport) : Work σ CatalogReport :=
  catalogs.foldlM (fun out (name, entries) => do
    let identifier := Collection.catalogs.identifier name
    match ← writeEncoded identifier (encode ("catalog " ++ name) (.array entries) options.format) with
    | .ok () =>
      Work.say (log.info ("Created " ++ identifier ++ "..."))
      pure { out with catalogs := out.catalogs ++ [(name, entries.length)] }
    | .error e => pure { out with report := out.report.error (.catalogWrite name e) }) out

def makeCatalogs {σ : Type} [Repository σ] (options : CatalogOptions) (log : Logger) :
    Work σ CatalogReport := do
  Work.say (log.detail 1 "Getting list of icons...")
  let icons ← Work.read (Repository.itemlist · .icons)
  let (hashes, report) := hashIcons (← get).store (icons.filter (· != iconHashesName)) {}
  let pkgs ← if options.skipPkgCheck then pure {} else do
    Work.say (log.detail 1 "Getting list of pkgs...")
    pure (PkgIndex.ofList (← Work.read (Repository.itemlist · .pkgs)))
  Work.say (log.detail 1 "Getting list of pkgsinfo...")
  let loaded ← Work.read loadAll
  let a := assemble options pkgs log loaded report
  Work.say a.log
  let names := a.catalogs.map Prod.fst
  let collisions := caseCollisions names
  let report := if collisions.isEmpty then a.report else a.report.warn (caseCollisionWarning collisions)
  let out ← removeStale log names { report }
  let out ← writeCatalogs options log a.catalogs out
  let out ← if hashes.isEmpty then pure out else do
    let identifier := Collection.icons.identifier iconHashesName
    let index := Value.dict (hashes.map fun (k, h) => (k, .string h))
    match ← writeEncoded identifier (encode "icon hashes" index .plist) with
    | .ok () =>
      Work.say (log.info ("Created " ++ identifier ++ "..."))
      pure out
    | .error e => pure { out with report := out.report.error e }
  pure { out with iconsHashed := hashes.length }

end Depot
