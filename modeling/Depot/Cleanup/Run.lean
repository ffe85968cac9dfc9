import Depot.Catalog.Build
import Depot.Cleanup.Confirm
import Depot.Cleanup.Plan
import Depot.Manifest.Scan

namespace Depot

inductive Phase where
  | idle
  | manifestsScanned
  | pkginfoScanned
  | planReady
  | confirmed
  | aborted
  | deleted
  | catalogsRebuilt
  | done
  deriving DecidableEq, Repr, Inhabited

def Phase.name : Phase → String
  | .idle => "Idle"
  | .manifestsScanned => "ManifestsScanned"
  | .pkginfoScanned => "PkginfoScanned"
  | .planReady => "PlanReady"
  | .confirmed => "Confirmed"
  | .aborted => "Aborted"
  | .deleted => "Deleted"
  | .catalogsRebuilt => "CatalogsRebuilt"
  | .done => "Done"

inductive Outcome where
  | nothingToDelete
  | dryRun
  | aborted
  | deleted
  deriving DecidableEq, Repr, Inhabited

def Outcome.name : Outcome → String
  | .nothingToDelete => "NothingToDelete"
  | .dryRun => "DryRun"
  | .aborted => "Aborted"
  | .deleted => "Deleted"

structure CleanConfig where
  keep : Nat := 2
  showAll : Bool := false
  auto : Bool := false
  dryRun : Bool := false
  jobs : Nat := 8
  deriving Inhabited

structure CleanSummary where
  outcome : Outcome := .nothingToDelete
  manifestCount : Nat := 0
  pkginfoTotal : Nat := 0
  variantLines : Nat := 0
  planned : CleanupStats := {}
  deletedPkginfos : Nat := 0
  deletedPkgs : Nat := 0
  report : Report := {}
  catalogs : Option CatalogReport := none
  deriving Inhabited

def CleanSummary.catalogWriteFailures (s : CleanSummary) : Nat :=
  match s.catalogs with
  | some c => (c.report.errors.filter Error.isCatalogWrite).length
  | none => 0

structure Cleaning (σ γ : Type) where
  session : Session σ
  confirm : γ
  history : List Phase := [.idle]

abbrev CleanWork (σ γ : Type) := ExceptT Error (StateM (Cleaning σ γ))

namespace CleanWork

variable {σ γ α : Type}

def lift (w : Work σ α) : CleanWork σ γ α :=
  ExceptT.mk do
    let c ← get
    let (r, session) := (w.run).run c.session
    set { c with session }
    pure r

def enter (log : Logger) (p : Phase) : CleanWork σ γ Unit := do
  lift (Work.say (log.detail 2 ("[repoclean] " ++ p.name)))
  modify fun c => { c with history := c.history ++ [p] }

def ask [Confirm γ] (q : String) : CleanWork σ γ Bool := do
  let c ← get
  let (answer, confirm) := Confirm.ask c.confirm q
  set { c with confirm }
  match answer with
  | .ok b => pure b
  | .error e => throw e

def runOn (w : CleanWork σ γ α) (s : σ) (confirm : γ) : Except Error α × Cleaning σ γ :=
  (w.run).run { session := ⟨s, []⟩, confirm }

end CleanWork

def Cleaning.phase {σ γ : Type} (c : Cleaning σ γ) : Phase := c.history.getLastD .idle

def deleteQuestion : String :=
  "Delete pkginfo and pkg items marked as [to be DELETED]? WARNING: This action cannot be undone."

def sureQuestion : String := "Are you sure? This action cannot be undone."

def planFrom (config : CleanConfig) (manifests : ManifestScan) (scan : PkginfoScan)
    (orphans : List String) : CleanupPlan :=
  let plan := planCleanup scan manifests.pinnedVersions orphans config.keep
  if scan.report.hasErrors then plan.holdOrphans else plan

def analyze {σ γ : Type} [Repository σ] (config : CleanConfig) (log : Logger) :
    CleanWork σ γ (CleanupPlan × CleanSummary) := do
  CleanWork.lift (Work.say (log.info "Analyzing manifest files..."))
  let manifests ← CleanWork.lift (scanManifests log)
  CleanWork.enter log .manifestsScanned
  let loaded ← CleanWork.lift (Work.read loadAll)
  CleanWork.lift (Work.say (log.info "Analyzing pkginfo files..."))
  let s := (← get).session.store
  let scan := referenceIncompleteRecords s (indexPkgsinfo loaded manifests.referencedNames)
  CleanWork.enter log .pkginfoScanned
  let orphans ← CleanWork.lift (Work.read (findOrphans · scan.referencedPkgs))
  let plan := planFrom config manifests scan orphans
  CleanWork.enter log .planReady
  pure (plan,
    { manifestCount := manifests.manifestCount
      pkginfoTotal := scan.total
      variantLines := scan.variantLines
      planned := plan.stats
      report := manifests.report.extend scan.report })

def totalsLines (log : Logger) (s : CleanSummary) : List String :=
  log.info ("Total pkginfo items:     " ++ toString s.pkginfoTotal) ++
  log.info ("Item variants:           " ++ toString s.variantLines) ++
  log.info ("pkginfo items to delete: " ++ toString s.planned.pkginfosToDelete) ++
  log.info ("pkgs to delete:          " ++ toString s.planned.pkgsToDelete) ++
  log.info ("pkginfo space savings:   " ++ Size.format s.planned.metadataBytes) ++
  log.info ("pkg space savings:       " ++ Size.format s.planned.pkgBytes) ++
  if s.report.errors.isEmpty then []
  else log.info (toString s.report.errors.length ++
    " errors were encountered while scanning; see the list below.")

def deleteRecord {σ : Type} [Repository σ] (log : Logger) (acc : List String × CleanSummary)
    (r : PkginfoRecord) : Work σ (List String × CleanSummary) := do
  Work.say (log.detail 1 ("Deleting " ++ r.identifier))
  match ← Work.change (Repository.delete · r.identifier) with
  | .ok () => pure (acc.1, { acc.2 with deletedPkginfos := acc.2.deletedPkginfos + 1 })
  | .error e =>
    pure (acc.1 ++ r.itemLocations.map (Text.lower ·.path),
      { acc.2 with report := acc.2.report.error (.deletion r.identifier e) })

def deleteBlob {σ : Type} [Repository σ] (log : Logger) (summary : CleanSummary) (path : String) :
    Work σ CleanSummary := do
  let id := Collection.pkgs.identifier path
  Work.say (log.detail 1 ("Deleting " ++ id))
  match ← Work.change (Repository.delete · id) with
  | .ok () => pure { summary with deletedPkgs := summary.deletedPkgs + 1 }
  | .error e => pure { summary with report := summary.report.error (.deletion id e) }

def CleanupPlan.blobs (plan : CleanupPlan) (stillReferenced : List String) : List String :=
  plan.pkgsToDelete.filter (fun p => !stillReferenced.contains (Text.lower p)) ++ plan.orphansToDelete

def deletePlan {σ : Type} [Repository σ] (log : Logger) (plan : CleanupPlan) (summary : CleanSummary) :
    Work σ CleanSummary := do
  let (stillReferenced, summary) ← plan.toDelete.foldlM (deleteRecord log) (([] : List String), summary)
  (plan.blobs stillReferenced).foldlM (deleteBlob log) summary

def confirmDeletion {σ γ : Type} [Confirm γ] (config : CleanConfig) : CleanWork σ γ Bool :=
  if config.auto then pure true else do
    if ← CleanWork.ask deleteQuestion then CleanWork.ask sureQuestion else pure false

def cleanup {σ γ : Type} [Repository σ] [Confirm γ] (config : CleanConfig) (log : Logger) :
    CleanWork σ γ CleanSummary := do
  let (plan, summary) ← analyze config log
  CleanWork.lift (Work.say (log.info (plan.render config.showAll)))
  let summary := { summary with report := plan.warnings.foldl Report.warn summary.report }
  CleanWork.lift (Work.say (totalsLines log summary))
  if plan.isEmpty then
    CleanWork.lift (Work.say (log.info "Nothing to delete."))
    CleanWork.enter log .done
    return { summary with outcome := .nothingToDelete }
  if config.dryRun then
    CleanWork.enter log .done
    return { summary with outcome := .dryRun }
  let confirmed ← confirmDeletion config
  if !confirmed then
    CleanWork.lift (Work.say (log.info "Exiting without deleting anything."))
    CleanWork.enter log .aborted
    CleanWork.enter log .done
    return { summary with outcome := .aborted }
  CleanWork.enter log .confirmed
  let summary ← CleanWork.lift (deletePlan log plan summary)
  CleanWork.enter log .deleted
  CleanWork.lift (Work.say (log.info "Rebuilding catalogs..."))
  let catalogs ← CleanWork.lift (makeCatalogs { jobs := config.jobs } log)
  CleanWork.enter log .catalogsRebuilt
  CleanWork.enter log .done
  pure { summary with outcome := .deleted, catalogs := some catalogs }

end Depot
