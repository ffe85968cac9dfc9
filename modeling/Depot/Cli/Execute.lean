import Depot.Cli.Invocation
import Depot.Cleanup.Run

namespace Depot.Cli

def SharedOptions.logger (s : SharedOptions) : Logger :=
  { verbose := if s.quiet then 0 else s.verbose, quiet := s.quiet }

def CleanArgs.config (a : CleanArgs) (jobs : Nat) : CleanConfig :=
  { keep := a.keep, showAll := a.showAll, auto := a.auto, dryRun := a.dryRun, jobs }

def CatalogArgs.options (a : CatalogArgs) (jobs : Nat) : CatalogOptions :=
  { force := a.force, skipPkgCheck := a.skipPkgCheck, format := if a.yaml then .yaml else .plist, jobs }

def summaryLines (log : Logger) (s : CleanSummary) : List String :=
  (match s.outcome with
    | .nothingToDelete | .aborted => []
    | .dryRun => log.info "Dry run: nothing was deleted."
    | .deleted =>
      log.info ("Deleted " ++ toString s.deletedPkginfos ++ " pkginfo items and " ++
        toString s.deletedPkgs ++ " pkgs.") ++
      (if s.deletedPkginfos == s.planned.pkginfosToDelete && s.deletedPkgs == s.planned.pkgsToDelete then
        log.info ("Reclaimed " ++ Size.format s.planned.metadataBytes ++ " of pkginfo and " ++
          Size.format s.planned.pkgBytes ++ " of pkgs.")
      else [])) ++
  (if s.report.errors.isEmpty then []
   else log.info (toString s.report.errors.length ++ " errors were encountered."))

def repocleanCommand {σ γ : Type} [Repository σ] [Confirm γ] (config : CleanConfig) (log : Logger) :
    CleanWork σ γ Unit := do
  let s ← cleanup config log
  CleanWork.lift (Work.say (summaryLines log s ++ s.report.lines log ++
    match s.catalogs with
    | some c => c.report.lines log
    | none => []))
  let failures := s.catalogWriteFailures
  if failures > 0 then throw (.commandFailed "repoclean" failures)

def makecatalogsCommand {σ : Type} [Repository σ] (options : CatalogOptions) (log : Logger) :
    Work σ Unit := do
  let outcome ← makeCatalogs options log
  Work.say (outcome.report.lines log ++
    outcome.catalogs.flatMap fun (name, n) => log.detail 1 ("  " ++ name ++ ": " ++ toString n ++ " items"))
  if outcome.hasErrors then throw (.commandFailed "makecatalogs" outcome.report.errors.length)

def Invocation.run {σ γ : Type} [Repository σ] [Confirm γ] (inv : Invocation) : CleanWork σ γ Unit :=
  let log := inv.shared.logger
  match inv.command with
  | .repoclean a => repocleanCommand (a.config inv.shared.jobs) log
  | .makecatalogs a => CleanWork.lift (makecatalogsCommand (a.options inv.shared.jobs) log)

end Depot.Cli
