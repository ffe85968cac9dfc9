import Depot.Cli.Spec

namespace Depot.Cli

def toolName : String := "munki-repo"

def toolVersion : String := "0.1.0"

def toolAbout : String := "Keep a Munki repository's pkginfo, manifests and catalogs consistent"

def sharedArgs : List ArgSpec :=
  [ { id := "repo_url", long := some "repo-url", action := .value "REPO_URL", valueType := .text
      help := "Repository URL (`file://` URL or local path); use instead of REPO_PATH"
      env := some "MUNKI_REPO_URL", order := 0 },
    { id := "jobs", short := some 'j', long := some "jobs", action := .value "JOBS", valueType := .size
      help := "Number of parallel readers used while scanning the repository"
      env := some "MUNKI_REPO_JOBS", default := some "8", order := 1 },
    { id := "verbose", short := some 'v', long := some "verbose", action := .count, valueType := .count
      help := "Enable verbose output (use multiple times for more verbosity)"
      env := some "MUNKI_REPO_VERBOSE", order := 2 },
    { id := "quiet", short := some 'q', long := some "quiet", action := .flag, valueType := .bool
      help := "Silence all output except for errors", env := some "MUNKI_REPO_QUIET"
      conflicts := ["verbose"], order := 3 } ]

def helpArg (saysMore : Bool) : ArgSpec :=
  { id := "help", short := some 'h', long := some "help", action := .help
    help := if saysMore then "Print help (see more with '--help')" else "Print help"
    longHelp := if saysMore then some "Print help (see a summary with '-h')" else none }

def versionArg : ArgSpec :=
  { id := "version", short := some 'V', long := some "version", action := .version
    help := "Print version" }

def repoPathArg : ArgSpec :=
  { id := "repo_path", action := .value "REPO_PATH", valueType := .path
    help := "Path to the repository" }

structure CommandSpec where
  name : String
  about : String
  longAbout : Option String := none
  args : List ArgSpec

def repocleanSpec : CommandSpec where
  name := "repoclean"
  about := "Remove older, unused software items from the repository"
  longAbout := some ("Remove older, unused software items from the repository\n\n" ++
    "For each variant line (items sharing name, catalogs and install constraints) keeps: " ++
    "- Every version a manifest names explicitly (e.g. `Firefox-115.0`) " ++
    "- Every version another item `requires` explicitly " ++
    "- The newest `--keep` of the remaining versions\n\n" ++
    "Everything else is offered for deletion, together with installer items no pkginfo " ++
    "refers to. Installer items still used by a kept pkginfo are never deleted. " ++
    "Catalogs are rebuilt afterwards.")
  args :=
    [ { id := "keep", short := some 'k', long := some "keep", action := .value "KEEP", valueType := .size
        help := "Number of versions to keep by retention alone (0 keeps only pinned versions)"
        env := some "REPOCLEAN_KEEP", default := some "2", order := 0 },
      { id := "show_all", long := some "show-all", action := .flag, valueType := .bool
        help := "Show every item, not only those with versions to delete", order := 1 },
      { id := "auto", short := some 'a', long := some "auto", action := .flag, valueType := .bool
        help := "Delete without asking for confirmation", order := 2 },
      { id := "dry_run", long := some "dry-run", action := .flag, valueType := .bool
        help := "Show what would be deleted without deleting anything", order := 3 },
      repoPathArg ]

def makecatalogsSpec : CommandSpec where
  name := "makecatalogs"
  about := "Rebuild the catalogs from the pkginfo files"
  longAbout := some ("Rebuild the catalogs from the pkginfo files\n\n" ++
    "Every pkginfo is added to the `all` catalog and to each catalog in its `catalogs` " ++
    "array. Items whose installer is missing from `pkgs/` are left out and reported; " ++
    "duplicate items within a catalog are reported. Exits non-zero if any error was found.")
  args :=
    [ { id := "force", short := some 'f', long := some "force", action := .flag, valueType := .bool
        help := "Include items even when their installer items are missing", order := 0 },
      { id := "skip_pkg_check", short := some 's', long := some "skip-pkg-check", action := .flag
        valueType := .bool, help := "Do not check that installer items exist", order := 1 },
      { id := "yaml", long := some "yaml", action := .flag, valueType := .bool
        help := "Write catalogs as YAML instead of XML property lists", order := 2 },
      repoPathArg ]

def commandSpecs : List CommandSpec := [repocleanSpec, makecatalogsSpec]

def helpAbout : String := "Print this message or the help of the given subcommand(s)"

def CommandSpec.level (c : CommandSpec) : Level where
  path := toolName ++ " " ++ c.name
  displayName := toolName ++ "-" ++ c.name
  version := toolVersion
  about := c.about
  longAbout := c.longAbout
  args := c.args ++ sharedArgs ++ [helpArg c.longAbout.isSome, versionArg]

def helpLevel : Level where
  path := toolName ++ " help"
  displayName := toolName ++ "-help"
  version := toolVersion
  about := helpAbout
  args := [{ id := "subcommand", action := .value "COMMAND", help := "Print help for the subcommand(s)"
             many := true }]
  offersHelp := false

def topLevel : Level where
  path := toolName
  displayName := toolName
  version := toolVersion
  about := toolAbout
  args := sharedArgs ++ [helpArg false, versionArg]
  commands := commandSpecs.map (fun c => ⟨c.name, c.about, c.level.longs⟩) ++ [⟨"help", helpAbout, []⟩]

def envNames : List String :=
  (sharedArgs ++ commandSpecs.flatMap (·.args)).filterMap (·.env)

def commandLevel? (name : String) : Option Level :=
  if name == "help" then some helpLevel else (commandSpecs.find? (·.name == name)).map (·.level)

end Depot.Cli
