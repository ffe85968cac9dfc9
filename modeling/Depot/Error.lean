import Depot.Metadata.Plist.Fault
import Depot.Yaml.Failure

namespace Depot

inductive IoKind where
  | notFound
  | permissionDenied
  | invalidInput
  | invalidData
  | alreadyExists
  | isADirectory
  | notADirectory
  | directoryNotEmpty
  | filesystemLoop
  | invalidFilename
  | other
  deriving DecidableEq, Repr, Inhabited

def IoKind.name : IoKind → String
  | .notFound => "NotFound"
  | .permissionDenied => "PermissionDenied"
  | .invalidInput => "InvalidInput"
  | .invalidData => "InvalidData"
  | .alreadyExists => "AlreadyExists"
  | .isADirectory => "IsADirectory"
  | .notADirectory => "NotADirectory"
  | .directoryNotEmpty => "DirectoryNotEmpty"
  | .filesystemLoop => "FilesystemLoop"
  | .invalidFilename => "InvalidFilename"
  | .other => "Other"

structure IoFailure where
  kind : IoKind
  message : String
  fromLibrary : Bool
  causes : List String := []
  deriving DecidableEq, Repr, Inhabited

namespace IoFailure

def injected : IoFailure := ⟨.permissionDenied, "injected failure", true, []⟩

def nulInName : IoFailure := ⟨.invalidInput, "file name contained an unexpected NUL byte", true, []⟩

def escapesRoot : IoFailure :=
  ⟨.invalidInput, "resource identifier must be relative to the repository root", true, []⟩

def systemMessage : IoKind → String
  | .notFound => "No such file or directory (os error 2)"
  | .permissionDenied => "Permission denied (os error 13)"
  | .alreadyExists => "File exists (os error 17)"
  | .isADirectory => "Is a directory (os error 21)"
  | .notADirectory => "Not a directory (os error 20)"
  | .directoryNotEmpty => "Directory not empty (os error 39)"
  | .filesystemLoop => "Too many levels of symbolic links (os error 40)"
  | .invalidInput => "Invalid argument (os error 22)"
  | .invalidFilename => "File name too long (os error 36)"
  | .invalidData => "Invalid data"
  | .other => "Other error"

def system (kind : IoKind) : IoFailure := ⟨kind, systemMessage kind, false, []⟩

end IoFailure

inductive ItemRole where
  | installer
  | uninstaller
  deriving DecidableEq, Repr, Inhabited

def ItemRole.word : ItemRole → String
  | .installer => "installer"
  | .uninstaller => "uninstaller"

def ItemRole.locationKey : ItemRole → String
  | .installer => "installer_item_location"
  | .uninstaller => "uninstaller_item_location"

inductive ParseFailure where
  | plist (f : Plist.Failure)
  | yaml (f : Yaml.Failure)
  deriving Repr, Inhabited

def ParseFailure.chain : ParseFailure → List String
  | .plist f => f.chain
  | .yaml f => [f.message]

inductive Error where
  | repoConnection (url reason : String)
  | notFound (identifier : String)
  | access (identifier : String) (failure : IoFailure)
  | parse (identifier : String) (cause : ParseFailure)
  | missingField (identifier : String) (field : String)
  | pkginfoAccess (identifier : String) (cause : Error)
  | missingItem (role : ItemRole) (location : String)
  | missingLocation (role : ItemRole)
  | duplicateItem (catalog name version first second : String)
  | catalogWrite (name : String) (cause : Error)
  | deletion (identifier : String) (cause : Error)
  | serialization (what : String)
  | config (message : String)
  | commandFailed (command : String) (count : Nat)
  deriving Repr, Inhabited

namespace Error

def message : Error → String
  | .repoConnection url reason => "Could not connect to repository '" ++ url ++ "': " ++ reason
  | .notFound id => "'" ++ id ++ "' does not exist in the repository"
  | .access id _ => "I/O error accessing '" ++ id ++ "'"
  | .parse id _ => "Could not parse '" ++ id ++ "'"
  | .missingField id field => "'" ++ id ++ "' is missing " ++ field
  | .pkginfoAccess id _ => "Problem with pkginfo '" ++ id ++ "'"
  | .missingItem role location => "refers to missing " ++ role.word ++ " item: " ++ location
  | .missingLocation role => "is missing " ++ role.locationKey
  | .duplicateItem catalog name version first second =>
    "Catalog '" ++ catalog ++ "' contains duplicate item " ++ name ++ "-" ++ version ++ " from '" ++
      first ++ "' and '" ++ second ++ "'"
  | .catalogWrite name _ => "Failed to write catalog '" ++ name ++ "'"
  | .deletion id _ => "Failed to delete '" ++ id ++ "'"
  | .serialization what => "Failed to serialize " ++ what
  | .config m => "Configuration error: " ++ m
  | .commandFailed command count => command ++ " finished with " ++ toString count ++ " error(s)"

def chain : Error → List String
  | .access id f => message (.access id f) :: f.message :: f.causes
  | .parse id c => message (.parse id c) :: c.chain
  | .pkginfoAccess id e => message (.pkginfoAccess id e) :: chain e
  | .catalogWrite name e => message (.catalogWrite name e) :: chain e
  | .deletion id e => message (.deletion id e) :: chain e
  | .serialization what =>
    -- the only value the YAML writer refuses is raw data
    [message (.serialization what), "serialization and deserialization of bytes in YAML is not implemented"]
  | e => [message e]

def chainMessage (e : Error) : String := ": ".intercalate e.chain

def kindName : Error → String
  | .repoConnection .. => "RepoConnection"
  | .notFound .. => "NotFound"
  | .access .. => "Access"
  | .parse .. => "Parse"
  | .missingField .. => "MissingRequiredField"
  | .pkginfoAccess .. => "PkginfoAccess"
  | .missingItem .. => "MissingItem"
  | .missingLocation .. => "MissingLocation"
  | .duplicateItem .. => "DuplicateItem"
  | .catalogWrite .. => "CatalogWrite"
  | .deletion .. => "Deletion"
  | .serialization .. => "Serialization"
  | .config .. => "ConfigError"
  | .commandFailed .. => "CommandFailed"

def code : Error → String
  | .repoConnection .. => "munki_repo::repo::connection"
  | .notFound .. => "munki_repo::repo::not_found"
  | .access .. => "munki_repo::repo::access"
  | .parse .. => "munki_repo::metadata::parse"
  | .missingField .. => "munki_repo::pkginfo::missing_field"
  | .pkginfoAccess .. => "munki_repo::catalogs::pkginfo_access"
  | .missingItem .. => "munki_repo::catalogs::missing_item"
  | .missingLocation .. => "munki_repo::catalogs::missing_location"
  | .duplicateItem .. => "munki_repo::catalogs::duplicate"
  | .catalogWrite .. => "munki_repo::catalogs::write"
  | .deletion .. => "munki_repo::clean::deletion"
  | .serialization .. => "munki_repo::metadata::serialization"
  | .config .. => "munki_repo::config::error"
  | .commandFailed .. => "munki_repo::command_failed"

def help? : Error → Option String
  | .repoConnection .. => some "Pass a local path or a file:// URL to a mounted repository."
  | .parse .. => some "Check the file with `plutil -lint` (plist) or a YAML linter."
  | .duplicateItem .. => some "Remove one of the pkginfo files or give them different catalogs."
  | .config .. => some "Check the required configuration parameters."
  | _ => none

def isCatalogWrite : Error → Bool
  | .catalogWrite .. => true
  | _ => false

end Error

end Depot
