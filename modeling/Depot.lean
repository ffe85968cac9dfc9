import Depot.Version.Split
import Depot.Version.Order
import Depot.Size
import Depot.Binary64.Basic
import Depot.Binary64.Read
import Depot.Binary64.Shortest
import Depot.Text.Base64
import Depot.Metadata.Date
import Depot.Metadata.Value
import Depot.Metadata.Plist.Writer
import Depot.Text.Printable
import Depot.Text.Quoted
import Depot.Metadata.Mismatch
import Depot.Metadata.Shape
import Depot.Metadata.Plist.Event
import Depot.Metadata.Plist.Fault
import Depot.Metadata.Plist.Decode
import Depot.Metadata.Plist.Reader
import Depot.Metadata.Plist.Binary
import Depot.Metadata.Plist.OpenStep
import Depot.Yaml.Mark
import Depot.Yaml.Input
import Depot.Yaml.Resolve
import Depot.Yaml.Token
import Depot.Yaml.Token.Scalar
import Depot.Yaml.Token.Tag
import Depot.Yaml.Token.Scan
import Depot.Yaml.Event
import Depot.Yaml.Failure
import Depot.Yaml.Document
import Depot.Yaml.Decode
import Depot.Yaml.Writer
import Depot.Error
import Depot.Metadata.Format
import Depot.Pkginfo.Record
import Depot.Pkginfo.Signature
import Depot.Manifest
import Depot.Text.Cased
import Depot.Text.CaseIgnorable
import Depot.Text.Lower
import Depot.Sorted
import Depot.Repository.Basic
import Depot.Repository.Memory
import Depot.Report
import Depot.Session
import Depot.Manifest.Scan
import Depot.Pkginfo.Load
import Depot.Cleanup.Index
import Depot.Cleanup.Plan
import Depot.Digest.Sha256
import Depot.Catalog.Verify
import Depot.Catalog.Build
import Depot.Text.Space
import Depot.Cleanup.Confirm
import Depot.Cleanup.Run
import Depot.Disk.Name
import Depot.Disk.Tree
import Depot.Disk.Walk
import Depot.Repository.Files
import Depot.Text.Packed
import Depot.Text.CombiningClass
import Depot.Text.Decomposition
import Depot.Text.Normalize
import Depot.Text.Mark
import Depot.Text.Bidi
import Depot.Text.Joining
import Depot.Text.Idna.Mapping
import Depot.Text.Idna.Punycode
import Depot.Text.Idna
import Depot.Text.Url
import Depot.Repository.Location
import Depot.Cli.Spec
import Depot.Cli.Similar
import Depot.Cli.Help
import Depot.Cli.UsageError
import Depot.Cli.Parse
import Depot.Cli.Grammar
import Depot.Cli.Invocation
import Depot.Cli.Execute
import Depot.Text.BreakClass
import Depot.Text.LineBreak
import Depot.Text.Width
import Depot.Text.Alphanumeric
import Depot.Text.Fill
import Depot.Cli.Diagnostic
import Depot.Cli.Tool
import Depot.Main
import Depot.Proofs.Effects
import Depot.Proofs.Sorted
import Depot.Proofs.Phases
import Depot.Proofs.Index
import Depot.Proofs.Plan
import Depot.Proofs.Analysis
import Depot.Proofs.Deletion
import Depot.Proofs.Retention
import Depot.Proofs.Installers
import Depot.Proofs.Paths
import Depot.Proofs.Calls
import Depot.Proofs.ListingOrder
import Depot.Proofs.Assembly
import Depot.Proofs.Resources
import Depot.Proofs.Rebuild
import Depot.Proofs.VersionOrder
import Depot.Proofs.Decisions
import Depot.Proofs.ItemPaths
import Depot.Proofs.HyphenSplit
import Depot.Proofs.ManifestReferences
import Depot.Proofs.ReferencedNames
import Depot.Proofs.ByteTotals
import Depot.Proofs.PlanTotals
import Depot.Proofs.SignatureKey
import Depot.Proofs.PathResolution
import Depot.Proofs.SeparatorSplit
import Depot.Proofs.VersionRuns
