import SuiteSync.Adaptation.Backward
import SuiteSync.Adaptation.Basic
import SuiteSync.Adaptation.Error
import SuiteSync.Adaptation.Exclusions
import SuiteSync.Adaptation.Imports
import SuiteSync.Adaptation.Suites
import SuiteSync.Checksum.Basic
import SuiteSync.Checksum.Sha256
import SuiteSync.CommandLine.Arguments
import SuiteSync.CommandLine.Basic
import SuiteSync.CommandLine.Help
import SuiteSync.CommandLine.Run
import SuiteSync.Config.Basic
import SuiteSync.Config.Draft
import SuiteSync.Config.Load
import SuiteSync.Config.Shape
import SuiteSync.Decimal.Binary64
import SuiteSync.Decimal.Shortest
import SuiteSync.Disk.Basic
import SuiteSync.Disk.Operations
import SuiteSync.Disk.Path
import SuiteSync.Disk.Resolve
import SuiteSync.Fetch.Address
import SuiteSync.Fetch.Attempts
import SuiteSync.Fetch.Basic
import SuiteSync.Fetch.Host
import SuiteSync.Fetch.Status
import SuiteSync.FileTable
import SuiteSync.Journal
import SuiteSync.Main
import SuiteSync.Marker
import SuiteSync.Sync.Basic
import SuiteSync.Sync.Drift
import SuiteSync.Sync.Error
import SuiteSync.Sync.Pool
import SuiteSync.Text.Alphanumeric
import SuiteSync.Text.Blank
import SuiteSync.Text.Decoding
import SuiteSync.Text.Lines
import SuiteSync.Text.Quoted
import SuiteSync.Text.Search
import SuiteSync.Text.Visible
import SuiteSync.Toml.Datetime
import SuiteSync.Toml.Document
import SuiteSync.Toml.Number
import SuiteSync.Toml.Scan
import SuiteSync.Toml.Text
import SuiteSync.Toml.Value
import SuiteSync.UrlTemplate
import SuiteSync.Version.Basic
import SuiteSync.Version.Listing
import SuiteSync.Version.Resolution
import SuiteSync.Version.Tag
import SuiteSync.Proofs.Adaptation.Backward
import SuiteSync.Proofs.Adaptation.Clauses
import SuiteSync.Proofs.Adaptation.Commuting
import SuiteSync.Proofs.Adaptation.Conventional
import SuiteSync.Proofs.Adaptation.Coverage
import SuiteSync.Proofs.Adaptation.Cuts
import SuiteSync.Proofs.Adaptation.Declarations
import SuiteSync.Proofs.Adaptation.Exclusions
import SuiteSync.Proofs.Adaptation.Faithful
import SuiteSync.Proofs.Adaptation.Hits
import SuiteSync.Proofs.Adaptation.Hooks
import SuiteSync.Proofs.Adaptation.Imports
import SuiteSync.Proofs.Adaptation.InPlace
import SuiteSync.Proofs.Adaptation.Insertions
import SuiteSync.Proofs.Adaptation.Lines
import SuiteSync.Proofs.Adaptation.Marks
import SuiteSync.Proofs.Adaptation.Search
import SuiteSync.Proofs.Adaptation.Skips
import SuiteSync.Proofs.Adaptation.Suites
import SuiteSync.Proofs.Attempts
import SuiteSync.Proofs.CommandLine.Offline
import SuiteSync.Proofs.Config.Check
import SuiteSync.Proofs.Disk.Access
import SuiteSync.Proofs.Disk.Files
import SuiteSync.Proofs.Disk.History
import SuiteSync.Proofs.Disk.Joining
import SuiteSync.Proofs.Disk.Making
import SuiteSync.Proofs.Disk.Passage
import SuiteSync.Proofs.Disk.Paths
import SuiteSync.Proofs.Disk.Reset
import SuiteSync.Proofs.Disk.Same
import SuiteSync.Proofs.Disk.Walking
import SuiteSync.Proofs.Disk.Writing
import SuiteSync.Proofs.Fetch
import SuiteSync.Proofs.Interference
import SuiteSync.Proofs.Marker
import SuiteSync.Proofs.Provenance
import SuiteSync.Proofs.Settings
import SuiteSync.Proofs.Sync.Agreement
import SuiteSync.Proofs.Sync.Clean
import SuiteSync.Proofs.Sync.Confinement
import SuiteSync.Proofs.Sync.Contents
import SuiteSync.Proofs.Sync.Copies
import SuiteSync.Proofs.Sync.Drift
import SuiteSync.Proofs.Sync.Failure
import SuiteSync.Proofs.Sync.Independence
import SuiteSync.Proofs.Sync.Outputs
import SuiteSync.Proofs.Sync.Pool
import SuiteSync.Proofs.Sync.Recorded
import SuiteSync.Proofs.Sync.Report
import SuiteSync.Proofs.Sync.Requests
import SuiteSync.Proofs.Sync.Window
import SuiteSync.Proofs.Text.Decoding
import SuiteSync.Proofs.Text.Replace
import SuiteSync.Proofs.Text.Search
import SuiteSync.Proofs.UrlTemplate
import SuiteSync.Proofs.Version.Latest
import SuiteSync.Proofs.Version.Order
import SuiteSync.Proofs.Version.Tags
