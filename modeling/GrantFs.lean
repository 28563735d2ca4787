import GrantFs.Text.Utf8
import GrantFs.Text.Boundary
import GrantFs.Text.Cut
import GrantFs.Text.Lines
import GrantFs.Text.Base64
import GrantFs.Unicode.CaseFolding
import GrantFs.Json.Printer
import GrantFs.Entry
import GrantFs.Directory.Tree
import GrantFs.Diff.Unified
import GrantFs.Glob
import GrantFs.MediaType
import GrantFs.Edit
import GrantFs.Policy
import GrantFs.Regex.Scan
import GrantFs.Access
import GrantFs.Handle
import GrantFs.Store.Memory
import GrantFs.Os.Tree
import GrantFs.Store.Disk
import GrantFs.Service
import GrantFs.Tool
import GrantFs.Settings
import GrantFs.Mount
import GrantFs.Cli.Grammar
import GrantFs.Cli
import GrantFs.Main
import GrantFs.Proofs.Capability
import GrantFs.Proofs.MemoryRun
import GrantFs.Proofs.Refinement
import GrantFs.Proofs.Confidentiality
import GrantFs.Proofs.PolicySafety
import GrantFs.Proofs.WriteFailure
import GrantFs.Proofs.DiskDelete
import GrantFs.Proofs.OsWalk
import GrantFs.Proofs.SnapshotExact
import GrantFs.Proofs.HandleRun
import GrantFs.Proofs.Containment
import GrantFs.Proofs.Mirror
import GrantFs.Proofs.Agreement
import GrantFs.Proofs.Opening
import GrantFs.Proofs.EditRun
import GrantFs.Proofs.Aliases
import GrantFs.Proofs.ReadBack
import GrantFs.Proofs.Linkless
import GrantFs.Proofs.Isolation
import GrantFs.Proofs.Renewal
import GrantFs.Proofs.SharedHandle
import GrantFs.Proofs.Footprint
import GrantFs.Proofs.DirectoryViews
import GrantFs.Proofs.DirectoryTree
import GrantFs.Proofs.DirectorySizes
import GrantFs.Proofs.ReadLimits
import GrantFs.Proofs.Paging
import GrantFs.Proofs.CommandRuns
import GrantFs.Proofs.ScanModes
import GrantFs.Proofs.EditSequence
import GrantFs.Proofs.EditReports
import GrantFs.Proofs.Pruning
import GrantFs.Proofs.OutputLines
import GrantFs.Proofs.Search
import GrantFs.Proofs.RoundTrip
import GrantFs.Proofs.GrantAlgebra
import GrantFs.Proofs.PathGrammar
