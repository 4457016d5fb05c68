import MoquiLint.Naming
import MoquiLint.Sniff
import MoquiLint.Json.Printer
import MoquiLint.Json.Reader
import MoquiLint.Rules.Engine
import MoquiLint.Report.Codec
import MoquiLint.Report.History
import MoquiLint.Markup.Document
import MoquiLint.Markup.Writer
import MoquiLint.Text.Base64
import MoquiLint.Digest.Sha1
import MoquiLint.Config
import MoquiLint.Ignore
import MoquiLint.Terminal.Report
import MoquiLint.Config.File
import MoquiLint.Scan
import MoquiLint.Component.Owner
import MoquiLint.Store.History
import MoquiLint.Store.Cache
import MoquiLint.Lint.Basic
import MoquiLint.Lint.Pool
import MoquiLint.Git.Commit
import MoquiLint.Watch.Run
import MoquiLint.Command.Run
import MoquiLint.Main
import MoquiLint.Proofs.Utf8
import MoquiLint.Proofs.Grammar
import MoquiLint.Proofs.WrittenForm
import MoquiLint.Proofs.RoundTrip
import MoquiLint.Proofs.Walk
import MoquiLint.Proofs.NameTests
import MoquiLint.Proofs.Rows
import MoquiLint.Proofs.EntityTable
import MoquiLint.Proofs.ServiceTable
import MoquiLint.Proofs.CacheFile
import MoquiLint.Proofs.CacheTransparency
import MoquiLint.Proofs.ByteOrder
import MoquiLint.Proofs.CleanPath
import MoquiLint.Proofs.ScanSelection
import MoquiLint.Proofs.Candidates
import MoquiLint.Proofs.ConfiguredDialect
import MoquiLint.Proofs.ScannedReport
import MoquiLint.Proofs.TaskPool
import MoquiLint.Proofs.BatchOrder
import MoquiLint.Proofs.Verdict
import MoquiLint.Proofs.KnownFolders
import MoquiLint.Proofs.ComponentShares
import MoquiLint.Proofs.Incremental
import MoquiLint.Proofs.ExcludedGlobs
import MoquiLint.Proofs.FolderPath
import MoquiLint.Proofs.SpelledPath
import MoquiLint.Proofs.SavedFile
import MoquiLint.Proofs.RunHistory
import MoquiLint.Proofs.SavedCache
import MoquiLint.Proofs.Ancestry
import MoquiLint.Proofs.DeclaredName
import MoquiLint.Proofs.GatheredFiles
import MoquiLint.Proofs.NearestDescriptor
import MoquiLint.Proofs.PlacedComponent
import MoquiLint.Proofs.ComponentOrder
import MoquiLint.Proofs.PathOrder
import MoquiLint.Proofs.WatchedTree
import MoquiLint.Proofs.WatchRun
import MoquiLint.Proofs.ListedRules
import MoquiLint.Proofs.AlikeTrees
import MoquiLint.Proofs.Reruns
import MoquiLint.Proofs.FilledCache
import MoquiLint.Proofs.CachedDialect
import MoquiLint.Proofs.SkippedRules
import MoquiLint.Proofs.SingleReport
import MoquiLint.Proofs.TokenLines
import MoquiLint.Proofs.WatchBatches
import MoquiLint.Proofs.Newlines
import MoquiLint.Proofs.ParsedLines
import MoquiLint.Proofs.LinkedFolder
import MoquiLint.Proofs.StartTags
import MoquiLint.Proofs.Containment
import MoquiLint.Proofs.Capitals
import MoquiLint.Proofs.NounAdvice
import MoquiLint.Proofs.LeftOutFolders
import MoquiLint.Proofs.HaltedNodes
import MoquiLint.Proofs.OpeningTags
import MoquiLint.Proofs.SniffedTags
