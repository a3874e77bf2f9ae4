import RevisionLog.Main
import RevisionLog.Proofs.CompactionReads
import RevisionLog.Proofs.CompareAndSwap
import RevisionLog.Proofs.Lifetimes
import RevisionLog.Proofs.StaleWrites
import RevisionLog.Rehearsal
import RevisionLog.Store.Session
import RevisionLog.Proofs.Snapshot
import RevisionLog.Proofs.Installation
import RevisionLog.Proofs.Journal
import RevisionLog.Proofs.PatternSpec
import RevisionLog.Proofs.CompactionRace
import RevisionLog.Proofs.Polling
import RevisionLog.Proofs.Register
import RevisionLog.Proofs.CurrentRevision
import RevisionLog.Proofs.Sentinel
import RevisionLog.Proofs.Actions
import RevisionLog.Proofs.ReservedName
import RevisionLog.Proofs.Answers
import RevisionLog.Proofs.NamePatterns
import RevisionLog.Proofs.FreshIds
import RevisionLog.Proofs.ReadBack
import RevisionLog.Proofs.Operations
import RevisionLog.Proofs.FailedWrites
import RevisionLog.Proofs.CompactionResidue
import RevisionLog.Proofs.Twins
import RevisionLog.Proofs.WorkspaceSpec
import RevisionLog.Proofs.Reinstallation
import RevisionLog.Proofs.Markers
import RevisionLog.Proofs.Numbering
import RevisionLog.Proofs.TemplateParameters
import RevisionLog.Proofs.ByteOrder
import RevisionLog.Proofs.Listing
import RevisionLog.Proofs.Counts
import RevisionLog.Proofs.SweepLaws
import RevisionLog.Proofs.Pagination
import RevisionLog.Proofs.InstallationTrace
import RevisionLog.Proofs.JsonText
import RevisionLog.Proofs.JsonShape
import RevisionLog.Proofs.RecordJson
import RevisionLog.Proofs.CollapsedText
