import Judge.Checker.Diff
import Judge.Main
import Judge.Proofs.Archive.Kept
import Judge.Proofs.Archive.ScoreFile
import Judge.Proofs.Archive.Session
import Judge.Proofs.Archive.Shares
import Judge.Proofs.Checker.Bytes
import Judge.Proofs.Export.Reimport
import Judge.Proofs.Import.Errors
import Judge.Proofs.Import.Frame
import Judge.Proofs.Import.Interleaved
import Judge.Proofs.Import.Layout
import Judge.Proofs.Language.Registry
import Judge.Proofs.Sandbox.BoxFiles
import Judge.Proofs.Sandbox.Pool
import Judge.Proofs.Store.FailedSave
import Judge.Sandbox.Scripted
import Judge.Slug
import Judge.Store.Faulty
import Judge.Store.Memory
import Judge.Task.Execute
import Judge.Proofs.Store.LastWrite
import Judge.Proofs.Host.Storing
import Judge.Proofs.Task.Compile
import Judge.Proofs.Task.Execute
import Judge.Proofs.Task.Check
import Judge.Proofs.Sandbox.Account
import Judge.Proofs.Sandbox.Cleanup
