import ScriptDesk.Text.Edit
import ScriptDesk.Text.Offset
import ScriptDesk.Text.Replace
import ScriptDesk.Text.LineRange
import ScriptDesk.Text.Quoted
import ScriptDesk.Text.Letter
import ScriptDesk.Layout
import ScriptDesk.Path
import ScriptDesk.Diff.Unified
import ScriptDesk.Json.Reader
import ScriptDesk.Json.Printer
import ScriptDesk.Settings.Codec
import ScriptDesk.Settings.Store
import ScriptDesk.Host.Tree
import ScriptDesk.Failure
import ScriptDesk.Registry
import ScriptDesk.Session
import ScriptDesk.Disk
import ScriptDesk.Desk.Basic
import ScriptDesk.Message.Reader
import ScriptDesk.Palette
import ScriptDesk.Highlight.Shell
import ScriptDesk.Highlight.Bytes
import ScriptDesk.Desk.Report
import ScriptDesk.Terminal
import ScriptDesk.Desk.Bench
import ScriptDesk.Shell
import ScriptDesk.Main
import ScriptDesk.Proofs.Run
import ScriptDesk.Proofs.Workspace
import ScriptDesk.Proofs.Watch
import ScriptDesk.Proofs.Effect
import ScriptDesk.Proofs.UnsavedEdits
import ScriptDesk.Proofs.Lineage
import ScriptDesk.Proofs.ReadSlot
import ScriptDesk.Proofs.Check
import ScriptDesk.Proofs.Answer
import ScriptDesk.Proofs.Resolution
import ScriptDesk.Proofs.Saves
import ScriptDesk.Proofs.Coherence
import ScriptDesk.Proofs.Baseline
import ScriptDesk.Proofs.Lines
import ScriptDesk.Proofs.Layout
import ScriptDesk.Proofs.Spelling
import ScriptDesk.Proofs.Settings
import ScriptDesk.Proofs.Tree
import ScriptDesk.Proofs.Recent
import ScriptDesk.Proofs.Restart
import ScriptDesk.Proofs.Persistence
import ScriptDesk.Proofs.Suppression
import ScriptDesk.Proofs.Messages
import ScriptDesk.Proofs.Refusal
import ScriptDesk.Proofs.Shape
import ScriptDesk.Proofs.Blocks
import ScriptDesk.Proofs.Verdict
import ScriptDesk.Proofs.Saved
import ScriptDesk.Proofs.Replace
import ScriptDesk.Proofs.LineEdits
import ScriptDesk.Proofs.Listing
import ScriptDesk.Proofs.Spans
import ScriptDesk.Proofs.Colours
import ScriptDesk.Proofs.Grammar
import ScriptDesk.Proofs.Fields
import ScriptDesk.Proofs.Search
import ScriptDesk.Proofs.Script
import ScriptDesk.Proofs.Compact
import ScriptDesk.Proofs.Recorded
import ScriptDesk.Proofs.Regions
import ScriptDesk.Proofs.Patch
import ScriptDesk.Proofs.Hunks
import ScriptDesk.Proofs.Printed
import ScriptDesk.Proofs.Difference
