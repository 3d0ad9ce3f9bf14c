import LuaBundler.Bundle.Entry
import LuaBundler.Bundle.Layout
import LuaBundler.Bundle.Options
import LuaBundler.Bundle.Termination
import LuaBundler.Bundle.Walk
import LuaBundler.CommandLine.Arguments
import LuaBundler.CommandLine.Program
import LuaBundler.Disk.Basic
import LuaBundler.Disk.Changes
import LuaBundler.Disk.Fault
import LuaBundler.Disk.Lookup
import LuaBundler.Disk.Scan
import LuaBundler.Disk.Write
import LuaBundler.EntryPrelude
import LuaBundler.Failure
import LuaBundler.Log
import LuaBundler.Log.Filter
import LuaBundler.Lua.Comments
import LuaBundler.Lua.PluginRegion
import LuaBundler.Lua.Quoted
import LuaBundler.Lua.Registration
import LuaBundler.Lua.Require
import LuaBundler.Lua.Segment
import LuaBundler.Main
import LuaBundler.Module.Loader
import LuaBundler.Module.Name
import LuaBundler.Module.Resolver
import LuaBundler.Module.Store
import LuaBundler.Path
import LuaBundler.Project
import LuaBundler.Session
import LuaBundler.Settings.Basic
import LuaBundler.Settings.Document
import LuaBundler.Settings.Load
import LuaBundler.Settings.Sources
import LuaBundler.Text.Blank
import LuaBundler.Text.CharSet
import LuaBundler.Text.ControlSequence
import LuaBundler.Text.Ends
import LuaBundler.Text.Hex
import LuaBundler.Text.Lines
import LuaBundler.Text.Pattern
import LuaBundler.Text.Pattern.Bracket
import LuaBundler.Text.Pattern.Escape
import LuaBundler.Text.Pattern.Form
import LuaBundler.Text.Pattern.Mode
import LuaBundler.Text.Pattern.Reader
import LuaBundler.Text.Pattern.Size
import LuaBundler.Text.Unicode.Age
import LuaBundler.Text.Unicode.Break
import LuaBundler.Text.Unicode.CaseFolding
import LuaBundler.Text.Unicode.Category
import LuaBundler.Text.Unicode.Derived
import LuaBundler.Text.Unicode.Listed
import LuaBundler.Text.Unicode.Query
import LuaBundler.Text.Unicode.Script
import LuaBundler.Text.Unicode.ScriptExtension
import LuaBundler.Text.Utf8
import LuaBundler.Text.Utf8.Range
import LuaBundler.Text.WordChar
import LuaBundler.Proofs.Resolution
import LuaBundler.Proofs.Reachability
import LuaBundler.Proofs.SharedStore
import LuaBundler.Proofs.DepthFirst
import LuaBundler.Proofs.Literal
import LuaBundler.Proofs.Provenance
import LuaBundler.Proofs.SelfContained
import LuaBundler.Proofs.Lines
import LuaBundler.Proofs.Segments
import LuaBundler.Proofs.Tidying
import LuaBundler.Proofs.Regions
import LuaBundler.Proofs.Layout
import LuaBundler.Proofs.Blocks
import LuaBundler.Proofs.BlockLayout
import LuaBundler.Proofs.Decoding
import LuaBundler.Proofs.LineEnds
import LuaBundler.Proofs.LineEndScan
import LuaBundler.Proofs.LineEndBundles
import LuaBundler.Proofs.Requests
import LuaBundler.Proofs.SessionHistory
import LuaBundler.Proofs.Paths
import LuaBundler.Proofs.Tree
import LuaBundler.Proofs.Answers
import LuaBundler.Proofs.Runs
import LuaBundler.Proofs.Scripts
import LuaBundler.Proofs.Mixins
import LuaBundler.Proofs.Grammar
import LuaBundler.Proofs.Thinning
import LuaBundler.Proofs.Restripping
import LuaBundler.Proofs.Tokens
import LuaBundler.Proofs.Layering
import LuaBundler.Proofs.Closed
import LuaBundler.Proofs.Indentation
import LuaBundler.Proofs.Registration
import LuaBundler.Proofs.Calls
import LuaBundler.Proofs.ComputedCalls
import LuaBundler.Proofs.NamesTaken
import LuaBundler.Proofs.JoinedCalls
import LuaBundler.Proofs.VisitOrder
import LuaBundler.Proofs.UserOrder
import LuaBundler.Proofs.ModulePaths
import LuaBundler.Proofs.Links
import LuaBundler.Proofs.OutputPaths
import LuaBundler.Proofs.MixinRoots
import LuaBundler.Proofs.OneScan
import LuaBundler.Proofs.Escapes
import LuaBundler.Proofs.Utf8Bytes
import LuaBundler.Proofs.ByteScan
import LuaBundler.Proofs.ByteTurns
