import Slipway.Command
import Slipway.CommandLine.Arguments
import Slipway.CommandLine.Grammar
import Slipway.CommandLine.Output
import Slipway.CommandLine.Program
import Slipway.Concurrency.Group
import Slipway.Concurrency.Schedule
import Slipway.Failure
import Slipway.FileTree
import Slipway.Glob.Matcher
import Slipway.Glob.Pattern
import Slipway.Log.Event
import Slipway.Log.Filter
import Slipway.Log.Level
import Slipway.Log.Logger
import Slipway.Machine
import Slipway.Main
import Slipway.Manifest.Basic
import Slipway.Manifest.Fault
import Slipway.Manifest.Lookup
import Slipway.Number.Binary64
import Slipway.Number.Numeral
import Slipway.Path
import Slipway.Proofs.Command.Answers
import Slipway.Proofs.CommandLine.Publication
import Slipway.Proofs.Concurrency.Isolation
import Slipway.Proofs.Concurrency.Observer
import Slipway.Proofs.Concurrency.Placeholders
import Slipway.Proofs.Concurrency.Refs
import Slipway.Proofs.Concurrency.Slots
import Slipway.Proofs.Concurrency.Starts
import Slipway.Proofs.FileTree.Upwards
import Slipway.Proofs.Glob.Language
import Slipway.Proofs.Glob.Memory
import Slipway.Proofs.Glob.Parts
import Slipway.Proofs.Glob.Positions
import Slipway.Proofs.Log.Precedence
import Slipway.Proofs.Manifest.Enclosing
import Slipway.Proofs.Manifest.Readings
import Slipway.Proofs.Manifest.Workspaces
import Slipway.Proofs.Publish.Attempts
import Slipway.Proofs.Publish.Pauses
import Slipway.Proofs.Publish.Turns
import Slipway.Proofs.Settings.Collecting
import Slipway.Proofs.Settings.Environment
import Slipway.Proofs.Settings.Layers
import Slipway.Proofs.Settings.Leaves
import Slipway.Proofs.Settings.Overrides
import Slipway.Proofs.Settings.Validation
import Slipway.Proofs.Task.Calls
import Slipway.Proofs.Task.Histories
import Slipway.Proofs.Task.Interruption
import Slipway.Proofs.Task.JointPlan
import Slipway.Proofs.Task.Obstacles
import Slipway.Proofs.Task.Plan
import Slipway.Proofs.Task.Reports
import Slipway.Proofs.Task.Sessions
import Slipway.Proofs.Task.Spellings
import Slipway.Proofs.Task.Standard
import Slipway.Proofs.Text.Delimiters
import Slipway.Proofs.Text.Gaps
import Slipway.Proofs.Text.Quoted
import Slipway.Proofs.Text.Replacement
import Slipway.Proofs.Text.Separators
import Slipway.Proofs.Text.Trimming
import Slipway.Proofs.Toml.Keys
import Slipway.Proofs.Trigger.Sets
import Slipway.Proofs.Workflow.Job
import Slipway.Proofs.Workflow.Lines
import Slipway.Proofs.Workflow.Outline
import Slipway.Proofs.Workflow.Render
import Slipway.Publish.Driver
import Slipway.Publish.Report
import Slipway.Settings.Basic
import Slipway.Settings.Convert
import Slipway.Settings.Load
import Slipway.Settings.Tree
import Slipway.Settings.Variables
import Slipway.Task.Order
import Slipway.Task.Registry
import Slipway.Task.Session
import Slipway.Task.Standard
import Slipway.Text.Alphanumeric
import Slipway.Text.Blank
import Slipway.Text.Json
import Slipway.Text.Quoted
import Slipway.Text.Regex
import Slipway.Text.Search
import Slipway.Text.Shapeless
import Slipway.Text.Utf8
import Slipway.Toml.Content
import Slipway.Toml.Date
import Slipway.Toml.Parser
import Slipway.Toml.Token
import Slipway.Toml.Value
import Slipway.Trigger
import Slipway.Workflow.Basic
import Slipway.Workflow.Local
import Slipway.Workflow.Render
