import ContainerEntry.Account
import ContainerEntry.Bus.ConnectHelper
import ContainerEntry.Bus.Dial
import ContainerEntry.Bus.Registry
import ContainerEntry.Bus.Splice
import ContainerEntry.Bytes
import ContainerEntry.Caller
import ContainerEntry.CommandLine.Grammar
import ContainerEntry.CommandLine.Invocation
import ContainerEntry.Container.Basic
import ContainerEntry.Container.Config
import ContainerEntry.Door.Lifecycle
import ContainerEntry.Door.Words
import ContainerEntry.Entry.Launch
import ContainerEntry.Entry.Request
import ContainerEntry.Entry.Spec
import ContainerEntry.Entry.Streams
import ContainerEntry.Environ
import ContainerEntry.Errno
import ContainerEntry.Failure
import ContainerEntry.Filesystem.Change
import ContainerEntry.Filesystem.Tree
import ContainerEntry.Glob.Bracket
import ContainerEntry.Glob.Language
import ContainerEntry.Glob.Match
import ContainerEntry.Inventory
import ContainerEntry.Json.Scan
import ContainerEntry.Lock.Acquire
import ContainerEntry.Lock.Contention
import ContainerEntry.Lock.Holders
import ContainerEntry.Lock.Level
import ContainerEntry.LogFilter
import ContainerEntry.Main
import ContainerEntry.Path
import ContainerEntry.Process.ExitStatus
import ContainerEntry.Process.Program
import ContainerEntry.Process.WaitStatus
import ContainerEntry.Proofs.Basic
import ContainerEntry.Proofs.Bus.Dial
import ContainerEntry.Proofs.Bus.Splice
import ContainerEntry.Proofs.Caller
import ContainerEntry.Proofs.CommandLine.Arguments
import ContainerEntry.Proofs.CommandLine.Reading
import ContainerEntry.Proofs.CommandLine.Writing
import ContainerEntry.Proofs.Container.Containment
import ContainerEntry.Proofs.Container.Socket
import ContainerEntry.Proofs.Door.BusLabel
import ContainerEntry.Proofs.Door.Lifecycle
import ContainerEntry.Proofs.Entry.Assignments
import ContainerEntry.Proofs.Entry.Changes
import ContainerEntry.Proofs.Entry.Launch
import ContainerEntry.Proofs.Entry.RoundTrip
import ContainerEntry.Proofs.Entry.Splitting
import ContainerEntry.Proofs.Environ
import ContainerEntry.Proofs.Filesystem.Below
import ContainerEntry.Proofs.Filesystem.Entries
import ContainerEntry.Proofs.Filesystem.Growth
import ContainerEntry.Proofs.Filesystem.Names
import ContainerEntry.Proofs.Filesystem.Walk
import ContainerEntry.Proofs.Glob.Language
import ContainerEntry.Proofs.Glob.Match
import ContainerEntry.Proofs.Inventory
import ContainerEntry.Proofs.Inventory.Hiding
import ContainerEntry.Proofs.Inventory.Patterns
import ContainerEntry.Proofs.Inventory.Selection
import ContainerEntry.Proofs.Lock.Acquisition
import ContainerEntry.Proofs.Lock.Contention
import ContainerEntry.Proofs.Lock.Exclusion
import ContainerEntry.Proofs.Lock.Tally
import ContainerEntry.Proofs.Process.ExitStatus
import ContainerEntry.Proofs.Pty.Acceptance
import ContainerEntry.Proofs.Pty.Handoff
import ContainerEntry.Proofs.Relay.Copier
import ContainerEntry.Proofs.Relay.Delivery
import ContainerEntry.Proofs.Relay.Drive
import ContainerEntry.Proofs.Relay.Ending
import ContainerEntry.Proofs.Relay.Script
import ContainerEntry.Proofs.SecurityLabel
import ContainerEntry.Proofs.Settings
import ContainerEntry.Proofs.Settings.Loading
import ContainerEntry.Proofs.Stop.Course
import ContainerEntry.Proofs.Terminal.Desk
import ContainerEntry.Proofs.Terminal.RawMode
import ContainerEntry.Proofs.Text.Decimal
import ContainerEntry.Proofs.World.Addressing
import ContainerEntry.Proofs.World.Directory
import ContainerEntry.Proofs.World.Influence
import ContainerEntry.Proofs.World.MachineName
import ContainerEntry.Proofs.World.TypedCommand
import ContainerEntry.Proofs.World.UnitQueries
import ContainerEntry.Pty.Channel
import ContainerEntry.Pty.Client
import ContainerEntry.Pty.Handoff
import ContainerEntry.Relay.Copier
import ContainerEntry.Relay.Copy
import ContainerEntry.Relay.Delivery
import ContainerEntry.Relay.Drive
import ContainerEntry.SecurityLabel
import ContainerEntry.Settings
import ContainerEntry.Signal
import ContainerEntry.Stop
import ContainerEntry.Stop.Course
import ContainerEntry.StopSignal
import ContainerEntry.Terminal
import ContainerEntry.Terminal.Desk
import ContainerEntry.Text.Decimal
import ContainerEntry.Text.Utf8
import ContainerEntry.Toml.Document
import ContainerEntry.Toml.Item
import ContainerEntry.Toml.Number
import ContainerEntry.Toml.Text
import ContainerEntry.World.Basic
import ContainerEntry.World.Door
import ContainerEntry.World.Run
import ContainerEntry.World.Session
