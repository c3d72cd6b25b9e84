import HalBench.Driver.Launch
import HalBench.Main
import HalBench.Trace.Replay
import HalBench.Shell.Installation
import HalBench.Proofs.Session.Answers
import HalBench.Proofs.Trace.Operations
import HalBench.Proofs.Trace.Crash
import HalBench.Proofs.Driver.Table
import HalBench.Proofs.Frame.Sequence
import HalBench.Proofs.Stream.Calls
import HalBench.Proofs.Driver.Operations
import HalBench.Proofs.Session.Launches
import HalBench.Proofs.Files.Replacing
import HalBench.Proofs.Trace.Cleaning
import HalBench.Proofs.Json.Depth
import HalBench.Proofs.Trace.Decoded
import HalBench.Proofs.Trace.CleanReplay
import HalBench.Proofs.Trace.Recordings
import HalBench.Proofs.Service.Name
import HalBench.Proofs.Index
import HalBench.Proofs.Tool.Launching
import HalBench.Proofs.Tool.Replay
import HalBench.Proofs.Session.Catalogs
import HalBench.Proofs.Session.Commands
import HalBench.Proofs.Session.Refused
import HalBench.Proofs.Session.Responses
import HalBench.Proofs.Frame.Whole
import HalBench.Proofs.Frame.Grammar
import HalBench.Proofs.Trace.Pairs
import HalBench.Proofs.Driver.Exchanges
import HalBench.Proofs.Driver.Requests
import HalBench.Proofs.Trace.Accounts
import HalBench.Proofs.Trace.Interfaces
import HalBench.Proofs.Trace.Clean
import HalBench.Proofs.Trace.Atomic
import HalBench.Proofs.Measurement
import HalBench.Proofs.Session.Measuring
import HalBench.Proofs.Session.Outcomes
import HalBench.Proofs.Trace.Payloads
import HalBench.Proofs.Session.Steps
import HalBench.Proofs.Driver.Watching
import HalBench.Proofs.Tool.Options
import HalBench.Proofs.Tool.Dump
import HalBench.Proofs.Trace.Versions
import HalBench.Proofs.Notifier
import HalBench.Proofs.Session.Sockets
