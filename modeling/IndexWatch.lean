import IndexWatch.Main
import IndexWatch.Rehearsal.Stage
import IndexWatch.Workload.Watch
import IndexWatch.Proofs.Except
import IndexWatch.Proofs.Clock
import IndexWatch.Proofs.Record
import IndexWatch.Proofs.Site
import IndexWatch.Proofs.Poll.Course
import IndexWatch.Proofs.Poll.Punctuality
import IndexWatch.Proofs.Config.Acceptance
import IndexWatch.Proofs.Credentials.Loading
import IndexWatch.Proofs.Tunnel.Serving
import IndexWatch.Proofs.Tunnel.Setup
import IndexWatch.Proofs.Tunnel.Interleaving
import IndexWatch.Proofs.Catalog.Exchange
import IndexWatch.Proofs.Catalog.Relay
import IndexWatch.Proofs.Catalog.Encryption
import IndexWatch.Proofs.Workload.Readiness
import IndexWatch.Proofs.Workload.CleanerRun
import IndexWatch.Proofs.Workload.Completion
import IndexWatch.Proofs.Workload.Fetching
import IndexWatch.Proofs.Verification.Presence
import IndexWatch.Proofs.Verification.Effects
import IndexWatch.Proofs.Verification.Encryption
import IndexWatch.Proofs.Cli.Exit
import IndexWatch.Proofs.Poll.Expiry
import IndexWatch.Proofs.Poll.Extension
import IndexWatch.Proofs.Poll.Cadence
import IndexWatch.Proofs.Poll.Termination
import IndexWatch.Proofs.Poll.Attempts
import IndexWatch.Proofs.Tunnel.Lookups
import IndexWatch.Proofs.Tunnel.Window
import IndexWatch.Proofs.Verification.Timeliness
import IndexWatch.Proofs.Catalog.Matching
import IndexWatch.Proofs.Credentials.Faults
import IndexWatch.Proofs.Config.Steps
import IndexWatch.Proofs.Config.Naming
import IndexWatch.Proofs.Credentials.Trust
import IndexWatch.Proofs.Credentials.Blame
import IndexWatch.Proofs.Cluster.Request
import IndexWatch.Proofs.Cluster.Pods
