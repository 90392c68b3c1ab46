import Gatehouse.Configuration
import Gatehouse.AppProtect
import Gatehouse.Dos
import Gatehouse.Metrics
import Gatehouse.Main
import Gatehouse.Proofs.Text.Alphabet
import Gatehouse.Proofs.Text.Blank
import Gatehouse.Proofs.Text.Numeral
import Gatehouse.Proofs.Text.Pattern
import Gatehouse.Proofs.Key
import Gatehouse.Proofs.Seniority
import Gatehouse.Proofs.Change
import Gatehouse.Proofs.Change.Squashed
import Gatehouse.Proofs.CommandLine
import Gatehouse.Proofs.Contest
import Gatehouse.Proofs.Tournament
import Gatehouse.Proofs.Format.Balancing
import Gatehouse.Proofs.Format.Destination
import Gatehouse.Proofs.Format.DnsName
import Gatehouse.Proofs.Format.Escaped
import Gatehouse.Proofs.Format.Grammar
import Gatehouse.Proofs.Format.Listed
import Gatehouse.Proofs.Format.Plain
import Gatehouse.Proofs.Format.Quantity
import Gatehouse.Proofs.Resource
import Gatehouse.Proofs.Store
import Gatehouse.Proofs.Wire
import Gatehouse.Proofs.Validation.Annotations
import Gatehouse.Proofs.Validation.Basic
import Gatehouse.Proofs.Validation.Enabling
import Gatehouse.Proofs.Validation.GlobalConfiguration
import Gatehouse.Proofs.Validation.Ingress
import Gatehouse.Proofs.Validation.References
import Gatehouse.Proofs.Validation.TransportServer
import Gatehouse.Proofs.Validation.VirtualServer
import Gatehouse.Proofs.Plan.Changes
import Gatehouse.Proofs.Plan.Core
import Gatehouse.Proofs.Plan.Holders
import Gatehouse.Proofs.Plan.Hosts
import Gatehouse.Proofs.Plan.Listeners
import Gatehouse.Proofs.Plan.Minions
import Gatehouse.Proofs.Plan.Ownership
import Gatehouse.Proofs.Plan.Problems
import Gatehouse.Proofs.Plan.Releases
import Gatehouse.Proofs.Plan.Rendered
import Gatehouse.Proofs.Configuration.Accounts
import Gatehouse.Proofs.Configuration.Answer
import Gatehouse.Proofs.Configuration.Causes
import Gatehouse.Proofs.Configuration.Copy
import Gatehouse.Proofs.Configuration.Counts
import Gatehouse.Proofs.Configuration.Delegation
import Gatehouse.Proofs.Configuration.Gates
import Gatehouse.Proofs.Configuration.InRange
import Gatehouse.Proofs.Configuration.Notification
import Gatehouse.Proofs.Configuration.Ownership
import Gatehouse.Proofs.Configuration.Parts
import Gatehouse.Proofs.Configuration.Paths
import Gatehouse.Proofs.Configuration.Provenance
import Gatehouse.Proofs.Configuration.Rejection
import Gatehouse.Proofs.Configuration.Release
import Gatehouse.Proofs.Configuration.Run
import Gatehouse.Proofs.Configuration.Settled
import Gatehouse.Proofs.Configuration.Silence
import Gatehouse.Proofs.AppProtect.Copy
import Gatehouse.Proofs.AppProtect.Listing
import Gatehouse.Proofs.AppProtect.Notification
import Gatehouse.Proofs.AppProtect.Requirements
import Gatehouse.Proofs.AppProtect.Tags
import Gatehouse.Proofs.AppProtect.Usability
import Gatehouse.Proofs.Dos.Copy
import Gatehouse.Proofs.Dos.Run
import Gatehouse.Proofs.Controller.Dependents
import Gatehouse.Proofs.Controller.Run
import Gatehouse.Proofs.Controller.Secrets
