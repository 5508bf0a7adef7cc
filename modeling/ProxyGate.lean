import ProxyGate.Connection.Roster
import ProxyGate.Main
import ProxyGate.Proofs.Connection.Balance
import ProxyGate.Proofs.Header.RoundTrip
import ProxyGate.Proofs.Listener.Admission
import ProxyGate.Proofs.Server.Accounts
import ProxyGate.Proofs.Server.Alone
import ProxyGate.Proofs.Server.Policy
import ProxyGate.Proofs.Server.Settled
import ProxyGate.Proofs.Server.Stopping
import ProxyGate.Proofs.Shutdown
import ProxyGate.Proofs.Sniff.Agreement
import ProxyGate.Proofs.Sniff.Chunking
import ProxyGate.Proofs.Sniff.Conservation
import ProxyGate.Proofs.Sniff.Deadline
import ProxyGate.Proofs.Sniff.Relay
import ProxyGate.Proofs.Header.Refusal
import ProxyGate.Proofs.Config.Report
import ProxyGate.Proofs.Header.Canonical
import ProxyGate.Proofs.Stream.Transparency
import ProxyGate.Proofs.Config.Reordering
import ProxyGate.Proofs.Http.Client
import ProxyGate.Proofs.Command.Launch
import ProxyGate.Proofs.Config.Defaults
import ProxyGate.Proofs.Connection.Report
import ProxyGate.Proofs.Messages
import ProxyGate.Proofs.Connection.Phases
import ProxyGate.Proofs.Sniff.Block
