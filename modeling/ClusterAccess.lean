import ClusterAccess.Connection.Session
import ClusterAccess.Constants
import ClusterAccess.Fault.Construction
import ClusterAccess.Json.Reader
import ClusterAccess.Logging.State
import ClusterAccess.Operator.Finished
import ClusterAccess.Operator.Session
import ClusterAccess.Proofs.Changes
import ClusterAccess.Proofs.Connection.Delivery
import ClusterAccess.Proofs.Connection.Headers
import ClusterAccess.Proofs.Connection.Material
import ClusterAccess.Proofs.Connection.Readiness
import ClusterAccess.Proofs.Connection.Strategy
import ClusterAccess.Proofs.Json.RoundTrip
import ClusterAccess.Proofs.Json.Tokens
import ClusterAccess.Proofs.Logging.Lines
import ClusterAccess.Proofs.Logging.Setup
import ClusterAccess.Proofs.Operator.Builder
import ClusterAccess.Proofs.Operator.Session
import ClusterAccess.Proofs.Outcome
import ClusterAccess.Proofs.Resolution.Authorities
import ClusterAccess.Proofs.Resolution.BlankFiles
import ClusterAccess.Proofs.Resolution.Consulted
import ClusterAccess.Proofs.Resolution.Contract
import ClusterAccess.Proofs.Resolution.Discovery
import ClusterAccess.Proofs.Resolution.Loading
import ClusterAccess.Proofs.Resolution.Locality
import ClusterAccess.Proofs.Resolution.Location
import ClusterAccess.Proofs.Resolution.Lookup
import ClusterAccess.Proofs.Resolution.Readiness
import ClusterAccess.Proofs.Resolution.Rejections
import ClusterAccess.Proofs.Resolution.Secrets
import ClusterAccess.Proofs.Resolution.Shadowing
import ClusterAccess.Proofs.Resolution.UsedValues
import ClusterAccess.Proofs.Resolution.Verification
import ClusterAccess.Proofs.ServiceAccount
import ClusterAccess.Proofs.Text.Base64
import ClusterAccess.Proofs.Text.Utf16
import ClusterAccess.Proofs.Text.Utf8
import ClusterAccess.Proofs.Yaml.Nodes
import ClusterAccess.Proofs.Yaml.Scanning
import ClusterAccess.Proofs.Yaml.Stream
import ClusterAccess.Proofs.Resource.Identity
import ClusterAccess.Proofs.EndAlike
import ClusterAccess.Proofs.Json.Members
import ClusterAccess.Proofs.Operator.Dump
import ClusterAccess.Proofs.Resolution.Passwords
import ClusterAccess.Proofs.Resolution.Relocation
