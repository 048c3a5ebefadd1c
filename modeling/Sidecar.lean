import Sidecar.Main
import Sidecar.Secret.Memory
import Sidecar.State.Entry
import Sidecar.State.Memory
import Sidecar.Proofs.Http.Resource
import Sidecar.Proofs.Http.Outcome
import Sidecar.Proofs.Json.Reading
import Sidecar.Proofs.Json.RoundTrip
import Sidecar.Proofs.Secret.Lifecycle
import Sidecar.Proofs.Secret.Order
import Sidecar.Proofs.Secret.Walk
import Sidecar.Proofs.Secret.Collision
import Sidecar.Proofs.State.ReadWrite
import Sidecar.Proofs.State.Versions
import Sidecar.Proofs.State.Atomic
import Sidecar.Proofs.State.Batch
import Sidecar.Proofs.CommandLine.Masking
import Sidecar.Proofs.Url.Form
import Sidecar.Proofs.Http.Query
import Sidecar.Proofs.Url.Parser
import Sidecar.Proofs.Http.Policy
import Sidecar.Proofs.Unicode.Composed
import Sidecar.Proofs.Endpoint
import Sidecar.Proofs.CommandLine.Given
import Sidecar.Proofs.CommandLine.Refused
import Sidecar.Proofs.CommandLine.SecretText
import Sidecar.Proofs.Secret.Dashes
import Sidecar.Proofs.State.Independent
import Sidecar.Proofs.CommandLine.Numeral
import Sidecar.Proofs.CommandLine.Setting
import Sidecar.Proofs.CommandLine.Sent
import Sidecar.Proofs.CommandLine.WriteFlags
