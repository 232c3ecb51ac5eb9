import DeviceAuth.Activity
import DeviceAuth.Backoff
import DeviceAuth.Bench.Call
import DeviceAuth.Bench.Report
import DeviceAuth.Bench.Run
import DeviceAuth.Bench.Script
import DeviceAuth.Bench.State
import DeviceAuth.Boot
import DeviceAuth.Cipher.Aes256
import DeviceAuth.Cipher.Gcm
import DeviceAuth.Cipher.Sha256
import DeviceAuth.Claim.Effort
import DeviceAuth.Claim.Grant
import DeviceAuth.Claim.Localize
import DeviceAuth.Claim.Request
import DeviceAuth.Device
import DeviceAuth.Device.Claim
import DeviceAuth.Device.Provisioning
import DeviceAuth.Device.Token
import DeviceAuth.Environment
import DeviceAuth.Failure
import DeviceAuth.Identity
import DeviceAuth.Json.Document
import DeviceAuth.Json.Form
import DeviceAuth.Json.Printer
import DeviceAuth.Json.Value
import DeviceAuth.Main
import DeviceAuth.Number.Binary64
import DeviceAuth.Number.Decimal
import DeviceAuth.Number.Shortest
import DeviceAuth.Provisioning.Course
import DeviceAuth.Provisioning.Details
import DeviceAuth.Provisioning.Packet
import DeviceAuth.Provisioning.Reply
import DeviceAuth.Provisioning.Session
import DeviceAuth.Sealer
import DeviceAuth.Settings
import DeviceAuth.Storage.Backend
import DeviceAuth.Storage.Cell
import DeviceAuth.Storage.Contents
import DeviceAuth.Storage.Credentials
import DeviceAuth.Storage.Directory
import DeviceAuth.Storage.Location
import DeviceAuth.Storage.Memory
import DeviceAuth.Storage.Monitor
import DeviceAuth.Storage.Program
import DeviceAuth.Text.Base64
import DeviceAuth.Text.Blank
import DeviceAuth.Text.Hexadecimal
import DeviceAuth.Text.Lossy
import DeviceAuth.Text.Octets
import DeviceAuth.Text.Printable
import DeviceAuth.Text.Quoted
import DeviceAuth.Text.Search
import DeviceAuth.Time
import DeviceAuth.Token.Keeper
import DeviceAuth.Token.Record
import DeviceAuth.Token.Refresh
import DeviceAuth.Wifi
import DeviceAuth.Proofs.Keeper.Tasks
import DeviceAuth.Proofs.Keeper.Watchdog
import DeviceAuth.Proofs.Keeper.Change
import DeviceAuth.Proofs.Activity.Steps
import DeviceAuth.Proofs.Activity.Calls
import DeviceAuth.Proofs.Activity.Flag
import DeviceAuth.Proofs.Activity.Generations
import DeviceAuth.Proofs.Keeper.Arranged
import DeviceAuth.Proofs.Activity.Lapses
import DeviceAuth.Proofs.Activity.Operations
import DeviceAuth.Proofs.Activity.Flights
import DeviceAuth.Proofs.Activity.Stored
import DeviceAuth.Proofs.Activity.Retries
import DeviceAuth.Proofs.Activity.Watched
import DeviceAuth.Proofs.Keeper.Schedule
import DeviceAuth.Proofs.Device.Schedule
import DeviceAuth.Proofs.Device.Claim
import DeviceAuth.Proofs.Bench.Claims
import DeviceAuth.Proofs.Keeper.Origins
import DeviceAuth.Proofs.Activity.Timers
import DeviceAuth.Proofs.Activity.SwitchedOff
import DeviceAuth.Proofs.Activity.Dropped
import DeviceAuth.Proofs.Provisioning.Turns
import DeviceAuth.Proofs.Provisioning.Failures
import DeviceAuth.Proofs.Network
import DeviceAuth.Proofs.Storage.Details
import DeviceAuth.Proofs.Provisioning.Packets
import DeviceAuth.Proofs.Text.Utf8
import DeviceAuth.Proofs.Number.Binary64
import DeviceAuth.Proofs.Number.Shortest
import DeviceAuth.Proofs.Json.Numerals
import DeviceAuth.Proofs.Json.Numbers
import DeviceAuth.Proofs.Json.Strings
import DeviceAuth.Proofs.Json.Documents
import DeviceAuth.Proofs.Text.Base64
import DeviceAuth.Proofs.Sealer
import DeviceAuth.Claimants
import DeviceAuth.Proofs.Claimants.Pieces
import DeviceAuth.Proofs.Claimants.Turns
import DeviceAuth.Proofs.Activity.Quiet
import DeviceAuth.Proofs.Storage.Grants
import DeviceAuth.Proofs.Claimants.Serial
import DeviceAuth.Proofs.Claimants.Alone
import DeviceAuth.Proofs.Provisioning.Deadline
import DeviceAuth.Proofs.Provisioning.Keys
import DeviceAuth.Storage.Operation
import DeviceAuth.Proofs.Storage.Operations
import DeviceAuth.Proofs.Storage.Identity
import DeviceAuth.Proofs.Storage.Monitor
import DeviceAuth.Proofs.Claim.Requests
import DeviceAuth.Proofs.Json.Values
import DeviceAuth.Proofs.Storage.Writes
import DeviceAuth.Proofs.Storage.Attempts
import DeviceAuth.Proofs.Storage.Items
import DeviceAuth.Proofs.Storage.TypedCells
import DeviceAuth.Storage.Interruption
import DeviceAuth.Device.Setup
import DeviceAuth.Proofs.Provisioning.Sealing
import DeviceAuth.Proofs.Storage.Contracts
import DeviceAuth.Proofs.Storage.Directory
import DeviceAuth.Proofs.Storage.Interchange
import DeviceAuth.Proofs.Device.Setup
import DeviceAuth.Proofs.Storage.Interruption
import DeviceAuth.Proofs.Storage.PowerCuts
import DeviceAuth.Proofs.Storage.Recovery
import DeviceAuth.Proofs.Storage.Reset
import DeviceAuth.Proofs.Storage.Reload
import DeviceAuth.Proofs.Device.Attempts
import DeviceAuth.Proofs.Device.Authentication
import DeviceAuth.Proofs.Bench.Attempts
import DeviceAuth.Proofs.Provisioning.Events
import DeviceAuth.Proofs.Text.Search
import DeviceAuth.Proofs.Json.Texts
import DeviceAuth.Proofs.Claim.Localize
import DeviceAuth.Proofs.Claim.Artifacts
import DeviceAuth.Proofs.Device.Rejections
import DeviceAuth.Proofs.Text.Slices
import DeviceAuth.Proofs.Network.Reading
import DeviceAuth.Proofs.Identity
import DeviceAuth.Proofs.Activity.Coverage
import DeviceAuth.Proofs.Device.Refresh
import DeviceAuth.Proofs.Settings
import DeviceAuth.Proofs.Backoff
import DeviceAuth.Proofs.Claim.Binding
