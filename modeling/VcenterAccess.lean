import VcenterAccess.Assignment
import VcenterAccess.Base64
import VcenterAccess.Certificate.Basic
import VcenterAccess.Certificate.Name
import VcenterAccess.Certificate.Time
import VcenterAccess.CloudConfig.Basic
import VcenterAccess.CloudConfig.Error
import VcenterAccess.CloudConfig.Reading
import VcenterAccess.CloudConfig.Resolution
import VcenterAccess.CommandLine
import VcenterAccess.Connection.Basic
import VcenterAccess.Connection.Command
import VcenterAccess.Connection.Endpoint
import VcenterAccess.Connection.Error
import VcenterAccess.Connection.Lifecycle
import VcenterAccess.Connection.Login
import VcenterAccess.Connection.Options
import VcenterAccess.ConnectionManager.Basic
import VcenterAccess.ConnectionManager.Command
import VcenterAccess.ConnectionManager.Error
import VcenterAccess.ConnectionManager.Installation
import VcenterAccess.ConnectionManager.Source
import VcenterAccess.Credential.Basic
import VcenterAccess.Credential.Cache
import VcenterAccess.Credential.Manager
import VcenterAccess.Der.Oid
import VcenterAccess.Der.Reader
import VcenterAccess.DomainName.Ascii
import VcenterAccess.DomainName.Character
import VcenterAccess.DomainName.Label
import VcenterAccess.DomainName.Mapping
import VcenterAccess.DomainName.Punycode
import VcenterAccess.Fault
import VcenterAccess.FileTree
import VcenterAccess.Http.Exchange
import VcenterAccess.Http.Status
import VcenterAccess.Json.Text
import VcenterAccess.Json.Value
import VcenterAccess.Key.P256
import VcenterAccess.Key.PrivateKey
import VcenterAccess.Key.Rsa
import VcenterAccess.KeyPair
import VcenterAccess.Machine.Lock
import VcenterAccess.Machine.Schedule
import VcenterAccess.Machine.Task
import VcenterAccess.Memory
import VcenterAccess.Pem
import VcenterAccess.Program
import VcenterAccess.Proofs.CloudConfig.Endpoint
import VcenterAccess.Proofs.CloudConfig.Entry
import VcenterAccess.Proofs.CloudConfig.Inheritance
import VcenterAccess.Proofs.CloudConfig.Verdict
import VcenterAccess.Proofs.Connection.Abandoning
import VcenterAccess.Proofs.Connection.Addressing
import VcenterAccess.Proofs.Connection.Attempt
import VcenterAccess.Proofs.Connection.Certificates
import VcenterAccess.Proofs.Connection.Conduct
import VcenterAccess.Proofs.Connection.Conversation
import VcenterAccess.Proofs.Connection.Fleet
import VcenterAccess.Proofs.Connection.Keeping
import VcenterAccess.Proofs.Connection.Publishing
import VcenterAccess.Proofs.Connection.Readiness
import VcenterAccess.Proofs.Connection.Secrecy
import VcenterAccess.Proofs.Connection.Serializing
import VcenterAccess.Proofs.Connection.Tokens
import VcenterAccess.Proofs.Connection.View
import VcenterAccess.Proofs.ConnectionManager.Caching
import VcenterAccess.Proofs.ConnectionManager.Calls
import VcenterAccess.Proofs.ConnectionManager.Carrying
import VcenterAccess.Proofs.ConnectionManager.Closing
import VcenterAccess.Proofs.ConnectionManager.Custody
import VcenterAccess.Proofs.ConnectionManager.Errands
import VcenterAccess.Proofs.ConnectionManager.Healing
import VcenterAccess.Proofs.ConnectionManager.Installing
import VcenterAccess.Proofs.ConnectionManager.Linearizing
import VcenterAccess.Proofs.ConnectionManager.LoggingOut
import VcenterAccess.Proofs.ConnectionManager.Reading
import VcenterAccess.Proofs.ConnectionManager.Refreshing
import VcenterAccess.Proofs.ConnectionManager.Renewing
import VcenterAccess.Proofs.ConnectionManager.Succession
import VcenterAccess.Proofs.Credential.Disclosure
import VcenterAccess.Proofs.Credential.History
import VcenterAccess.Proofs.Credential.Isolation
import VcenterAccess.Proofs.Credential.Revision
import VcenterAccess.Proofs.Credential.Snapshot
import VcenterAccess.Proofs.Der.Encoding
import VcenterAccess.Proofs.DomainName.Colons
import VcenterAccess.Proofs.KeyPair.Armour
import VcenterAccess.Proofs.KeyPair.Belonging
import VcenterAccess.Proofs.KeyPair.Loading
import VcenterAccess.Proofs.Machine.Account
import VcenterAccess.Proofs.Machine.Guarding
import VcenterAccess.Proofs.Machine.Holding
import VcenterAccess.Proofs.Machine.Moves
import VcenterAccess.Proofs.Machine.Progress
import VcenterAccess.Proofs.Machine.Queueing
import VcenterAccess.Proofs.Machine.Replay
import VcenterAccess.Proofs.Machine.Resuming
import VcenterAccess.Proofs.Machine.Serial
import VcenterAccess.Proofs.Machine.Settling
import VcenterAccess.Proofs.Machine.Trace
import VcenterAccess.Proofs.Program.Alone
import VcenterAccess.Proofs.Program.Rule
import VcenterAccess.Proofs.Secret.Gathering
import VcenterAccess.Proofs.Secret.Keys
import VcenterAccess.Proofs.Secret.Merging
import VcenterAccess.Proofs.Secret.Newlines
import VcenterAccess.Proofs.Secret.Parsing
import VcenterAccess.Proofs.Secret.Parts
import VcenterAccess.Proofs.Secret.RoundTrip
import VcenterAccess.Proofs.Secret.Writing
import VcenterAccess.Proofs.Session.Retrying
import VcenterAccess.Proofs.Session.Tracking
import VcenterAccess.Proofs.SharedToken.Answering
import VcenterAccess.Proofs.Table.Parts
import VcenterAccess.Proofs.Table.Walk
import VcenterAccess.Proofs.Text.ByteOrder
import VcenterAccess.Proofs.Text.Decoding
import VcenterAccess.Proofs.Text.Endings
import VcenterAccess.Proofs.Text.Inspecting
import VcenterAccess.Proofs.Text.Numerals
import VcenterAccess.Proofs.Text.Trimming
import VcenterAccess.Proofs.Text.Validity
import VcenterAccess.Proofs.Url.Ports
import VcenterAccess.Proofs.Url.Reading
import VcenterAccess.Retry
import VcenterAccess.Secret.Basic
import VcenterAccess.Secret.Key
import VcenterAccess.Secret.Payload
import VcenterAccess.Secret.Reference
import VcenterAccess.Secret.Reflector
import VcenterAccess.Secret.Store
import VcenterAccess.Session.Client
import VcenterAccess.Session.Credentials
import VcenterAccess.Session.Question
import VcenterAccess.Session.Strategy
import VcenterAccess.SharedToken.Options
import VcenterAccess.SharedToken.Request
import VcenterAccess.Simulator.Estate
import VcenterAccess.Simulator.Experiment
import VcenterAccess.Simulator.Vcenter
import VcenterAccess.Simulator.World
import VcenterAccess.Table
import VcenterAccess.Text.Blank
import VcenterAccess.Text.Combining
import VcenterAccess.Text.CombiningClass
import VcenterAccess.Text.Composition
import VcenterAccess.Text.Hex
import VcenterAccess.Text.Inspection
import VcenterAccess.Text.Packed
import VcenterAccess.Text.Pieces
import VcenterAccess.Text.Quoted
import VcenterAccess.Text.Ranges
import VcenterAccess.Text.Strip
import VcenterAccess.Text.Unprintable
import VcenterAccess.Text.Utf8
import VcenterAccess.Url.Basic
import VcenterAccess.Url.Host
import VcenterAccess.Url.Ipv4
import VcenterAccess.Url.Ipv6
import VcenterAccess.Url.Parse
import VcenterAccess.Url.Percent
import VcenterAccess.Yaml.Cell
import VcenterAccess.Yaml.Decode
import VcenterAccess.Yaml.Document
import VcenterAccess.Yaml.Lexer
import VcenterAccess.Yaml.Node
import VcenterAccess.Yaml.Scalar
import VcenterAccess.Yaml.Tag
import VcenterAccess.Yaml.Token
