import Pacts.Broker.Client
import Pacts.Broker.Consumers
import Pacts.Broker.Credentials
import Pacts.Broker.Endpoint
import Pacts.Broker.Error
import Pacts.Broker.Links
import Pacts.Broker.Session
import Pacts.Command.Flag
import Pacts.Command.Given
import Pacts.Command.Help
import Pacts.Command.Invocation
import Pacts.Command.Overlay
import Pacts.Command.Report
import Pacts.Command.Run
import Pacts.Command.Wanted
import Pacts.Files
import Pacts.Files.Snapshot
import Pacts.Files.Tree
import Pacts.Http.Answer
import Pacts.Http.Connection
import Pacts.Http.Header
import Pacts.Http.Message
import Pacts.Http.Question
import Pacts.Json.Basic
import Pacts.Json.Reader
import Pacts.Json.Writer
import Pacts.Load.Broker
import Pacts.Load.Error
import Pacts.Load.Folder
import Pacts.Load.Inclusion
import Pacts.Load.Lookups
import Pacts.Load.Settings
import Pacts.Load.SettingsFile
import Pacts.Lookup
import Pacts.Main
import Pacts.Number.Binary64
import Pacts.Number.Shortest
import Pacts.Pact.Basic
import Pacts.Pact.Registry
import Pacts.Placeholder
import Pacts.Proofs.Broker.Answers
import Pacts.Proofs.Broker.Conversation
import Pacts.Proofs.Broker.Listing
import Pacts.Proofs.Broker.Search
import Pacts.Proofs.Command.Outcome
import Pacts.Proofs.Command.Report
import Pacts.Proofs.Folder.Kept
import Pacts.Proofs.Folder.Paths
import Pacts.Proofs.Folder.Reading
import Pacts.Proofs.Folder.Runs
import Pacts.Proofs.Json.Indented
import Pacts.Proofs.Json.Layout
import Pacts.Proofs.Json.Numerals
import Pacts.Proofs.Json.Quoting
import Pacts.Proofs.Load.Accumulation
import Pacts.Proofs.Load.Course
import Pacts.Proofs.Load.EmptyListings
import Pacts.Proofs.Load.Faults
import Pacts.Proofs.Load.Identity
import Pacts.Proofs.Load.Keys
import Pacts.Proofs.Load.Missing
import Pacts.Proofs.Load.Passes
import Pacts.Proofs.Load.Plan
import Pacts.Proofs.Load.Requests
import Pacts.Proofs.Load.Restriction
import Pacts.Proofs.Load.Tags
import Pacts.Proofs.Placeholder.Keys
import Pacts.Proofs.Registry.Log
import Pacts.Proofs.Registry.Replay
import Pacts.Proofs.Registry.Restriction
import Pacts.Text.Accents
import Pacts.Text.Base64
import Pacts.Text.Blank
import Pacts.Text.Bytes
import Pacts.Text.Composed
import Pacts.Text.Fields
import Pacts.Text.Folding
import Pacts.Text.Letters
import Pacts.Text.MarkOrder
import Pacts.Text.Marks
import Pacts.Text.Percent
import Pacts.Text.Printable
import Pacts.Text.Quoted
import Pacts.Text.Ranges
import Pacts.Text.Syllables
import Pacts.Text.Table
import Pacts.Text.Width
import Pacts.Url.Basic
import Pacts.Url.Direction
import Pacts.Url.Domain
import Pacts.Url.Host
import Pacts.Url.Ipv4
import Pacts.Url.Ipv6
import Pacts.Url.Joiners
import Pacts.Url.Parse
import Pacts.Url.Punycode
import Pacts.Url.Refused
import Pacts.Yaml.Cursor
import Pacts.Yaml.Document
import Pacts.Yaml.Node
import Pacts.Yaml.Record
import Pacts.Yaml.Scalar
import Pacts.Yaml.ScalarText
import Pacts.Yaml.Scanner
import Pacts.Yaml.Token
import Pacts.Yaml.Value
import Pacts.Proofs.Placeholder.Cut
import Pacts.Proofs.Placeholder.Lists
import Pacts.Proofs.Broker.Names
import Pacts.Proofs.Broker.Templates
import Pacts.Proofs.Url.Paths
import Pacts.Proofs.Url.Origin
import Pacts.Proofs.Broker.Segments
import Pacts.Proofs.Broker.Entries
import Pacts.Proofs.Load.Diagnosis
import Pacts.Proofs.Pact.Envelope
import Pacts.Proofs.Registry.Written
import Pacts.Proofs.Broker.Options
import Pacts.Proofs.Broker.Selection
import Pacts.Proofs.Text.Quoted
import Pacts.Proofs.Broker.Secrets
import Pacts.Proofs.Registry.Sameness
import Pacts.Proofs.Url.Hosts
import Pacts.Proofs.Broker.Endpoints
import Pacts.Proofs.Load.Description
import Pacts.Proofs.Text.Legible
import Pacts.Proofs.Load.Shown
import Pacts.Proofs.Load.Inclusion
import Pacts.Proofs.Text.Decoding
import Pacts.Proofs.Broker.Authorization
import Pacts.Proofs.Broker.DistinctNames
import Pacts.Proofs.Placeholder.Letters
import Pacts.Proofs.Broker.Schemes
import Pacts.Proofs.Load.Credentials
import Pacts.Proofs.Command.Arguments
import Pacts.Proofs.Command.Overlay
import Pacts.Proofs.Json.Grammar
import Pacts.Proofs.Json.Decimals
import Pacts.Proofs.Json.Characters
import Pacts.Proofs.Json.Acceptance
import Pacts.Proofs.Http.ContentType
import Pacts.Proofs.Http.Sending
import Pacts.Proofs.Http.Verdict
import Pacts.Proofs.Folder.Places
import Pacts.Proofs.Http.Connection
import Pacts.Proofs.Number.Rounding
import Pacts.Proofs.Json.Range
