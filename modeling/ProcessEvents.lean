import ProcessEvents.Action
import ProcessEvents.AnalyticsHandler
import ProcessEvents.Api
import ProcessEvents.Api.Body
import ProcessEvents.Api.Route
import ProcessEvents.Base64Url
import ProcessEvents.Broker
import ProcessEvents.Claims
import ProcessEvents.Client.Analytics
import ProcessEvents.Client.Devices
import ProcessEvents.Client.Imports
import ProcessEvents.Client.Network
import ProcessEvents.Client.Tokens
import ProcessEvents.Collaborator
import ProcessEvents.Command
import ProcessEvents.ConditionalHandler
import ProcessEvents.Config
import ProcessEvents.Counter
import ProcessEvents.Deployment
import ProcessEvents.Describer
import ProcessEvents.Device
import ProcessEvents.Dict
import ProcessEvents.Dispatcher
import ProcessEvents.Error
import ProcessEvents.EventDescription
import ProcessEvents.EventHandler
import ProcessEvents.EventRequest
import ProcessEvents.EventService
import ProcessEvents.EventTable
import ProcessEvents.Expansion
import ProcessEvents.Expansion.Lookup
import ProcessEvents.Health
import ProcessEvents.Http.Form
import ProcessEvents.Http.MediaType
import ProcessEvents.Http.Message
import ProcessEvents.Http.Status
import ProcessEvents.Ident
import ProcessEvents.Import
import ProcessEvents.Json.Bytes
import ProcessEvents.Json.Codec
import ProcessEvents.Json.Embedding
import ProcessEvents.Json.Reader
import ProcessEvents.Json.Value
import ProcessEvents.Json.Writer
import ProcessEvents.Main
import ProcessEvents.Number.Binary64
import ProcessEvents.Number.Hex
import ProcessEvents.Number.Shortest
import ProcessEvents.Number.Written
import ProcessEvents.Pipeline
import ProcessEvents.PipelineTable
import ProcessEvents.Proofs.Action
import ProcessEvents.Proofs.Analytics.Absence
import ProcessEvents.Proofs.Analytics.Accounting
import ProcessEvents.Proofs.Analytics.Answers
import ProcessEvents.Proofs.Analytics.Asking
import ProcessEvents.Proofs.Analytics.Completion
import ProcessEvents.Proofs.Analytics.Conversion
import ProcessEvents.Proofs.Analytics.Deployment
import ProcessEvents.Proofs.Analytics.FlowOperators
import ProcessEvents.Proofs.Analytics.Frame
import ProcessEvents.Proofs.Analytics.GroupUpdate
import ProcessEvents.Proofs.Analytics.Renewal
import ProcessEvents.Proofs.Api
import ProcessEvents.Proofs.Authorization
import ProcessEvents.Proofs.Backend
import ProcessEvents.Proofs.Base64Url
import ProcessEvents.Proofs.Claims
import ProcessEvents.Proofs.Client.PipelineListing
import ProcessEvents.Proofs.Client.TokenCache
import ProcessEvents.Proofs.Client.Tokens
import ProcessEvents.Proofs.Client.UserToken
import ProcessEvents.Proofs.Collaborator
import ProcessEvents.Proofs.Conditional.Acknowledgement
import ProcessEvents.Proofs.Conditional.Attempts
import ProcessEvents.Proofs.Conditional.Coherence
import ProcessEvents.Proofs.Conditional.Completion
import ProcessEvents.Proofs.Conditional.Deployment
import ProcessEvents.Proofs.Conditional.Describing
import ProcessEvents.Proofs.Conditional.InStep
import ProcessEvents.Proofs.Conditional.OwnerFallback
import ProcessEvents.Proofs.Conditional.Retry
import ProcessEvents.Proofs.Conditional.Translation
import ProcessEvents.Proofs.Deployer
import ProcessEvents.Proofs.Device
import ProcessEvents.Proofs.Dict
import ProcessEvents.Proofs.Dispatcher
import ProcessEvents.Proofs.Endpoint
import ProcessEvents.Proofs.EventRequest
import ProcessEvents.Proofs.EventStore
import ProcessEvents.Proofs.EventTable
import ProcessEvents.Proofs.Expansion
import ProcessEvents.Proofs.Expansion.Rearrangement
import ProcessEvents.Proofs.Expansion.Services
import ProcessEvents.Proofs.FanOut
import ProcessEvents.Proofs.FlowEngine
import ProcessEvents.Proofs.ForeignPipelines
import ProcessEvents.Proofs.GroupRequest
import ProcessEvents.Proofs.Health
import ProcessEvents.Proofs.Json.FreeValues
import ProcessEvents.Proofs.Json.Gaps
import ProcessEvents.Proofs.Json.Grammar
import ProcessEvents.Proofs.Json.Inverse
import ProcessEvents.Proofs.Json.Masking
import ProcessEvents.Proofs.Json.Nesting
import ProcessEvents.Proofs.Json.ReadBack
import ProcessEvents.Proofs.Json.Restoration
import ProcessEvents.Proofs.Json.RoundTrip
import ProcessEvents.Proofs.Json.UnknownMembers
import ProcessEvents.Proofs.Messages
import ProcessEvents.Proofs.Percent
import ProcessEvents.Proofs.PipelineDescription
import ProcessEvents.Proofs.PipelineTable
import ProcessEvents.Proofs.Queries
import ProcessEvents.Proofs.Reassignment
import ProcessEvents.Proofs.Record
import ProcessEvents.Proofs.Redelivery
import ProcessEvents.Proofs.Removal
import ProcessEvents.Proofs.StoredEvents
import ProcessEvents.Proofs.Supersession
import ProcessEvents.Proofs.Text
import ProcessEvents.Proofs.Utf8
import ProcessEvents.Proofs.Uuid
import ProcessEvents.Proofs.WireModel
import ProcessEvents.Selection
import ProcessEvents.Slot
import ProcessEvents.Text
import ProcessEvents.TopicPattern
import ProcessEvents.TopicPattern.Bracket
import ProcessEvents.TopicPattern.Token
import ProcessEvents.Unicode.Composition
import ProcessEvents.Unicode.CompositionTable
import ProcessEvents.Unicode.Mapping
import ProcessEvents.Unicode.MappingTable
import ProcessEvents.Unicode.Property
import ProcessEvents.Unicode.PropertyTable
import ProcessEvents.Unicode.Table
import ProcessEvents.Url.Address
import ProcessEvents.Url.Basic
import ProcessEvents.Url.Domain
import ProcessEvents.Url.Endpoint
import ProcessEvents.Url.Fault
import ProcessEvents.Url.Host
import ProcessEvents.Url.Parser
import ProcessEvents.Url.Percent
import ProcessEvents.Url.Punycode
import ProcessEvents.Utf8
import ProcessEvents.Uuid
