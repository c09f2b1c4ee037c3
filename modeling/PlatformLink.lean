import PlatformLink.Auth
import PlatformLink.Catalogue
import PlatformLink.Event.Channel
import PlatformLink.Link
import PlatformLink.Singleton.Awaited
import PlatformLink.Singleton.Lazy
import PlatformLink.Storage.Directory
import PlatformLink.Storage.Queue
import PlatformLink.Proofs.Singleton.AtMostOnce
import PlatformLink.Proofs.Catalogue
import PlatformLink.Proofs.Endpoint.Isolation
import PlatformLink.Proofs.Endpoint.Leakage
import PlatformLink.Proofs.Link.Confinement
import PlatformLink.Proofs.Endpoint.Pipeline
import PlatformLink.Proofs.Link.Lifecycle
import PlatformLink.Proofs.Storage.Conservation
import PlatformLink.Proofs.Storage.Handles
import PlatformLink.Proofs.Json.Scalar
import PlatformLink.Proofs.Json.Shape
import PlatformLink.Proofs.Json.Spelling
import PlatformLink.Proofs.Json.Faithful
import PlatformLink.Proofs.Json.Assembled
import PlatformLink.Proofs.RoundTrip
import PlatformLink.Proofs.Storage.ItemQueue
import PlatformLink.Proofs.Text.Trimming
import PlatformLink.Proofs.Authorization
import PlatformLink.Proofs.Endpoint.SingleRequest
import PlatformLink.Proofs.Link.Address
import PlatformLink.Proofs.Endpoint.Sending
import PlatformLink.Proofs.Link.Inquiry
import PlatformLink.Proofs.Workflow.StoreClients
import PlatformLink.Proofs.Json.AnyOrder
import PlatformLink.Proofs.Workflow.SummaryText
import PlatformLink.Proofs.Web.KeptTexts
import PlatformLink.Proofs.Workflow.SummaryService
import PlatformLink.Proofs.Workflow.StoreAgreement
import PlatformLink.Proofs.Endpoint.Secrecy
import PlatformLink.Proofs.Link.Secrecy
import PlatformLink.Proofs.Endpoint.Resources
import PlatformLink.Proofs.Event.ChannelRun
import PlatformLink.Proofs.Event.Delivery
import PlatformLink.Proofs.Event.Publishing
import PlatformLink.Proofs.Event.Waiting
import PlatformLink.Proofs.Storage.Listing
import PlatformLink.Proofs.Storage.Refusals
import PlatformLink.Proofs.Storage.Visibility
import PlatformLink.Proofs.Web.HeaderTable
import PlatformLink.Proofs.Endpoint.HeaderPrecedence
import PlatformLink.Proofs.Workflow.ConflictRecovery
import PlatformLink.Proofs.Text.Runs
import PlatformLink.Proofs.Link.Lookup
import PlatformLink.Proofs.Storage.Addresses
import PlatformLink.Proofs.Endpoint.FinalSlashes
import PlatformLink.Proofs.DeclaredRoles
import PlatformLink.Proofs.Endpoint.RetryDelay
import PlatformLink.Proofs.Link.QueryPairs
import PlatformLink.Proofs.Storage.DeletedOnce
import PlatformLink.Proofs.Singleton.OneAtATime
import PlatformLink.Proofs.Storage.EntityName
import PlatformLink.Proofs.Health
