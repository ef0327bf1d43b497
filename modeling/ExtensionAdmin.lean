import ExtensionAdmin.Main
import ExtensionAdmin.Batch.Session
import ExtensionAdmin.Rehearsal
import ExtensionAdmin.Proofs.Batch.Unfolding
import ExtensionAdmin.Proofs.Batch.Wave
import ExtensionAdmin.Proofs.Batch.Course
import ExtensionAdmin.Proofs.Batch.RequestWaves
import ExtensionAdmin.Proofs.Batch.Consent
import ExtensionAdmin.Proofs.Batch.Completion
import ExtensionAdmin.Proofs.Batch.Readdressed
import ExtensionAdmin.Proofs.Batch.Ending
import ExtensionAdmin.Proofs.Batch.Refresh
import ExtensionAdmin.Proofs.Batch.CompletionOrder
import ExtensionAdmin.Proofs.Json.Members
import ExtensionAdmin.Proofs.Json.WholeNumber
import ExtensionAdmin.Proofs.Xml.Escape
import ExtensionAdmin.Proofs.Xml.Tag
import ExtensionAdmin.Proofs.Xml.TreeRoundTrip
import ExtensionAdmin.Proofs.Xml.Conversion
import ExtensionAdmin.Proofs.Xml.ValueRoundTrip
import ExtensionAdmin.Proofs.Fallible
import ExtensionAdmin.Proofs.Xml.Truncation
import ExtensionAdmin.Proofs.Service.Listing
import ExtensionAdmin.Proofs.Service.Update
import ExtensionAdmin.Proofs.Batch.PhaseOrder
import ExtensionAdmin.Proofs.Batch.History
import ExtensionAdmin.Proofs.Service.TakesEffect
import ExtensionAdmin.Proofs.Xml.Traversal
import ExtensionAdmin.Proofs.Service.Recording
import ExtensionAdmin.Proofs.Console.CommandLine
import ExtensionAdmin.Proofs.Http.Client
import ExtensionAdmin.Proofs.Console.Restraint
import ExtensionAdmin.Proofs.Text.Table
import ExtensionAdmin.Proofs.Url.Punycode
import ExtensionAdmin.Proofs.Url.LowerCase
import ExtensionAdmin.Proofs.Url.Domain
import ExtensionAdmin.Proofs.Url.Address
import ExtensionAdmin.Proofs.Url.Host
import ExtensionAdmin.Proofs.Url.Authority
import ExtensionAdmin.Proofs.Http.SameServer
import ExtensionAdmin.Proofs.Url.Ideograph
import ExtensionAdmin.Proofs.Url.FarLabel
import ExtensionAdmin.Proofs.Url.Segments
import ExtensionAdmin.Proofs.Url.Target
import ExtensionAdmin.Proofs.Service.PluginAddress
import ExtensionAdmin.Proofs.Json.Depth
import ExtensionAdmin.Proofs.Xml.Literal
import ExtensionAdmin.Proofs.Xml.Grouping
import ExtensionAdmin.Proofs.Batch.Aggregation
import ExtensionAdmin.Proofs.Batch.Choice
import ExtensionAdmin.Proofs.Batch.OpenModals
import ExtensionAdmin.Proofs.Console.Answers
import ExtensionAdmin.Proofs.Http.BelowPrefix
import ExtensionAdmin.Proofs.Xml.Writing
import ExtensionAdmin.Proofs.Json.ObjectText
import ExtensionAdmin.Proofs.Xml.Content
import ExtensionAdmin.Proofs.Http.ErrorBody
import ExtensionAdmin.Proofs.Service.ValidSettings
