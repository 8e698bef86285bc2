import LogPipeline.Config.Json
import LogPipeline.Json.Reader
import LogPipeline.Main
import LogPipeline.Proofs.Grok.Anchoring
import LogPipeline.Proofs.Grok.References
import LogPipeline.Proofs.Pipeline.Closing
import LogPipeline.Proofs.Pipeline.Delivery
import LogPipeline.Proofs.Config.Building
import LogPipeline.Proofs.Pipeline.Progress
import LogPipeline.Proofs.Pipeline.Lifecycle
import LogPipeline.Proofs.Pipeline.Shutdown
import LogPipeline.Proofs.Pipeline.Driven
import LogPipeline.Proofs.Filter.Frame
import LogPipeline.Proofs.Event.RoundTrip
import LogPipeline.Proofs.Output.Framing
import LogPipeline.Proofs.Time.Offsets
import LogPipeline.Proofs.Time.Agreement
import LogPipeline.Proofs.Filter.Date
import LogPipeline.Proofs.Filter.Mutation
import LogPipeline.Proofs.Time.LocalTimes
import LogPipeline.Proofs.Time.Years
import LogPipeline.Proofs.Filter.Independence
import LogPipeline.Proofs.Filter.Renaming
import LogPipeline.Proofs.Number.Overflow
import LogPipeline.Proofs.Number.Whole
import LogPipeline.Proofs.Event.Nulls
import LogPipeline.Proofs.Filter.Conversion
import LogPipeline.Proofs.Number.Decimal
import LogPipeline.Proofs.Filter.Typing
import LogPipeline.Proofs.Filter.Restoring
import LogPipeline.Proofs.Text.Decoding
import LogPipeline.Proofs.Input.Cutting
import LogPipeline.Proofs.Input.Reading
import LogPipeline.Proofs.Input.Feed
import LogPipeline.Proofs.Input.Sending
import LogPipeline.Proofs.Grok.Unfolding
import LogPipeline.Proofs.Grok.Faults
import LogPipeline.Proofs.Grok.Merging
import LogPipeline.Proofs.Filter.Extraction
import LogPipeline.Proofs.Config.Precedence
import LogPipeline.Proofs.Grok.Addresses
import LogPipeline.Proofs.Grok.Numbers
import LogPipeline.Proofs.Time.Translation
import LogPipeline.Proofs.Grok.Joining
import LogPipeline.Proofs.Event.Order
