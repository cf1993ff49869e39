import BulkLoad.Json.Reading
import BulkLoad.Main
import BulkLoad.Model.Answer
import BulkLoad.Step.Identity
import BulkLoad.Proofs.Cube.Normal
import BulkLoad.Proofs.Cube.Sizes
import BulkLoad.Proofs.Cube.Truncation
import BulkLoad.Proofs.Decimal.Canonical
import BulkLoad.Proofs.Document.Results
import BulkLoad.Proofs.Document.Settings
import BulkLoad.Proofs.Mapping.Encoders
import BulkLoad.Proofs.Step.Accounts
import BulkLoad.Proofs.Step.Columns
import BulkLoad.Proofs.Step.Copying
import BulkLoad.Proofs.Step.Doubling
import BulkLoad.Proofs.Step.Encoding
import BulkLoad.Proofs.Step.Export
import BulkLoad.Proofs.Step.Positions
import BulkLoad.Proofs.Step.Loading
import BulkLoad.Proofs.Step.Relay
import BulkLoad.Proofs.Step.Validation
import BulkLoad.Proofs.Delimited.Splitting
import BulkLoad.Proofs.Delimited.Records
import BulkLoad.Proofs.Sink.Lifecycle
import BulkLoad.Proofs.Sink.Tally
import BulkLoad.Proofs.Schema.Merging
import BulkLoad.Proofs.Environment.Missing
import BulkLoad.Proofs.Output.Agreement
import BulkLoad.Proofs.Output.Claims
import BulkLoad.Proofs.Sink.Feed
import BulkLoad.Proofs.Sink.Sharing
import BulkLoad.Proofs.Sink.Tail
