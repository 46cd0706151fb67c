import StorageQuery.Main
import StorageQuery.Storage.Archive
import StorageQuery.Answer.Projector
import StorageQuery.Proofs.Answer.Timing
import StorageQuery.Proofs.Answer.Shape
import StorageQuery.Proofs.Answer.Abort
import StorageQuery.Proofs.Outcome
import StorageQuery.Proofs.Key.Document
import StorageQuery.Proofs.Key.Equality
import StorageQuery.Proofs.Storage.Document
import StorageQuery.Proofs.Selector.Grammar
import StorageQuery.Proofs.Answer.Blank
import StorageQuery.Proofs.Answer.Encounter
import StorageQuery.Proofs.Storage.Wide
import StorageQuery.Proofs.Url.Percent
import StorageQuery.Proofs.Url.Segment
import StorageQuery.Proofs.Key.Request
import StorageQuery.Proofs.Indexer.Address
import StorageQuery.Proofs.Json.Reading
import StorageQuery.Proofs.Indexer.Record
import StorageQuery.Proofs.Indexer.Lookup
import StorageQuery.Proofs.Key.Feeds
import StorageQuery.Proofs.Storage.Filling
import StorageQuery.Proofs.Answer.AtHand
import StorageQuery.Proofs.Answer.AllKeys
import StorageQuery.Proofs.Command.AllFields
import StorageQuery.Proofs.Storage.Selection
import StorageQuery.Proofs.Faults
import StorageQuery.Proofs.Storage.Refusal
import StorageQuery.Proofs.Answer.Refusal
import StorageQuery.Proofs.Text.Hex
import StorageQuery.Proofs.Storage.Acceptance
import StorageQuery.Proofs.Storage.Tagless
import StorageQuery.Proofs.Answer.Container
import StorageQuery.Proofs.Answer.Log
import StorageQuery.Proofs.Json.Writing
import StorageQuery.Proofs.Number.Numeral
import StorageQuery.Proofs.Answer.Rendering
import StorageQuery.Proofs.Key.Encoding
import StorageQuery.Proofs.Key.Canonical
import StorageQuery.Proofs.Storage.Equality
import StorageQuery.Proofs.Selector.Reading
import StorageQuery.Proofs.Storage.Integer
import StorageQuery.Proofs.Storage.Resolution
