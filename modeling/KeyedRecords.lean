import KeyedRecords.Text.CaseMap
import KeyedRecords.Text.Escape
import KeyedRecords.Text.Words
import KeyedRecords.Text.Utf8
import KeyedRecords.Hash.Blake3
import KeyedRecords.Store.Handles
import KeyedRecords.Store.Config.Json
import KeyedRecords.Model.Samples
import KeyedRecords.Model.Untyped
import KeyedRecords.Source.Lexer
import KeyedRecords.Source.Literal
import KeyedRecords.Source.Grammar
import KeyedRecords.Source.Attribute
import KeyedRecords.Source.Item
import KeyedRecords.Source.Item.Members
import KeyedRecords.Source.Item.Reader
import KeyedRecords.Source.Arguments
import KeyedRecords.Description.Marker
import KeyedRecords.Description.Declaration
import KeyedRecords.Description.KeySet
import KeyedRecords.Description.Model
import KeyedRecords.Description.Plan
import KeyedRecords.Generated.Accessors
import KeyedRecords.Generated.Keys
import KeyedRecords.Generated.Migration
import KeyedRecords.Generated.Model
import KeyedRecords.Model.Planned
import KeyedRecords.Proofs.Model.PlannedRecord
import KeyedRecords.Proofs.Model.Settled
import KeyedRecords.Proofs.Model.LastWritten
import KeyedRecords.Proofs.Model.Snapshot
import KeyedRecords.Proofs.Record.Exact
import KeyedRecords.Proofs.Model.Unmigrated
import KeyedRecords.Proofs.Store.Handles
import KeyedRecords.Proofs.Generated.Members
import KeyedRecords.Proofs.Generated.Compile
import KeyedRecords.Proofs.Model.PartlyMigrated
import KeyedRecords.Proofs.Model.Poisoned
import KeyedRecords.Proofs.Model.IgnoredFields
import KeyedRecords.Proofs.Model.Trace
import KeyedRecords.Proofs.Description.Markers
import KeyedRecords.Proofs.Generated.Markers
import KeyedRecords.Proofs.Description.Cover
import KeyedRecords.Proofs.Description.Classification
import KeyedRecords.Proofs.Generated.Rearranged
import KeyedRecords.Proofs.Description.Discriminants
import KeyedRecords.Proofs.Description.ExpectedField
import KeyedRecords.Proofs.Description.SuggestedCases
import KeyedRecords.Proofs.Description.DeriveFix
import KeyedRecords.Proofs.Generated.Surroundings
import KeyedRecords.Proofs.Model.FileContext
import KeyedRecords.Proofs.Record.Insertion
import KeyedRecords.Proofs.Key.Fingerprint
import KeyedRecords.Proofs.Description.RepeatedLiterals
import KeyedRecords.Proofs.Description.IntegerValue
import KeyedRecords.Proofs.Model.LatestEvents
