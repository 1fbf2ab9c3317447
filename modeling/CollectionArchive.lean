import CollectionArchive.Main
import CollectionArchive.Identifier.Forms
import CollectionArchive.Proofs.Schema.Configs
import CollectionArchive.Proofs.Registry.Conformance
import CollectionArchive.Proofs.Registry.Finalization
import CollectionArchive.Proofs.Registry.Selectors
import CollectionArchive.Proofs.Pack.Adding
import CollectionArchive.Proofs.Pack.Layout
import CollectionArchive.Proofs.Pack.Access
import CollectionArchive.Proofs.Decimal.Digits
import CollectionArchive.Proofs.Identifier.Written
import CollectionArchive.Proofs.Json.Numbers
import CollectionArchive.Proofs.Json.Text
import CollectionArchive.Proofs.Json.Values
import CollectionArchive.Proofs.Registry.Schemata
import CollectionArchive.Proofs.Registry.Stages
import CollectionArchive.Proofs.Archive.Replies
import CollectionArchive.Proofs.Link.Targets
import CollectionArchive.Proofs.Registry.Checking
import CollectionArchive.Proofs.Registry.Storing
import CollectionArchive.Proofs.Json.Lines
import CollectionArchive.Proofs.Registry.Bindings
import CollectionArchive.Proofs.Json.AnyDepth
import CollectionArchive.Proofs.Node.Text
import CollectionArchive.Proofs.Archive.Inventory
import CollectionArchive.Proofs.Command.Failing
import CollectionArchive.Proofs.Command.Entries
import CollectionArchive.Proofs.Command.Building
import CollectionArchive.Proofs.Command.Records
import CollectionArchive.Proofs.Registry.Copies
import CollectionArchive.Proofs.Registry.Registration
import CollectionArchive.Proofs.Registry.Closing
import CollectionArchive.Proofs.Pack.Fields
import CollectionArchive.Proofs.Value.Integers
import CollectionArchive.Proofs.Schema.Building
import CollectionArchive.Proofs.Schema.Lookups
import CollectionArchive.Proofs.Value.Serializing
import CollectionArchive.Proofs.Registry.Elements
import CollectionArchive.Proofs.Value.Recasting
import CollectionArchive.Proofs.Registry.Batches
import CollectionArchive.Proofs.Registry.Orders
import CollectionArchive.Proofs.Value.Numbers
import CollectionArchive.Proofs.Archive.Appending
import CollectionArchive.Proofs.Identifier.Canonical
import CollectionArchive.Proofs.Identifier.Order
import CollectionArchive.Proofs.Node.Keys
import CollectionArchive.Proofs.Link.Equality
import CollectionArchive.Proofs.Registry.Growth
import CollectionArchive.Proofs.Schema.Parameters
import CollectionArchive.Proofs.Schema.Names
import CollectionArchive.Proofs.Schema.Walks
import CollectionArchive.Proofs.Link.Graph
import CollectionArchive.Proofs.Metadata.Archived
