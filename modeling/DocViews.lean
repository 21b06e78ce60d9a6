import DocViews.Json.Reading
import DocViews.Json.Text
import DocViews.Main
import DocViews.Path.Order
import DocViews.Yaml.Datum
import DocViews.Proofs.Numbering
import DocViews.Proofs.Path.Syntax
import DocViews.Proofs.Text.ByteOrder
import DocViews.Proofs.View.Columns
import DocViews.Proofs.View.JsonPath
import DocViews.Proofs.Compile.Causes
import DocViews.Proofs.Compile.Columns
import DocViews.Proofs.Compile.Extension
import DocViews.Proofs.Compile.Listing
import DocViews.Proofs.Compile.Partitioning
import DocViews.Proofs.Compile.Prefixes
import DocViews.Proofs.Compile.Relations
import DocViews.Proofs.View.Bare
import DocViews.Proofs.Compile.Bare
import DocViews.Proofs.Compile.Settings
import DocViews.Proofs.Catalog.Loading
import DocViews.Proofs.Catalog.Objects
import DocViews.Proofs.View.MetadataPath
import DocViews.Proofs.View.Selection
import DocViews.Proofs.Compile.Selection
import DocViews.Proofs.Naming.Budget
import DocViews.Proofs.Naming.Identifier
import DocViews.Proofs.Naming.Stability
import DocViews.Proofs.Compile.Lengths
import DocViews.Proofs.Compile.Grants
import DocViews.Proofs.Namespaces.Listed
import DocViews.Proofs.Compile.Rows
import DocViews.Proofs.Compile.Reordering
import DocViews.Proofs.Namespaces.Numbered
import DocViews.Proofs.Compile.Clauses
import DocViews.Proofs.Compile.Hooks
