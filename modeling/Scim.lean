import Scim.Text.Ascii
import Scim.Text.Blank
import Scim.Text.Case
import Scim.Json.Reader
import Scim.Json.Writer
import Scim.Filter.Match
import Scim.Patch.Apply
import Scim.Primary
import Scim.Json.Decode
import Scim.Message.Bulk
import Scim.Message.Listing
import Scim.Message.Patch
import Scim.Schema.Attribute
import Scim.Schema.Provider
import Scim.Config.Source
import Scim.Etag
import Scim.Listing
import Scim.Directory.Bulk
import Scim.Directory.Discovery
import Scim.CommandLine
import Scim.Main
import Scim.Proofs.Json.Members
import Scim.Proofs.Patch.Element
import Scim.Proofs.Patch.Replace
import Scim.Proofs.Filter.Token
import Scim.Proofs.Filter.Printing
import Scim.Proofs.Uuid
import Scim.Proofs.Etag
import Scim.Proofs.Store
import Scim.Proofs.Directory.Resource
import Scim.Proofs.Directory.Effect
import Scim.Proofs.Directory.Entries
import Scim.Proofs.Directory.Run
import Scim.Proofs.Directory.Version
import Scim.Proofs.Json.Equality
import Scim.Proofs.Directory.Unique
import Scim.Proofs.Json.Ascending
import Scim.Proofs.Patch.Independence
import Scim.Proofs.Directory.Failure
import Scim.Proofs.Directory.Frame
import Scim.Proofs.Directory.Reference
import Scim.Proofs.Directory.Bulk
import Scim.Proofs.Directory.Duplicate
import Scim.Proofs.Directory.Keeping
import Scim.Proofs.Json.Sorted
import Scim.Proofs.Patch.Sorted
import Scim.Proofs.Directory.Required
import Scim.Proofs.Primary
import Scim.Proofs.Directory.Document
import Scim.Proofs.Directory.Bodies
import Scim.Proofs.Directory.Bookkeeping
import Scim.Proofs.Directory.Visible
import Scim.Proofs.Number.Value
import Scim.Proofs.Store.Order
import Scim.Proofs.Directory.Paging
import Scim.Proofs.Directory.Roles
import Scim.Proofs.Path.Dotted
import Scim.Proofs.Patch.Reach
import Scim.Proofs.Directory.WriteBack
import Scim.Proofs.Directory.Offline
import Scim.Proofs.Filter.Operators
import Scim.Proofs.Path.Colon
import Scim.Proofs.Path.Bracket
import Scim.Proofs.Path.Literal
import Scim.Proofs.Path.Printing
import Scim.Proofs.Pattern.Quoted
import Scim.Proofs.Directory.Lifecycle
import Scim.Proofs.Patch.Manager
import Scim.Proofs.Patch.Exchange
import Scim.Proofs.Json.Part
import Scim.Proofs.Patch.Removal
import Scim.Proofs.Message.Reread
import Scim.Proofs.Patch.Valueless
import Scim.Proofs.Patch.Dropped
import Scim.Proofs.Patch.Untouched
import Scim.Proofs.Path.Extension
import Scim.Proofs.Primary.Choice
import Scim.Proofs.Filter.Query
import Scim.Proofs.Filter.Source
import Scim.Proofs.Listing
import Scim.Proofs.Patch.OneByOne
import Scim.Proofs.Path.Cut
import Scim.Proofs.Config
import Scim.Proofs.Number.Rounding
import Scim.Proofs.Filter.Integer
import Scim.Proofs.Directory.Resolution
