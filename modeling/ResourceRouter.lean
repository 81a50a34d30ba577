import ResourceRouter.Main
import ResourceRouter.Proofs.Catalogue.Entries
import ResourceRouter.Proofs.Dispatch.Authorization
import ResourceRouter.Proofs.Dispatch.Handlers
import ResourceRouter.Proofs.Dispatch.DeclaredActions
import ResourceRouter.Proofs.Dispatch.PrimaryUse
import ResourceRouter.Proofs.Json.Lookup
import ResourceRouter.Proofs.Service.Pipeline
import ResourceRouter.Proofs.Filter.Clauses
import ResourceRouter.Proofs.Filter.Composition
import ResourceRouter.Proofs.Filter.Operators
import ResourceRouter.Proofs.Filter.Syntax
import ResourceRouter.Proofs.Filter.Arrangement
import ResourceRouter.Proofs.Filter.Typing
import ResourceRouter.Proofs.Filter.Language
import ResourceRouter.Proofs.Text.Trimming
import ResourceRouter.Proofs.Url.Relative
import ResourceRouter.Proofs.Address.Path
import ResourceRouter.Proofs.Address.Below
import ResourceRouter.Proofs.Text.Numeral
import ResourceRouter.Proofs.Address.RecordId
import ResourceRouter.Proofs.Address.Tokens
import ResourceRouter.Proofs.Address.Shape
import ResourceRouter.Proofs.Address.VersionTag
import ResourceRouter.Proofs.Address.Spelled
import ResourceRouter.Proofs.Address.RoundTrip
import ResourceRouter.Proofs.Address.RecordHref
import ResourceRouter.Proofs.Targets.Bulk
import ResourceRouter.Proofs.Targets.Element
import ResourceRouter.Proofs.Targets.Parent
import ResourceRouter.Proofs.Targets.Provenance
import ResourceRouter.Proofs.Targets.References
import ResourceRouter.Proofs.Text.Ascii
import ResourceRouter.Proofs.Url.Path
import ResourceRouter.Proofs.Url.Absolute
import ResourceRouter.Proofs.Address.Names
import ResourceRouter.Proofs.Address.Forms
import ResourceRouter.Proofs.Catalogue.Validation
import ResourceRouter.Proofs.Dispatch.Grants
import ResourceRouter.Proofs.Service.Disclosure
import ResourceRouter.Proofs.Service.Reconfiguration
import ResourceRouter.Proofs.Service.Validation
import ResourceRouter.Proofs.Filter.WireForm
import ResourceRouter.Proofs.Filter.Agreement
import ResourceRouter.Proofs.Filter.Wildcards
import ResourceRouter.Proofs.Filter.Quotation
import ResourceRouter.Proofs.Filter.NormalForm
import ResourceRouter.Proofs.Filter.Scanning
import ResourceRouter.Proofs.Filter.Printing
import ResourceRouter.Proofs.Filter.PlainValues
import ResourceRouter.Proofs.Filter.Complements
import ResourceRouter.Proofs.Targets.Absence
import ResourceRouter.Proofs.Address.Root
import ResourceRouter.Proofs.Service.Assembly
import ResourceRouter.Proofs.Dispatch.Siblings
import ResourceRouter.Proofs.Json.Ordered
import ResourceRouter.Proofs.Json.Place
import ResourceRouter.Proofs.Config.Decoding
import ResourceRouter.Proofs.Config.Layers
import ResourceRouter.Proofs.Config.UnknownFields
