import ShaderRegistry.Main
import ShaderRegistry.Table.Edit
import ShaderRegistry.Proofs.Text.Decimal
import ShaderRegistry.Proofs.Bits
import ShaderRegistry.Proofs.Attempt
import ShaderRegistry.Proofs.CanonicalName
import ShaderRegistry.Proofs.ProfileName
import ShaderRegistry.Proofs.PackedKey
import ShaderRegistry.Proofs.VersionOrder
import ShaderRegistry.Proofs.Succession
import ShaderRegistry.Proofs.Table.Accepted
import ShaderRegistry.Proofs.Table.Complaint
import ShaderRegistry.Proofs.Table.Ordering
import ShaderRegistry.Proofs.Table.Search
import ShaderRegistry.Proofs.Table.Identity
import ShaderRegistry.Proofs.Table.Editing
import ShaderRegistry.Proofs.Catalog.Resolution
import ShaderRegistry.Proofs.Catalog.Lookup
import ShaderRegistry.Proofs.Catalog.Specification
import ShaderRegistry.Proofs.CompiledVersions
import ShaderRegistry.Proofs.VersionAgreement
import ShaderRegistry.Proofs.Configuration
import ShaderRegistry.Proofs.Report
import ShaderRegistry.Proofs.ValidatedConfig
import ShaderRegistry.Proofs.CommandLine.Grammar
import ShaderRegistry.Proofs.CommandLine.Classification
import ShaderRegistry.Proofs.CommandLine.Meaning
import ShaderRegistry.Proofs.CommandLine.Consumption
import ShaderRegistry.Proofs.CommandLine.Language
import ShaderRegistry.Proofs.Listing.Kinds
import ShaderRegistry.Proofs.CommandLine.Answer
import ShaderRegistry.Proofs.Listing.Columns
import ShaderRegistry.Proofs.Detail.Headline
import ShaderRegistry.Proofs.Detail.Identity
import ShaderRegistry.Proofs.KindName
import ShaderRegistry.Proofs.LaunchName
import ShaderRegistry.Proofs.Listing.Alignment
import ShaderRegistry.Proofs.Listing.ReadBack
