import TraitCatalog.Main
import TraitCatalog.Report.Outlet
import TraitCatalog.Proofs.Catalog.Checksum
import TraitCatalog.Proofs.Catalog.FirstFault
import TraitCatalog.Proofs.Catalog.Framed
import TraitCatalog.Proofs.Catalog.Inverted
import TraitCatalog.Proofs.Command.Delivery
import TraitCatalog.Proofs.Command.Inspection
import TraitCatalog.Proofs.Command.Missing
import TraitCatalog.Proofs.Command.Overwriting
import TraitCatalog.Proofs.Handoff.Acting
import TraitCatalog.Proofs.Handoff.Course
import TraitCatalog.Proofs.Handoff.Order
import TraitCatalog.Proofs.Markup.Signature
import TraitCatalog.Proofs.Markup.Stripped
import TraitCatalog.Proofs.Payload.Contained
import TraitCatalog.Proofs.Payload.Document
import TraitCatalog.Proofs.Payload.FirstSchema
import TraitCatalog.Proofs.Payload.Newlines
import TraitCatalog.Proofs.Payload.Numbered
import TraitCatalog.Proofs.Payload.Repeated
import TraitCatalog.Proofs.Settings.Location
import TraitCatalog.Proofs.Settings.Overridden
