import PageComposer.Fault.Arguments
import PageComposer.Proofs.Builtin.Forests
import PageComposer.Proofs.Composition.Outcomes
import PageComposer.Proofs.Pipeline.Discipline
import PageComposer.Proofs.Registry.Chronicle
import PageComposer.Proofs.Renderer.Mixing
import PageComposer.Proofs.Service.Isolation
import PageComposer.Proofs.Service.Provenance
import PageComposer.Site
import PageComposer.Wiring.Survey
import PageComposer.Proofs.Pipeline.Splicing
import PageComposer.Proofs.Renderer.Linear
import PageComposer.Proofs.Builtin.Verdicts
import PageComposer.Proofs.Json.Keys
import PageComposer.Proofs.Repository.Activation
import PageComposer.Proofs.Repository.Parts
import PageComposer.Proofs.Repository.Interchange
import PageComposer.Proofs.Http.Disclosure
import PageComposer.Proofs.Registry.Deliveries
import PageComposer.Proofs.Repository.Interleavings
import PageComposer.Proofs.Service.Resolvability
import PageComposer.Proofs.Service.Failures
import PageComposer.Proofs.Service.Replacement
import PageComposer.Proofs.Service.Heirs
import PageComposer.Proofs.Service.Disposal
import PageComposer.Proofs.Page.Reports
import PageComposer.Proofs.Composition.Repetition
import PageComposer.Proofs.Flag.Inquiries
import PageComposer.Proofs.Page.Agreement
import PageComposer.Proofs.Page.Versions
import PageComposer.Proofs.Text.Casing
import PageComposer.Proofs.Locale.Tags
import PageComposer.Proofs.Registry.Searching
import PageComposer.Proofs.Markup.Escaping
import PageComposer.Proofs.Value.Spelling
import PageComposer.Proofs.Builtin.Items
