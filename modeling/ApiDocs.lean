import ApiDocs.Config
import ApiDocs.Redaction
import ApiDocs.Render
import ApiDocs.Capture.Asgi
import ApiDocs.Capture.Wsgi
import ApiDocs.Command.Options
import ApiDocs.Command.Request
import ApiDocs.Command.Run
import ApiDocs.Main
import ApiDocs.Proofs.Capture.Answer
import ApiDocs.Proofs.Capture.Call
import ApiDocs.Proofs.Capture.Confluence
import ApiDocs.Proofs.Capture.Consumption
import ApiDocs.Proofs.Capture.Interleaving
import ApiDocs.Proofs.Capture.Noninterference
import ApiDocs.Proofs.Capture.Rendering
import ApiDocs.Proofs.Capture.Transparency
import ApiDocs.Proofs.Command.Agreement
import ApiDocs.Proofs.Command.Listing
import ApiDocs.Proofs.Extraction.Image
import ApiDocs.Proofs.Extraction.Indentation
import ApiDocs.Proofs.Extraction.Order
import ApiDocs.Proofs.Files.Exactness
import ApiDocs.Proofs.Files.Limit
import ApiDocs.Proofs.Files.Links
import ApiDocs.Proofs.Format.OutputPath
import ApiDocs.Proofs.Generation.Distinctness
import ApiDocs.Proofs.Generation.Failure
import ApiDocs.Proofs.Generation.Idempotence
import ApiDocs.Proofs.Generation.Output
import ApiDocs.Proofs.Html.Tags
import ApiDocs.Proofs.Redaction.Compact
import ApiDocs.Proofs.Redaction.Exactness
import ApiDocs.Proofs.Registry.Restore
