import ApiDocs.Document
import ApiDocs.DocsFile

/-!
A document is checked to be what it is the document of: an endpoint is read back from its fields
(`Endpoint.check_document`), and a snapshot from its members (`endpointsOfMembers_document`).
-/
namespace ApiDocs

open Validation

namespace Validation

/-- Items that are each read back make a list that is read back. -/
theorem items_map {α : Type} {check : Value → Checked α} {document : α → Value} {as : List α}
    (each : ∀ a ∈ as, check (document a) = .ok a) (index : Nat) : items check index (as.map document) = .ok as := by
  induction as generalizing index with
  | nil => rfl
  | cons a rest ih =>
    obtain ⟨first,later⟩ := List.forall_mem_cons.mp each
    rw [List.map_cons,items,first,ih later]
    rfl

end Validation

theorem Parameter.check_document (p : Parameter) : Parameter.check p.document = .ok p := rfl

theorem Response.check_document (r : Response) : Response.check r.document = .ok r := rfl

/-- An endpoint is read back from its document, whatever its texts and samples are. -/
theorem Endpoint.check_document (e : Endpoint) : Endpoint.check e.document = .ok e := by
  have parameters : list Parameter.check (.arr (e.parameters.map Parameter.document)) = .ok e.parameters :=
    items_map (fun p _ => p.check_document) 0
  have responses : list Response.check (.arr (e.responses.map Response.document)) = .ok e.responses :=
    items_map (fun r _ => r.check_document) 0
  -- Every field is found under its own name, so that only the two lists are left to be read.
  show Except.map _ (Checked.and (.ok e.description) (Checked.and (.ok e.handler) (Checked.and (.ok e.method)
    (Checked.and (.ok e.path) (Checked.and (.ok e.responseType)
      (Checked.and ((list Parameter.check (.arr (e.parameters.map Parameter.document))).under "parameters")
        ((list Response.check (.arr (e.responses.map Response.document))).under "responses"))))))) = _
  rw [parameters,responses]
  rfl

/-- The members of the document of a snapshot are read back as its endpoints, by key and in their order. -/
theorem endpointsOfMembers_document (s : Snapshot) :
    endpointsOfMembers (s.map fun (key,e) => (key,e.document)) = .ok s := by
  induction s with
  | nil => rfl
  | cons entry rest ih =>
    rw [List.map_cons,endpointsOfMembers,Endpoint.check_document]
    dsimp only
    rw [ih]
    rfl

end ApiDocs
