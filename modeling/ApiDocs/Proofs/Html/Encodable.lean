import ApiDocs.Html
import ApiDocs.Proofs.Json.Written

/-!
Which pages can be encoded. What goes into a page is escaped to ASCII or stays as it is, so the page of endpoints whose
texts can be encoded can be encoded, whatever the texts in their samples are (`isEncodable_page`).
-/
namespace ApiDocs

/-- The texts of an endpoint that are not in its samples. -/
def Endpoint.texts (e : Endpoint) : List Text :=
  [e.description,e.handler,e.method,e.path,e.responseType] ++ e.parameters.flatMap fun p => [p.name,p.type]

namespace Html
open Text

theorem isEncodable_escape {t : Text} (own : t.IsEncodable) : (escape t).IsEncodable := by
  refine List.forall_mem_flatMap.mpr fun c member => ?_
  unfold escapePoint
  split_ifs
  iterate 5 decide
  exact List.forall_mem_singleton.mpr (own c member)

/-- A value stands in a page in ASCII. -/
theorem isEncodable_script {v : Value} (exact : v.Exact) : (script v).IsEncodable := by
  have written := Json.isPrintable_prettyAt (Json.exact_sortMembers exact) 0
  refine List.forall_mem_flatMap.mpr fun c member => ?_
  unfold scriptPoint
  split_ifs
  · exact (Json.isPrintable_unitEscape c).isAscii.isEncodable
  · exact List.forall_mem_singleton.mpr (written.isAscii.isEncodable c member)

theorem isEncodable_sectionId {key : Text} (own : key.IsEncodable) : (sectionId key).IsEncodable := by
  refine List.forall_mem_flatMap.mpr fun c member => ?_
  split
  · decide
  · exact List.forall_mem_singleton.mpr (own c member)

theorem isEncodable_parameterRow {p : Parameter} (name : p.name.IsEncodable) (type : p.type.IsEncodable) :
    (parameterRow p).IsEncodable := by
  have answer : Text.IsEncodable (if p.required then "yes" else "no" : Text) := by
    split <;> exact isEncodable_ofString _
  simp [parameterRow,isEncodable_escape name,isEncodable_escape type,answer]

theorem isEncodable_parameterTable {ps : List Parameter}
    (each : ∀ p ∈ ps, p.name.IsEncodable ∧ p.type.IsEncodable) : (parameterTable ps).IsEncodable := by
  have rows : Text.IsEncodable (ps.flatMap parameterRow) :=
    List.forall_mem_flatMap.mpr fun p member => isEncodable_parameterRow (each p member).1 (each p member).2
  unfold parameterTable
  split
  · exact isEncodable_nil
  · simp [rows]

theorem isEncodable_sample {r : Response} (exact : r.body.Exact) : (sample r).IsEncodable := by
  simp [sample,isEncodable_script exact,(isPrintable_ofInt r.status).isAscii.isEncodable]

theorem isEncodable_responseType {t : Text} (own : t.IsEncodable) : (responseType t).IsEncodable := by
  unfold responseType
  split
  · exact isEncodable_nil
  · simp [isEncodable_escape own]

theorem isEncodable_endpoint {key : Text} {e : Endpoint} (named : key.IsEncodable)
    (own : ∀ t ∈ e.texts, t.IsEncodable) (exact : ∀ r ∈ e.responses, r.body.Exact) : (endpoint key e).IsEncodable := by
  have fields : ∀ t ∈ [e.description,e.handler,e.method,e.path,e.responseType], Text.IsEncodable t :=
    fun t member => own t (List.mem_append_left _ member)
  simp only [List.forall_mem_cons] at fields
  obtain ⟨description,handler,method,path,type,_⟩ := fields
  have parameters : ∀ p ∈ e.parameters, p.name.IsEncodable ∧ p.type.IsEncodable := by
    intro p member
    have inside : ∀ t ∈ [p.name,p.type], t ∈ e.texts := fun t among =>
      List.mem_append_right _ (List.mem_flatMap.mpr ⟨p,member,among⟩)
    exact ⟨own _ (inside _ (by simp)),own _ (inside _ (by simp))⟩
  have samples : Text.IsEncodable (e.responses.flatMap sample) :=
    List.forall_mem_flatMap.mpr fun r member => isEncodable_sample (exact r member)
  simp [endpoint,isEncodable_escape (isEncodable_sectionId named),isEncodable_escape,description,handler,method,path,
    isEncodable_responseType type,isEncodable_parameterTable parameters,samples]

/-- The page of endpoints whose texts can be encoded can be encoded. -/
theorem isEncodable_page {endpoints : List (Text × Endpoint)}
    (each : ∀ entry ∈ endpoints, Text.IsEncodable entry.1 ∧ (∀ t ∈ entry.2.texts, t.IsEncodable) ∧
      ∀ r ∈ entry.2.responses, r.body.Exact) : (page endpoints).IsEncodable := by
  have sections : Text.IsEncodable (endpoints.flatMap fun entry => endpoint entry.1 entry.2) := by
    refine List.forall_mem_flatMap.mpr fun entry member => ?_
    obtain ⟨named,own,exact⟩ := each entry member
    exact isEncodable_endpoint named own exact
  simp [page,sections]

end Html

end ApiDocs
