import ApiDocs.Proofs.Extraction.Image
import ApiDocs.Proofs.Source.Outline

/-!
Which endpoints are read from a source text, and in which order (`extract_inOrder`). The functions in its tree are those
that its words `def` define, one for each, at whatever depth; they stand at places that go up, each in front of those inside
it, although they are collected breadth first. Every documented one gives one endpoint, under its own name and from its own
docstring.
-/
namespace ApiDocs

open Source

/-- The endpoints of a source text are those of its documented functions, each once and in the order of the text. -/
theorem extract_inOrder (file source : Text) {found : List Endpoint} (extracted : (extract file source).result = .ok found) :
    ∃ tree, parse moduleGrammar .file source = .ok tree ∧
      List.Forall₂ (DefinedAt (lex 1 source)) (defs (lex 1 source) 0 (lex 1 source).tokens.size) tree.functionNodes ∧
      tree.functionNodes.Pairwise (fun f g => Before f.place g.place) ∧
      found = (tree.functionNodes.filter (·.definition.isDocumented)).map (·.definition.endpoint) ∧
      found.map (·.handler) = (tree.functionNodes.filter (·.definition.isDocumented)).map (·.definedName) := by
  obtain ⟨ds,outlined,_,rfl⟩ := extract_ok extracted
  obtain ⟨tree,parsed,rfl⟩ := definitions_ok outlined
  have covers := covers_parse parsed
  refine ⟨tree,parsed,covers.each,covers.rising (inOrder_lex 1 source),?_,?_⟩
  · rw [List.filter_map,List.map_map]
    rfl
  · rw [List.filter_map,List.map_map,List.map_map]
    exact List.map_congr_left fun f _ => (Endpoint.ofDocstring_unstated f.definedName f.definition.doc).1

/-! A module with functions inside a class and inside a function, of which one is not documented. -/

private def nestedSource : Text := "class A:\n def f():\n  '@docs a'\n  async def g(): '@docs b'\n def h(): pass\n"

private def nestedDefinitions : List Definition := [⟨"f",some "@docs a"⟩,⟨"g",some "@docs b"⟩,⟨"h",none⟩]

private theorem definitions_nested : (definitions nestedSource).toOption = some nestedDefinitions := by decide +kernel

private theorem extract_nested : (extract "a.py" nestedSource).result =
    .ok [{ handler := "f", description := "a" },{ handler := "g", description := "b" }] :=
  extract_of_definitions "a.py" (by decide) (by decide) (eq_ok_of_toOption definitions_nested) (by decide)

/-- The endpoints come as the functions do, of which one gives none. -/
theorem extract_inOrder_nested : (extract "a.py" nestedSource).result =
      .ok [{ handler := "f", description := "a" },{ handler := "g", description := "b" }] ∧
    ∃ tree, parse moduleGrammar .file nestedSource = .ok tree ∧ tree.functionNodes.length = 3 ∧
      [("f" : Text),"g"] = (tree.functionNodes.filter (·.definition.isDocumented)).map (·.definedName) := by
  obtain ⟨tree,parsed,each,_,_,handlers⟩ := extract_inOrder "a.py" nestedSource extract_nested
  refine ⟨extract_nested,tree,parsed,?_,handlers⟩
  rw [← each.length_eq]
  decide +kernel

end ApiDocs
