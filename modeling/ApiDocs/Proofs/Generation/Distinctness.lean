import ApiDocs.Proofs.Extraction.Order
import ApiDocs.Proofs.Html.SectionIds
import ApiDocs.Proofs.Registry.Keys

/-!
How endpoints are told apart, from their methods and paths over their keys to the ids of their sections. Both ways lose
something: a key has a blank between a method and a path that may have blanks themselves, and an id has hyphens for the blanks
of a key that may have hyphens itself. The main result says exactly which endpoints and which keys fall together
(`endpoints_told_apart`).
-/
namespace ApiDocs

open Source

/-- Endpoints that differ in method or path have different keys unless they cross, which takes a blank in a method and one
    in a path. A registry keeps all endpoints that are loaded into it exactly when no two of them cross. The sections of a
    page have the ids of its keys, and these are different exactly when no two keys are the same but for blanks and
    hyphens. -/
theorem endpoints_told_apart :
    (∀ e f : Endpoint, e.method ≠ f.method ∨ e.path ≠ f.path → (e.key = f.key ↔ e.Crosses f ∨ f.Crosses e)) ∧
    (∀ e f : Endpoint, e.Crosses f → 0x20 ∈ f.method ∧ 0x20 ∈ e.path) ∧
    (∀ (r : Registry) (es : List Endpoint),
      (∀ e ∈ es, (r.load es).Keeps e) ↔ ∀ e ∈ es, ∀ f ∈ es, ¬ e.Crosses f) ∧
    ∀ (s : Snapshot) (b : Bytes), s.render .html = .ok b → ∃ page, Utf8.encode page = .ok b ∧
      Html.sectionIds page = (s.map (·.1)).map (fun key => Html.escape (Html.sectionId key)) ∧
      ((Html.sectionIds page).Nodup ↔ (s.map (·.1)).Pairwise fun key other => ¬ Html.SameButBlanks key other) := by
  refine ⟨fun e f differ => ?_,fun e f crosses => ?_,Registry.keeps_load_iff,fun s b => Snapshot.sectionIds_render⟩
  · rw [e.key_eq_iff f]
    exact or_iff_right fun same => differ.elim (absurd same.1) (absurd same.2)
  · obtain ⟨between,method,path⟩ := crosses
    exact ⟨by simp [method],by simp [path]⟩

/-! Two endpoints of one path. -/

private def getUsers : Endpoint := { method := "GET", path := "/users" }

private def postUsers : Endpoint := { method := "POST", path := "/users" }

theorem endpoints_told_apart_users : (getUsers.method ≠ postUsers.method ∨ getUsers.path ≠ postUsers.path) ∧
    getUsers.key ≠ postUsers.key ∧ (∀ e ∈ [getUsers,postUsers], (Registry.ofList [getUsers,postUsers]).Keeps e) ∧
    ∃ b page, (Registry.ofList [getUsers,postUsers]).snapshot.render .html = .ok b ∧ Utf8.encode page = .ok b ∧
      (Html.sectionIds page).Nodup := by
  obtain ⟨keys,blanks,kept,ids⟩ := endpoints_told_apart
  have differ : getUsers.method ≠ postUsers.method ∨ getUsers.path ≠ postUsers.path := .inl (by decide)
  have plain : ∀ f ∈ [getUsers,postUsers], 0x20 ∉ f.method := by decide
  have apart : ∀ e ∈ [getUsers,postUsers], ∀ f ∈ [getUsers,postUsers], ¬ e.Crosses f :=
    fun e _ f member crosses => plain f member (blanks e f crosses).1
  obtain ⟨b,rendered⟩ := Snapshot.exists_render_of_bare (s := (Registry.ofList [getUsers,postUsers]).snapshot) (by decide)
    (by decide) (by decide) .html
  obtain ⟨page,encoded,_,distinct⟩ := ids _ b rendered
  refine ⟨differ,fun same => ?_,(kept .empty _).mpr apart,b,page,rendered,encoded,distinct.mpr (by decide)⟩
  rcases (keys getUsers postUsers differ).mp same with crosses | crosses
  · exact apart _ (by simp) _ (by simp) crosses
  · exact apart _ (by simp) _ (by simp) crosses

/-! Two functions whose endpoints cross, and two endpoints of which one has a blank where the other has a hyphen. -/

private def shortMethod : Endpoint := { handler := "f", method := "GET", path := "/a /b" }

private def longMethod : Endpoint := { handler := "g", method := "GET /a", path := "/b" }

private def crossingSource : Text :=
  "def f(): '@docs\\n@method GET\\n@path /a /b'\ndef g(): '@docs\\n@method GET /a\\n@path /b'\n"

private def crossingDefinitions : List Definition :=
  [⟨"f",some "@docs\n@method GET\n@path /a /b"⟩,⟨"g",some "@docs\n@method GET /a\n@path /b"⟩]

private theorem extract_crossing : (extract "a.py" crossingSource).result = .ok [shortMethod,longMethod] := by
  have outline : (definitions crossingSource).toOption = some crossingDefinitions := by decide +kernel
  exact extract_of_definitions "a.py" (by decide) (by decide) (eq_ok_of_toOption outline) (by decide)

private def blank : Endpoint := { method := "GET", path := "/a b" }

private def hyphen : Endpoint := { method := "GET", path := "/a-b" }

/-- Two endpoints of one text have the same key and only the second is kept, and two keys that are not the same give sections
    with the same id. -/
theorem endpoints_fall_together :
    ((extract "a.py" crossingSource).result = .ok [shortMethod,longMethod] ∧ shortMethod.method ≠ longMethod.method ∧
      shortMethod.path ≠ longMethod.path ∧ shortMethod.key = longMethod.key ∧
      (Registry.ofList [shortMethod,longMethod]).snapshot = [(longMethod.key,longMethod)]) ∧
    (((Registry.ofList [blank,hyphen]).snapshot.map (·.1)).Nodup ∧
      ∃ b page, (Registry.ofList [blank,hyphen]).snapshot.render .html = .ok b ∧ Utf8.encode page = .ok b ∧
        Html.sectionIds page = ["GET-/a-b","GET-/a-b"]) := by
  refine ⟨⟨extract_crossing,by decide,by decide,by decide,by rfl⟩,by decide,?_⟩
  obtain ⟨b,rendered⟩ := Snapshot.exists_render_of_bare (s := (Registry.ofList [blank,hyphen]).snapshot) (by decide)
    (by decide) (by decide) .html
  obtain ⟨page,encoded,ids,_⟩ := Snapshot.sectionIds_render rendered
  exact ⟨b,page,rendered,encoded,ids.trans (by decide)⟩

end ApiDocs
