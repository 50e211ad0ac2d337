import ApiDocs.Capture.Sample
import ApiDocs.Proofs.Json.Equality
import ApiDocs.Proofs.Redaction.Shape
import ApiDocs.Render
import Mathlib.Data.List.Forall2

/-!
Nothing that was served can be told from what was recorded. Two runs of recorded calls whose bodies are of one
shape, call by call, answer alike, leave the same registries and the same events, and so the same rendered
documentation and the same log (`recordAll_noninterference`).
-/
namespace ApiDocs.Capture

/-- A call that records a sample. -/
structure Call where
  method : Text
  path : Text
  status : Value
  body : Value

/-- What a call leaves. -/
def Call.record (c : Call) (r : Registry) : Recorded := r.record c.method c.path c.status c.body

/-- What calls leave one after another, each in the registry that the one before left. -/
def recordAll (r : Registry) : List Call → List Recorded
  | [] => []
  | c :: rest => c.record r :: recordAll (c.record r).registry rest

/-- Bodies that are the same, or say documents of one shape. -/
def SameBody (b c : Value) : Prop :=
  b = c ∨ ∃ v w, loaded? b = some v ∧ loaded? c = some w ∧ SameShape v w

/-- Calls that differ in nothing but what is in their bodies. -/
structure Call.Alike (c d : Call) : Prop where
  method : c.method = d.method
  path : c.path = d.path
  status : c.status = d.status
  body : SameBody c.body d.body

theorem redactBody_eq_of_sameBody {b c : Value} (same : SameBody b c) : redactBody b = redactBody c := by
  rcases same with rfl | ⟨v,w,first,second,shape⟩
  · rfl
  · rw [redactBody_of_loaded first,redactBody_of_loaded second,redact_eq_of_sameShape shape]

/-- A body counts for a call only through its redaction. -/
theorem record_eq_of_redactBody {b c : Value} (same : redactBody b = redactBody c) (r : Registry)
    (method path : Text) (status : Value) : r.record method path status b = r.record method path status c := by
  unfold Registry.record
  rw [same]

theorem Call.Alike.record {c d : Call} (alike : c.Alike d) (r : Registry) : c.record r = d.record r := by
  unfold Call.record
  rw [alike.method,alike.path,alike.status]
  exact record_eq_of_redactBody (redactBody_eq_of_sameBody alike.body) r _ _ _

theorem recordAll_eq_of_alike {cs ds : List Call} (alike : List.Forall₂ Call.Alike cs ds) (r : Registry) :
    recordAll r cs = recordAll r ds := by
  induction alike generalizing r with
  | nil => rfl
  | cons first _ ih => rw [recordAll,recordAll,first.record r,ih]

/-- What the log tells of an event: how much it matters, its channel, its wording, and what went wrong. -/
def logged (e : Event) : Severity × Text × Text × Option Text := (e.severity,e.channel,e.message,e.cause?)

/-- Calls that differ only in what is in bodies of one shape have the same answers, the same registries after each
    of them, the same documentation rendered from these in each format, or the same refusal to render it, and
    the same log. -/
theorem recordAll_noninterference (r : Registry) {cs ds : List Call} (alike : List.Forall₂ Call.Alike cs ds) :
    (recordAll r cs).map (·.result) = (recordAll r ds).map (·.result) ∧
    (recordAll r cs).map (·.registry.snapshot) = (recordAll r ds).map (·.registry.snapshot) ∧
    (∀ format, (recordAll r cs).map (·.registry.snapshot.render format) =
      (recordAll r ds).map (·.registry.snapshot.render format)) ∧
    (recordAll r cs).map (·.events.map logged) = (recordAll r ds).map (·.events.map logged) := by
  rw [recordAll_eq_of_alike alike r]
  exact ⟨rfl,rfl,fun _ => rfl,rfl⟩

/-- A recorded call whose body is an object with one name in it. -/
private def named (name : String) : Call :=
  ⟨"GET","/a",.int 200,
    .foreign (.bytes (("\x7b\"name\":\"" ++ name ++ "\"\x7d" : String).toList.map (·.toNat.toUInt8)))⟩

theorem recordAll_noninterference_names :
    List.Forall₂ Call.Alike [named "Ann",named ""] [named "",named "Bob"] ∧
    (recordAll (.ofList [{ method := "GET", path := "/a" }]) [named "Ann",named ""]).map (·.events.map logged) =
      (recordAll (.ofList [{ method := "GET", path := "/a" }]) [named "",named "Bob"]).map (·.events.map logged) := by
  have ann : loaded? (named "Ann").body = some (.obj [("name",.str "Ann")]) := by decide +kernel
  have bob : loaded? (named "Bob").body = some (.obj [("name",.str "Bob")]) := by decide +kernel
  have nobody : loaded? (named "").body = some (.obj [("name",.str "")]) := by decide +kernel
  have shape (s t : Text) : SameShape (.obj [("name",.str s)]) (.obj [("name",.str t)]) :=
    .obj (.cons (.str s t) .nil)
  have alike : List.Forall₂ Call.Alike [named "Ann",named ""] [named "",named "Bob"] :=
    .cons ⟨rfl,rfl,rfl,.inr ⟨_,_,ann,nobody,shape _ _⟩⟩ (.cons ⟨rfl,rfl,rfl,.inr ⟨_,_,nobody,bob,shape _ _⟩⟩ .nil)
  exact ⟨alike,(recordAll_noninterference _ alike).2.2.2⟩

end ApiDocs.Capture
