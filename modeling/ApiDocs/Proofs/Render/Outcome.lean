import ApiDocs.Proofs.Html.Encodable
import ApiDocs.Proofs.Redaction.Placeholder
import ApiDocs.Proofs.Yaml.Encodable

/-!
Which snapshots can be rendered. When what is documented can be encoded and every sample is the shape of a body, the
documentation is rendered in one format exactly when it is in the others: when every name in a sample can be encoded
(`Snapshot.render_iff`).
-/
namespace ApiDocs

open Value

/-! ### Documents -/

/-- The document of an endpoint is exact when the samples are. -/
theorem Endpoint.exact_document {e : Endpoint}
    (samples : ∀ r ∈ e.responses, r.body.Exact ∧ isWritableInt r.status = true) : e.document.Exact := by
  have parameter (p : Parameter) : p.document.Exact := by
    refine .obj (by decide : (["name","type","required"] : List Text).Nodup) ?_
    simp [Exact.str,Exact.bool]
  have sample : ∀ r ∈ e.responses, r.document.Exact := by
    intro r member
    refine .obj (by decide : (["body","statusCode"] : List Text).Nodup) ?_
    simp [(samples r member).1,Exact.int r.status (samples r member).2]
  have parameters : (arr (e.parameters.map Parameter.document)).Exact :=
    .arr (List.forall_mem_map.mpr fun p _ => parameter p)
  have responses : (arr (e.responses.map Response.document)).Exact := .arr (List.forall_mem_map.mpr sample)
  refine .obj (by decide : (["description","handler","method","path","response","parameters","responses"] :
    List Text).Nodup) ?_
  simp [Exact.str,parameters,responses]

/-- The texts in the document of an endpoint are its own, those in its samples, and the names of the fields. -/
theorem Endpoint.texts_document {P : Text → Prop} (names : ∀ s : String, P s) {e : Endpoint} (own : ∀ t ∈ e.texts, P t)
    (samples : ∀ r ∈ e.responses, ∀ t ∈ r.body.texts, P t) : ∀ t ∈ e.document.texts, P t := by
  have string {s : Text} (holds : P s) : ∀ t ∈ (str s).texts, P t := fun t member => List.mem_singleton.mp member ▸ holds
  have leaf {v : Value} (none : v.texts = []) : ∀ t ∈ v.texts, P t := fun t member => by simp [none] at member
  have fields : ∀ t ∈ [e.description,e.handler,e.method,e.path,e.responseType], P t :=
    fun t member => own t (List.mem_append_left _ member)
  have parameters : ∀ t ∈ (arr (e.parameters.map Parameter.document)).texts, P t := by
    refine texts_arr.mpr (List.forall_mem_map.mpr fun p member => texts_obj.mpr ?_)
    have inside : ∀ t ∈ [p.name,p.type], P t := fun t among =>
      own t (List.mem_append_right _ (List.mem_flatMap.mpr ⟨p,member,among⟩))
    simp only [List.forall_mem_cons] at inside ⊢
    exact ⟨⟨names _,string inside.1⟩,⟨names _,string inside.2.1⟩,⟨names _,leaf rfl⟩,by simp⟩
  have responses : ∀ t ∈ (arr (e.responses.map Response.document)).texts, P t := by
    refine texts_arr.mpr (List.forall_mem_map.mpr fun r member => texts_obj.mpr ?_)
    simp only [List.forall_mem_cons]
    exact ⟨⟨names _,samples r member⟩,⟨names _,leaf rfl⟩,by simp⟩
  refine texts_obj.mpr ?_
  simp only [List.forall_mem_cons] at fields ⊢
  obtain ⟨description,handler,method,path,type,_⟩ := fields
  exact ⟨⟨names _,string description⟩,⟨names _,string handler⟩,⟨names _,string method⟩,⟨names _,string path⟩,
    ⟨names _,string type⟩,⟨names _,parameters⟩,⟨names _,responses⟩,by simp⟩

namespace Snapshot

theorem exact_document {s : Snapshot} (distinct : (s.map (·.1)).Nodup)
    (samples : ∀ entry ∈ s, ∀ r ∈ entry.2.responses, r.body.Exact ∧ isWritableInt r.status = true) :
    s.document.Exact := by
  refine .obj ?_ (List.forall_mem_map.mpr fun entry member => Endpoint.exact_document (samples entry member))
  rw [List.map_map]
  exact distinct

theorem texts_document {P : Text → Prop} (names : ∀ s : String, P s) {s : Snapshot}
    (own : ∀ entry ∈ s, P entry.1 ∧ ∀ t ∈ entry.2.texts, P t)
    (samples : ∀ entry ∈ s, ∀ r ∈ entry.2.responses, ∀ t ∈ r.body.texts, P t) : ∀ t ∈ s.document.texts, P t := by
  refine texts_obj.mpr (List.forall_mem_map.mpr fun entry member => ?_)
  exact ⟨(own entry member).1,Endpoint.texts_document names (own entry member).2 (samples entry member)⟩

end Snapshot

/-! ### Samples in documents -/

theorem eachDocumented_eq_self {α : Type} {f : α → Except DocumentFault α} {as : List α} (each : ∀ a ∈ as, f a = .ok a) :
    eachDocumented f as = .ok as := by
  induction as with
  | nil => rfl
  | cons a rest ih =>
    obtain ⟨first,later⟩ := List.forall_mem_cons.mp each
    rw [eachDocumented,first]
    dsimp only
    rw [ih later]
    rfl

theorem forall_of_eachDocumented {α β : Type} {f : α → Except DocumentFault β} {as : List α} {bs : List β}
    (run : eachDocumented f as = .ok bs) : ∀ a ∈ as, ∃ b, f a = .ok b := by
  induction as generalizing bs with
  | nil => simp
  | cons a rest ih =>
    rw [eachDocumented] at run
    cases first : f a with
    | error fault => rw [first] at run; cases run
    | ok b =>
      rw [first] at run
      obtain ⟨later,more,_⟩ := map_eq_ok run
      exact List.forall_mem_cons.mpr ⟨⟨b,first⟩,ih more⟩

/-- What can be told of an element before as after it is documented is told of the elements in order. -/
theorem map_eachDocumented {α β γ : Type} {f : α → Except DocumentFault β} {before : α → γ} {after : β → γ}
    (same : ∀ a b, f a = .ok b → after b = before a) {as : List α} {bs : List β} (run : eachDocumented f as = .ok bs) :
    bs.map after = as.map before := by
  induction as generalizing bs with
  | nil =>
    cases run
    rfl
  | cons a rest ih =>
    rw [eachDocumented] at run
    cases first : f a with
    | error fault => rw [first] at run; cases run
    | ok b =>
      rw [first] at run
      obtain ⟨later,more,rfl⟩ := map_eq_ok run
      rw [List.map_cons,List.map_cons,same a b first,ih more]

namespace Snapshot

/-- What is rendered is the text of what is documented. -/
theorem encode_of_render {s : Snapshot} {format : Format} {b : Bytes} (rendered : s.render format = .ok b) :
    ∃ w, s.documented = .ok w ∧ Utf8.encode (w.text format) = .ok b := by
  unfold render renderText at rendered
  cases documented : s.documented with
  | error fault => simp [documented] at rendered
  | ok w =>
    rw [documented] at rendered
    cases writable : w.document.intsWritable with
    | false => simp [writable] at rendered
    | true =>
      simp only [writable,if_true] at rendered
      cases encoded : Utf8.encode (w.text format) with
      | error fault => simp [encoded] at rendered
      | ok octets => exact ⟨w,rfl,by simpa [encoded] using rendered⟩

/-- What is documented can be encoded, no key stands twice, and every sample is the shape of a body with a status that
    can be written. -/
structure IsSound (s : Snapshot) : Prop where
  distinct : (s.map (·.1)).Nodup
  static : ∀ entry ∈ s, Text.IsEncodable entry.1 ∧ ∀ t ∈ entry.2.texts, t.IsEncodable
  samples : ∀ entry ∈ s, ∀ r ∈ entry.2.responses, IsShape r.body ∧ isWritableInt r.status = true

/-- Every name in a sample can be encoded. -/
def HasEncodableSamples (s : Snapshot) : Prop :=
  ∀ entry ∈ s, ∀ r ∈ entry.2.responses, ∀ t ∈ r.body.texts, t.IsEncodable

theorem IsSound.exact {s : Snapshot} (sound : s.IsSound) : ∀ entry ∈ s, ∀ r ∈ entry.2.responses,
    r.body.Exact ∧ isWritableInt r.status = true :=
  fun entry member r among => (sound.samples entry member r among).imp_left IsShape.exact

/-- Samples whose names can be encoded stand in a document as they are. -/
theorem documented_eq_self {s : Snapshot} (sound : s.IsSound) (encodable : s.HasEncodableSamples) :
    s.documented = .ok s := by
  refine eachDocumented_eq_self fun ⟨key,e⟩ member => ?_
  have samples : eachDocumented Response.documented e.responses = .ok e.responses := by
    refine eachDocumented_eq_self fun r among => ?_
    rw [Response.documented,(sound.exact _ member r among).1.documented (encodable _ member r among)]
    rfl
  dsimp only
  rw [Endpoint.documented,samples]
  rfl

/-- Other samples do not. -/
theorem hasEncodableSamples_of_documented {s w : Snapshot} (sound : s.IsSound) (run : s.documented = .ok w) :
    s.HasEncodableSamples := by
  intro entry member r among
  obtain ⟨written,whole⟩ := forall_of_eachDocumented run entry member
  obtain ⟨e,endpoint,_⟩ := map_eq_ok whole
  obtain ⟨responses,each,_⟩ := map_eq_ok endpoint
  obtain ⟨response,sample⟩ := forall_of_eachDocumented each r among
  obtain ⟨body,own,_⟩ := map_eq_ok sample
  exact (sound.samples entry member r among).1.documented_iff.mp ⟨body,own⟩

/-- The text of a sound snapshot can be encoded in each format. -/
theorem isEncodable_text {s : Snapshot} (sound : s.IsSound) (encodable : s.HasEncodableSamples) (format : Format) :
    (s.text format).IsEncodable := by
  have exact := exact_document sound.distinct sound.exact
  cases format with
  | json => exact (Json.isPrintable_prettyAt exact 0).isAscii.isEncodable
  | yaml => exact Yaml.isEncodable_text exact (texts_document Text.isEncodable_ofString sound.static encodable)
  | html =>
    exact Html.isEncodable_page fun entry member =>
      ⟨(sound.static entry member).1,(sound.static entry member).2,fun r among => (sound.exact entry member r among).1⟩

/-- A sound snapshot is rendered, in whatever format, exactly when every name in its samples can be encoded. -/
theorem render_iff {s : Snapshot} (sound : s.IsSound) (format : Format) :
    (∃ b, s.render format = .ok b) ↔ s.HasEncodableSamples := by
  constructor
  · rintro ⟨b,run⟩
    cases documented : s.documented with
    | error fault => simp [render,renderText,documented] at run
    | ok w => exact hasEncodableSamples_of_documented sound documented
  · intro encodable
    have written := Utf8.encode_of_isEncodable (isEncodable_text sound encodable format)
    have ints : s.document.intsWritable = true := (exact_document sound.distinct sound.exact).intsWritable
    simp [render,renderText,documented_eq_self sound encodable,ints,written]

/-- A snapshot without samples is rendered when its texts can be encoded. -/
theorem exists_render_of_bare {s : Snapshot} (distinct : (s.map (·.1)).Nodup)
    (static : ∀ entry ∈ s, Text.IsEncodable entry.1 ∧ ∀ t ∈ entry.2.texts, t.IsEncodable)
    (bare : ∀ entry ∈ s, entry.2.responses = []) (format : Format) : ∃ content, s.render format = .ok content := by
  have none {P : Response → Prop} : ∀ entry ∈ s, ∀ r ∈ entry.2.responses, P r := by
    intro entry member r among
    rw [bare entry member] at among
    cases among
  exact (render_iff ⟨distinct,static,none⟩ format).mpr none

end Snapshot

end ApiDocs
