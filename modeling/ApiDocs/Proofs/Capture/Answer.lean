import ApiDocs.Proofs.Capture.Response
import ApiDocs.Proofs.Json.Depth
import ApiDocs.Proofs.Json.Equality
import ApiDocs.Proofs.Redaction.Compact
import ApiDocs.Proofs.Text.Utf8

/-!
What recording a response answers, for every body. It answers whether a sample was added, and a body without a document
adds none; only a body whose containers are nested more deeply than the reader of JSON follows, or whose document has more
objects one inside the other than redaction follows, is not answered (`Registry.record_answers`).
-/
namespace ApiDocs

variable {b : Bytes}

/-- The octets say a JSON document. -/
def SaysDocument (b : Bytes) : Prop := ∃ v, loaded? (.foreign (.bytes b)) = some v

/-- The octets write a text that the reader of JSON refuses for its depth. -/
def IsUnreadable (b : Bytes) : Prop := ∃ t, Encoding.decodeDetected? b = some t ∧ Json.read t = .error .tooDeep

/-- The octets say a document that has no redaction for its depth. -/
def IsUnfoldable (b : Bytes) : Prop := ∃ v, loaded? (.foreign (.bytes b)) = some v ∧ maxObjects < v.objects

/-- The octets cannot be read, or what they say cannot be redacted, for its depth. -/
def IsTooDeep (b : Bytes) : Prop := IsUnreadable b ∨ IsUnfoldable b

theorem saysDocument_iff (b : Bytes) :
    SaysDocument b ↔ ∃ t v, Encoding.decodeDetected? b = some t ∧ Json.read t = .ok v := by
  unfold SaysDocument loaded?
  constructor
  · rintro ⟨v,found⟩
    obtain ⟨t,decoded,said⟩ := Option.bind_eq_some_iff.mp found
    exact ⟨t,v,decoded,eq_ok_of_toOption said⟩
  · rintro ⟨t,v,decoded,run⟩
    refine ⟨v,?_⟩
    dsimp only
    rw [decoded,Option.bind_some,run]
    rfl

theorem not_saysDocument_nil : ¬ SaysDocument [] := by
  rintro ⟨v,found⟩
  cases found

theorem IsUnfoldable.saysDocument (deep : IsUnfoldable b) : SaysDocument b :=
  deep.imp fun _ => And.left

theorem not_isUnreadable_nil : ¬ IsUnreadable [] := by
  rintro ⟨t,decoded,refused⟩
  cases decoded
  cases refused

/-- Octets that are refused for their depth write a text that is nested beyond the limit. -/
theorem IsUnreadable.deepest (deep : IsUnreadable b) :
    ∃ t, Encoding.decodeDetected? b = some t ∧ Json.maxDepth < Json.deepest 0 .outside t := by
  obtain ⟨t,decoded,refused⟩ := deep
  exact ⟨t,decoded,Json.tooDeep_of_read refused⟩

/-- Octets that are too deep write a text that is nested beyond the limit of the reader, or say a document with more
    objects one inside the other than can be redacted. -/
theorem IsTooDeep.beyond (deep : IsTooDeep b) :
    (∃ t, Encoding.decodeDetected? b = some t ∧ Json.maxDepth < Json.deepest 0 .outside t) ∨
    ∃ v, loaded? (.foreign (.bytes b)) = some v ∧ maxObjects < v.objects :=
  deep.imp_left IsUnreadable.deepest

/-! ### Shapes -/

theorem redactBody_octets (filled : b ≠ []) :
    redactBody (.foreign (.bytes b)) = match Encoding.decodeDetected? b with
      | some t => redactText t
      | none => .ok none := by
  have some : ¬ b.isEmpty = true := by simpa using filled
  exact if_neg some

theorem IsUnreadable.redactBody_eq (deep : IsUnreadable b) : redactBody (.foreign (.bytes b)) = .error .tooDeep := by
  have filled : b ≠ [] := fun empty => not_isUnreadable_nil (empty ▸ deep)
  obtain ⟨t,decoded,refused⟩ := deep
  rw [redactBody_octets filled,decoded]
  simp only [redactText,refused]

theorem IsTooDeep.redactBody_eq (deep : IsTooDeep b) : redactBody (.foreign (.bytes b)) = .error .tooDeep := by
  rcases deep with unread | ⟨v,found,many⟩
  · exact unread.redactBody_eq
  · exact redactBody_of_tooDeep found many

theorem SaysDocument.redactBody_eq (document : SaysDocument b) (shallow : ¬ IsTooDeep b) :
    ∃ shape, redactBody (.foreign (.bytes b)) = .ok (some shape) := by
  obtain ⟨v,found⟩ := document
  have fits : v.objects ≤ maxObjects := Nat.le_of_not_lt fun many => shallow (.inr ⟨v,found,many⟩)
  obtain ⟨shape,_,run⟩ := redactBody_of_fits found fits
  exact ⟨shape,run⟩

/-- Octets that say no document have no shape. -/
theorem redactBody_of_silent (silent : ¬ SaysDocument b) (shallow : ¬ IsTooDeep b) :
    redactBody (.foreign (.bytes b)) = .ok none := by
  by_cases filled : b = []
  · rw [filled]
    rfl
  · rw [redactBody_octets filled]
    cases decoded : Encoding.decodeDetected? b with
    | none => rfl
    | some t =>
      dsimp only
      unfold redactText
      cases run : Json.read t with
      | ok v => exact absurd ((saysDocument_iff b).mpr ⟨t,v,decoded,run⟩) silent
      | error e =>
        cases e with
        | tooDeep => exact absurd (.inl ⟨t,decoded,run⟩) shallow
        | _ => rfl

/-! ### Answers -/

namespace Registry

variable (r : Registry) (method path : Text) (status : Int)

theorem record_of_tooDeep (deep : IsTooDeep b) :
    r.record method path (.int status) (.foreign (.bytes b)) = ⟨r,[],.error (.body .tooDeep)⟩ := by
  rw [record,deep.redactBody_eq]

theorem record_of_silent (silent : ¬ SaysDocument b) (shallow : ¬ IsTooDeep b) :
    r.record method path (.int status) (.foreign (.bytes b)) = ⟨r,[.skippedBody method path],.ok false⟩ := by
  rw [record,redactBody_of_silent silent shallow]

/-- A document is recorded where there is an endpoint for it. -/
theorem record_of_document (document : SaysDocument b) (shallow : ¬ IsTooDeep b) :
    (r.record method path (.int status) (.foreign (.bytes b))).result = .ok (r.isDocumented method path) ∧
    (r.isDocumented method path = false → (r.record method path (.int status) (.foreign (.bytes b))).registry = r) := by
  obtain ⟨shape,run⟩ := document.redactBody_eq shallow
  have observed : Response.observed shape (.int status) = .ok ⟨shape,status⟩ := rfl
  rw [record,run]
  simp only [observed]
  cases documented : r.isDocumented method path with
  | true =>
    have present : endpointKey method path ∈ r.keys := (r.contains_iff _).mp documented
    rw [append?_eq_offer present]
    exact ⟨rfl,fun missing => by cases missing⟩
  | false =>
    have absent : r.append? (endpointKey method path) ⟨shape,status⟩ = none := by
      refine if_neg ?_
      rw [← isDocumented,documented]
      exact Bool.false_ne_true
    rw [absent]
    exact ⟨rfl,fun _ => rfl⟩

/-- What recording a response answers. It answers for all octets but those that are too deep: their text is nested beyond
    the limit of the reader, or the objects of their document beyond the limit of redaction, and then nothing changes. It
    answers that a sample was added exactly for the other documents of endpoints that are registered, and otherwise nothing
    changes either. In particular nothing is added for octets that are none, that cannot be decoded in the encoding which
    they show, and whose text is not JSON for another reason. -/
theorem record_answers (b : Bytes) :
    ((∃ answer, (r.record method path (.int status) (.foreign (.bytes b))).result = .ok answer) ↔ ¬ IsTooDeep b) ∧
    (IsTooDeep b →
      (r.record method path (.int status) (.foreign (.bytes b))).result = .error (.body .tooDeep) ∧
      ((∃ t, Encoding.decodeDetected? b = some t ∧ Json.maxDepth < Json.deepest 0 .outside t) ∨
        ∃ v, loaded? (.foreign (.bytes b)) = some v ∧ maxObjects < v.objects)) ∧
    ((r.record method path (.int status) (.foreign (.bytes b))).result = .ok true ↔
      SaysDocument b ∧ ¬ IsTooDeep b ∧ r.isDocumented method path = true) ∧
    ((r.record method path (.int status) (.foreign (.bytes b))).result ≠ .ok true →
      (r.record method path (.int status) (.foreign (.bytes b))).registry = r) ∧
    (b = [] ∨ Encoding.decodeDetected? b = none ∨
        (∃ t e, Encoding.decodeDetected? b = some t ∧ Json.read t = .error e ∧ e ≠ .tooDeep) →
      (r.record method path (.int status) (.foreign (.bytes b))).result = .ok false) := by
  have nothing : b = [] ∨ Encoding.decodeDetected? b = none ∨
      (∃ t e, Encoding.decodeDetected? b = some t ∧ Json.read t = .error e ∧ e ≠ .tooDeep) →
      ¬ SaysDocument b ∧ ¬ IsUnreadable b := by
    rw [saysDocument_iff]
    rintro (rfl | none | ⟨t,e,decoded,refused,other⟩)
    · exact ⟨(saysDocument_iff []).not.mp not_saysDocument_nil,not_isUnreadable_nil⟩
    · refine ⟨fun ⟨t,v,decoded,_⟩ => ?_,fun ⟨t,decoded,_⟩ => ?_⟩
      · cases none.symm.trans decoded
      · cases none.symm.trans decoded
    · refine ⟨fun ⟨u,v,same,run⟩ => ?_,fun ⟨u,same,deep⟩ => ?_⟩
      · cases decoded.symm.trans same
        cases refused.symm.trans run
      · cases decoded.symm.trans same
        cases refused.symm.trans deep
        exact other rfl
  by_cases deep : IsTooDeep b
  · have outcome := r.record_of_tooDeep method path status deep
    have readable {P : Prop} (silent : ¬ SaysDocument b ∧ ¬ IsUnreadable b) : P :=
      absurd deep (not_or.mpr ⟨silent.2,fun many => silent.1 many.saysDocument⟩)
    rw [outcome]
    exact ⟨by simp [deep],fun _ => ⟨rfl,deep.beyond⟩,by simp [deep],fun _ => rfl,fun cause => readable (nothing cause)⟩
  · by_cases document : SaysDocument b
    · obtain ⟨answer,kept⟩ := r.record_of_document method path status document deep
      refine ⟨by simp [answer,deep],fun is => absurd is deep,by simp [answer,document,deep],fun other => kept ?_,
        fun cause => absurd document (nothing cause).1⟩
      rw [answer] at other
      simpa using other
    · have outcome := r.record_of_silent method path status document deep
      rw [outcome]
      exact ⟨by simp [deep],fun is => absurd is deep,by simp [document],fun _ => rfl,fun _ => rfl⟩

/-! An array that is cut off is passed over. Brackets that are opened and never closed are no document either, but when
there are too many of them recording fails, as it does for a document of too many objects; and octets that are no UTF-8 can
say a document in another encoding. -/

private def documented : Registry := .ofList [{ method := "GET", path := "/a" }]

private def cutOff : Bytes := [0x5B,0x31,0x2C]

private def brackets (n : Nat) : Bytes := List.flatMap Utf8.encodePoint (List.replicate n 0x5B)

private def wideDocument : Bytes := [0xFF,0xFE,0x7B,0x00,0x7D,0x00]

theorem record_answers_cutOff :
    (∃ t e, Encoding.decodeDetected? cutOff = some t ∧ Json.read t = .error e ∧ e ≠ .tooDeep) ∧
    (documented.record "GET" "/a" (.int 200) (.foreign (.bytes cutOff))).result = .ok false ∧
    (documented.record "GET" "/a" (.int 200) (.foreign (.bytes cutOff))).registry = documented := by
  have refused : ∃ t e, Encoding.decodeDetected? cutOff = some t ∧ Json.read t = .error e ∧ e ≠ .tooDeep :=
    ⟨"[1,",.malformed .expectedValue 3,rfl,rfl,by decide⟩
  obtain ⟨_,_,_,kept,passed⟩ := documented.record_answers "GET" "/a" 200 cutOff
  have answer := passed (.inr (.inr refused))
  exact ⟨refused,answer,kept (by rw [answer]; simp)⟩

theorem isUnreadable_brackets {n : Nat} (more : Json.maxDepth < n) : IsUnreadable (brackets n) := by
  have each : ∀ c ∈ List.replicate n 0x5B, c = 0x5B := fun c => List.eq_of_mem_replicate
  have ascii : Text.IsAscii (List.replicate n 0x5B) := fun c member => each c member ▸ by decide
  have decoded := Encoding.decodeDetected?_ascii ascii fun zero => absurd (each 0 zero) (by decide)
  have refused := Json.read_brackets more []
  rw [List.append_nil] at refused
  exact ⟨_,decoded,refused⟩

/-- Recording brackets fails beyond the limit, a document that is no UTF-8 is recorded, and recording a document of too
    many objects fails. -/
theorem record_answers_brackets :
    (documented.record "GET" "/a" (.int 200) (.foreign (.bytes (brackets 3000)))).result = .error (.body .tooDeep) ∧
    (∃ e, Utf8.decode wideDocument = .error e) ∧
    (documented.record "GET" "/a" (.int 200) (.foreign (.bytes wideDocument))).result = .ok true ∧
    SaysDocument (compactOctets (Value.nested 600)) ∧
    (documented.record "GET" "/a" (.int 200) (.foreign (.bytes (compactOctets (Value.nested 600))))).result =
      .error (.body .tooDeep) := by
  have document : loaded? (.foreign (.bytes wideDocument)) = some (.obj []) := by decide +kernel
  have deep : IsTooDeep (brackets 3000) := .inl (isUnreadable_brackets (by decide))
  have shape : redactBody (.foreign (.bytes wideDocument)) = .ok (some (.obj [])) := by
    rw [redactBody_of_loaded document]
    rfl
  have many : IsUnfoldable (compactOctets (Value.nested 600)) := (redactBody_nested (by decide) (by decide)).1
  refine ⟨congrArg Recorded.result (documented.record_of_tooDeep "GET" "/a" 200 deep),⟨_,rfl⟩,?_,many.saysDocument,
    congrArg Recorded.result (documented.record_of_tooDeep "GET" "/a" 200 (.inr many))⟩
  rw [record,shape]
  rfl

end Registry

end ApiDocs
