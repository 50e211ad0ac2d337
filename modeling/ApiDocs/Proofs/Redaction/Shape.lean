import ApiDocs.Proofs.Json.Values
import ApiDocs.Redaction

/-!
The shape of a document, and that redaction keeps nothing else. Documents of one shape have one redaction
(`redact_eq_of_sameShape`), so bodies that say documents of one shape cannot be told apart once they are
redacted, and a document has a redaction unless too many objects of it stand one inside the other (`redact_ok_iff`).
-/
namespace ApiDocs
open Value

/-- An integer or a fraction. -/
def Value.isNumber : Value → Bool
  | .int _ | .float _ => true
  | _ => false

mutual

/-- Documents of one shape: leaves of one kind, arrays whatever is in them, and objects with the same names in
    the same order whose members are of one shape each. -/
inductive SameShape : Value → Value → Prop
  | null : SameShape .null .null
  | bool (a b : Bool) : SameShape (.bool a) (.bool b)
  | number {v w : Value} (left : v.isNumber = true) (right : w.isNumber = true) : SameShape v w
  | str (s t : Text) : SameShape (.str s) (.str t)
  | arr (xs ys : List Value) : SameShape (.arr xs) (.arr ys)
  | obj {ms ns : List (Text × Value)} (members : SameMembers ms ns) : SameShape (.obj ms) (.obj ns)

/-- Members with the same names in the same order, of one shape each. -/
inductive SameMembers : List (Text × Value) → List (Text × Value) → Prop
  | nil : SameMembers [] []
  | cons {name : Text} {v w : Value} {ms ns : List (Text × Value)} (first : SameShape v w) (rest : SameMembers ms ns) :
    SameMembers ((name,v) :: ms) ((name,w) :: ns)

end

theorem redactWithin_number {room : Nat} {v : Value} (number : v.isNumber = true) : redactWithin room v = .ok (.int 0) := by
  cases v with
  | int n => rfl
  | float x => rfl
  | _ => cases number

mutual

theorem redactWithin_eq_of_sameShape {room : Nat} {v w : Value} : SameShape v w → redactWithin room v = redactWithin room w
  | .null => rfl
  | .bool _ _ => rfl
  | .number left right => by rw [redactWithin_number left,redactWithin_number right]
  | .str _ _ => rfl
  | .arr _ _ => rfl
  | .obj members => by rw [redactWithin,redactWithin,redactMembers_eq_of_sameMembers members]

theorem redactMembers_eq_of_sameMembers {room : Nat} {ms ns : List (Text × Value)} :
    SameMembers ms ns → redactMembers room ms = redactMembers room ns
  | .nil => rfl
  | .cons first rest => by
    rw [redactMembers,redactMembers,redactWithin_eq_of_sameShape first,redactMembers_eq_of_sameMembers rest]

end

/-- Redaction keeps nothing but the shape. -/
theorem redact_eq_of_sameShape {v w : Value} (same : SameShape v w) : redact v = redact w :=
  redactWithin_eq_of_sameShape same

/-! ### The depth of a document -/

mutual

/-- How many objects of a document stand one inside the other. The items of arrays are of no account. -/
def Value.objects : Value → Nat
  | .obj members => memberObjects members + 1
  | _ => 0

def Value.memberObjects : List (Text × Value) → Nat
  | [] => 0
  | (_,v) :: rest => max (objects v) (memberObjects rest)

end

mutual

theorem Value.objects_le_nesting : ∀ v : Value, v.objects ≤ v.nesting
  | .null | .bool _ | .int _ | .float _ | .str _ | .arr _ | .foreign _ => Nat.zero_le _
  | .obj members => Nat.succ_le_succ (memberObjects_le_nesting members)

theorem Value.memberObjects_le_nesting : ∀ members : List (Text × Value), memberObjects members ≤ memberNesting members
  | [] => Nat.le_refl _
  | (_,v) :: rest =>
    Nat.max_le.mpr ⟨(objects_le_nesting v).trans (Nat.le_max_left ..),
      (memberObjects_le_nesting rest).trans (Nat.le_max_right ..)⟩

end

mutual

theorem SameShape.objects_eq {v w : Value} : SameShape v w → v.objects = w.objects
  | .null => rfl
  | .bool _ _ => rfl
  | .number left right => by
    have leaf {u : Value} (number : u.isNumber = true) : u.objects = 0 := by
      cases u with
      | obj members => cases number
      | _ => rfl
    rw [leaf left,leaf right]
  | .str _ _ => rfl
  | .arr _ _ => rfl
  | .obj members => congrArg (· + 1) members.memberObjects_eq

theorem SameMembers.memberObjects_eq {ms ns : List (Text × Value)} :
    SameMembers ms ns → memberObjects ms = memberObjects ns
  | .nil => rfl
  | .cons first rest => congrArg₂ max first.objects_eq rest.memberObjects_eq

end

mutual

/-- A document has a redaction if there is room for its objects. -/
theorem redactWithin_total {room : Nat} : ∀ v : Value, v.isJson = true → v.objects ≤ room →
    ∃ shape, redactWithin room v = .ok shape
  | .null, _, _ | .bool _, _, _ | .int _, _, _ | .float _, _, _ | .str _, _, _ | .arr _, _, _ => ⟨_,rfl⟩
  | .obj members, json, fits => by
    have inside : memberObjects members ≤ room - 1 := Nat.le_sub_of_add_le fits
    have some : room ≠ 0 := Nat.ne_zero_of_lt fits
    obtain ⟨shapes,run⟩ := redactMembers_total members json inside
    exact ⟨.obj shapes,by rw [redactWithin,if_neg some,run]; rfl⟩

theorem redactMembers_total {room : Nat} : ∀ members : List (Text × Value), membersAreJson members = true →
    memberObjects members ≤ room → ∃ shapes, redactMembers room members = .ok shapes
  | [], _, _ => ⟨[],rfl⟩
  | (name,v) :: rest, json, fits => by
    simp only [membersAreJson,Bool.and_eq_true] at json
    obtain ⟨own,others⟩ := Nat.max_le.mp fits
    obtain ⟨shape,run⟩ := redactWithin_total v json.1 own
    obtain ⟨shapes,more⟩ := redactMembers_total rest json.2 others
    exact ⟨(name,shape) :: shapes,by simp only [redactMembers,run,more]; rfl⟩

end

mutual

/-- Without room for its objects it has none. -/
theorem redactWithin_tooDeep {room : Nat} : ∀ v : Value, v.isJson = true → room < v.objects →
    redactWithin room v = .error .tooDeep
  | .obj members, json, deep => by
    rw [redactWithin]
    split
    · rfl
    · rename_i some
      have inside : room - 1 < memberObjects members := by
        have := Nat.lt_succ_iff.mp deep
        omega
      rw [redactMembers_tooDeep members json inside]
      rfl

theorem redactMembers_tooDeep {room : Nat} : ∀ members : List (Text × Value), membersAreJson members = true →
    room < memberObjects members → redactMembers room members = .error .tooDeep
  | (name,v) :: rest, json, deep => by
    simp only [membersAreJson,Bool.and_eq_true] at json
    rw [redactMembers]
    by_cases fits : v.objects ≤ room
    · obtain ⟨shape,run⟩ := redactWithin_total v json.1 fits
      have later : room < memberObjects rest := by
        rw [memberObjects] at deep
        omega
      rw [run,redactMembers_tooDeep rest json.2 later]
      rfl
    · rw [redactWithin_tooDeep v json.1 (Nat.lt_of_not_le fits)]

end

/-- A document has a redaction exactly when there is room for its objects. -/
theorem redact_ok_iff {v : Value} (json : v.isJson = true) : (∃ shape, redact v = .ok shape) ↔ v.objects ≤ maxObjects := by
  refine ⟨fun ⟨shape,run⟩ => ?_,redactWithin_total v json⟩
  by_contra deep
  cases run.symm.trans (redactWithin_tooDeep v json (Nat.lt_of_not_le deep))

/-- There is room for documents of two hundred levels. -/
theorem objects_le_of_nesting {v : Value} (shallow : v.nesting ≤ 200) : v.objects ≤ maxObjects :=
  v.objects_le_nesting.trans (shallow.trans (by decide))

/-! ### Bodies -/

/-- The document that a body says, given as octets or as a text. -/
def loaded? : Value → Option Value
  | .foreign (.bytes b) => (Encoding.decodeDetected? b).bind fun t => (Json.read t).toOption
  | .str t => (Json.read t).toOption
  | _ => none

theorem read_nil : (Json.read []).toOption = none := rfl

theorem redactText_of_read {t : Text} {v : Value} (found : (Json.read t).toOption = some v) :
    redactText t = ((redact v).map some).mapError RedactError.ofBody := by
  rw [redactText,eq_ok_of_toOption found]

/-- The shape of a body is the redaction of its document. -/
theorem redactBody_of_loaded {body v : Value} (found : loaded? body = some v) :
    redactBody body = ((redact v).map some).mapError RedactError.ofBody := by
  cases body with
  | str t =>
    cases t with
    | nil => rw [loaded?,read_nil] at found; cases found
    | cons c rest => exact redactText_of_read found
  | foreign kind =>
    cases kind with
    | bytes b =>
      cases b with
      | nil => cases found
      | cons x rest =>
        obtain ⟨t,decoded,read⟩ := Option.bind_eq_some_iff.mp found
        simp only [redactBody,redactBytes,List.isEmpty_cons,Bool.false_eq_true,↓reduceIte,decoded]
        exact redactText_of_read read
    | _ => cases found
  | _ => cases found

/-- The document of a body was read from a JSON text. -/
theorem read_of_loaded {body v : Value} (found : loaded? body = some v) : ∃ t, Json.read t = .ok v := by
  cases body with
  | str t => exact ⟨t,eq_ok_of_toOption found⟩
  | foreign kind =>
    cases kind with
    | bytes b =>
      obtain ⟨t,_,read⟩ := Option.bind_eq_some_iff.mp found
      exact ⟨t,eq_ok_of_toOption read⟩
    | _ => cases found
  | _ => cases found

theorem decoded_of_loaded {body v : Value} (found : loaded? body = some v) : v.Decoded := by
  obtain ⟨t,read⟩ := read_of_loaded found
  exact Json.decoded_of_read read

theorem nesting_of_loaded {body v : Value} (found : loaded? body = some v) : v.nesting ≤ Json.maxDepth := by
  obtain ⟨t,read⟩ := read_of_loaded found
  exact Json.nesting_of_read read

/-- A document whose objects have room gives its body a shape. -/
theorem redactBody_of_fits {body v : Value} (found : loaded? body = some v) (fits : v.objects ≤ maxObjects) :
    ∃ shape, redact v = .ok shape ∧ redactBody body = .ok (some shape) := by
  obtain ⟨shape,run⟩ := (redact_ok_iff (decoded_of_loaded found).isJson).mpr fits
  exact ⟨shape,run,by rw [redactBody_of_loaded found,run]; rfl⟩

theorem redactBody_of_tooDeep {body v : Value} (found : loaded? body = some v) (deep : maxObjects < v.objects) :
    redactBody body = .error .tooDeep := by
  have run : redact v = .error .tooDeep := redactWithin_tooDeep v (decoded_of_loaded found).isJson deep
  rw [redactBody_of_loaded found,run]
  rfl

end ApiDocs
