import ApiDocs.Proofs.Redaction.Placeholder

/-!
Redaction keeps exactly the shape. A redaction is of the shape of its document (`sameShape_of_redactWithin`), and to be of one
shape is an equivalence (`SameShape.symm`, `SameShape.trans`), so documents have one redaction exactly when they are of
one shape, and redacting again changes nothing (`redact_exact`).
-/
namespace ApiDocs
open Value

/-! ### Being of one shape -/

/-- A number is of one shape with numbers only. -/
theorem SameShape.isNumber {v w : Value} (same : SameShape v w) : v.isNumber = w.isNumber := by
  cases same with
  | number left right => rw [left,right]
  | _ => rfl

mutual

theorem SameShape.symm {v w : Value} : SameShape v w → SameShape w v
  | .null => .null
  | .bool a b => .bool b a
  | .number left right => .number right left
  | .str s t => .str t s
  | .arr xs ys => .arr ys xs
  | .obj members => .obj members.symm

theorem SameMembers.symm {ms ns : List (Text × Value)} : SameMembers ms ns → SameMembers ns ms
  | .nil => .nil
  | .cons first rest => .cons first.symm rest.symm

end

mutual

theorem SameShape.trans {u v w : Value} : SameShape u v → SameShape v w → SameShape u w
  | .null, second => second
  | .number left right, second => .number left (second.isNumber.symm.trans right)
  | .bool a b, second => by
    cases second with
    | bool _ c => exact .bool a c
    | number left _ => cases left
  | .str s t, second => by
    cases second with
    | str _ u => exact .str s u
    | number left _ => cases left
  | .arr xs ys, second => by
    cases second with
    | arr _ zs => exact .arr xs zs
    | number left _ => cases left
  | .obj members, second => by
    cases second with
    | obj others => exact .obj (members.trans others)
    | number left _ => cases left

theorem SameMembers.trans {ls ms ns : List (Text × Value)} : SameMembers ls ms → SameMembers ms ns → SameMembers ls ns
  | .nil, second => second
  | .cons first rest, .cons next others => .cons (first.trans next) (rest.trans others)

end

/-! ### The shape of a redaction -/

mutual

/-- A redaction is of the shape of its document. -/
theorem sameShape_of_redactWithin : ∀ {room : Nat} {v shape : Value}, redactWithin room v = .ok shape → SameShape v shape
  | _, .null, _, run => by cases run; exact .null
  | _, .bool b, _, run => by cases run; exact .bool b false
  | _, .int n, _, run => by cases run; exact .number rfl rfl
  | _, .float x, _, run => by cases run; exact .number rfl rfl
  | _, .str t, _, run => by cases run; exact .str t []
  | _, .arr items, _, run => by cases run; exact .arr items []
  | _, .obj members, _, run => by
    obtain ⟨shapes,inner,rfl⟩ := redactWithin_obj run
    exact .obj (sameMembers_of_redactMembers inner)

theorem sameMembers_of_redactMembers : ∀ {room : Nat} {members shapes : List (Text × Value)},
    redactMembers room members = .ok shapes → SameMembers members shapes
  | _, [], _, run => by cases run; exact .nil
  | _, (name,v) :: rest, _, run => by
    obtain ⟨shape,later,first,more,rfl⟩ := redactMembers_cons run
    exact .cons (sameShape_of_redactWithin first) (sameMembers_of_redactMembers more)

end

/-! ### Leaves -/

mutual

/-- What a value holds that is not an object, with arrays as wholes. -/
def Value.leaves : Value → List Value
  | .obj members => memberLeaves members
  | v => [v]

/-- The leaves of members. -/
def Value.memberLeaves : List (Text × Value) → List Value
  | [] => []
  | (_,v) :: rest => leaves v ++ memberLeaves rest

end

/-- What redaction puts in the place of a leaf. -/
def placeholders : List Value := [.null,.bool false,.int 0,.str [],.arr []]

mutual

/-- Nothing but placeholders is left by redaction. -/
theorem mem_placeholders_of_redactWithin : ∀ {room : Nat} {v shape : Value}, redactWithin room v = .ok shape →
    ∀ leaf ∈ shape.leaves, leaf ∈ placeholders
  | _, .null, _, run => by cases run; simp [leaves,placeholders]
  | _, .bool b, _, run => by cases run; simp [leaves,placeholders]
  | _, .int n, _, run => by cases run; simp [leaves,placeholders]
  | _, .float x, _, run => by cases run; simp [leaves,placeholders]
  | _, .str t, _, run => by cases run; simp [leaves,placeholders]
  | _, .arr items, _, run => by cases run; simp [leaves,placeholders]
  | _, .obj members, _, run => by
    obtain ⟨shapes,inner,rfl⟩ := redactWithin_obj run
    exact mem_placeholders_of_redactMembers inner

theorem mem_placeholders_of_redactMembers : ∀ {room : Nat} {members shapes : List (Text × Value)},
    redactMembers room members = .ok shapes → ∀ leaf ∈ memberLeaves shapes, leaf ∈ placeholders
  | _, [], _, run => by cases run; simp [memberLeaves]
  | _, (name,v) :: rest, _, run => by
    obtain ⟨shape,later,first,more,rfl⟩ := redactMembers_cons run
    exact List.forall_mem_append.mpr ⟨mem_placeholders_of_redactWithin first,mem_placeholders_of_redactMembers more⟩

end

/-! ### Exactness -/

/-- Redaction keeps exactly the shape of a document. Of documents that are not nested more than two hundred levels deep, two
    have one redaction exactly when they are of one shape; and such a document has a redaction, which is of its shape, is its
    own redaction and has nothing but placeholders for leaves. -/
theorem redact_exact (v w : Value) (left : v.isJson = true ∧ v.nesting ≤ 200) (right : w.isJson = true ∧ w.nesting ≤ 200) :
    (redact v = redact w ↔ SameShape v w) ∧
    ∃ shape, redact v = .ok shape ∧ SameShape v shape ∧ redact shape = .ok shape ∧
      ∀ leaf ∈ shape.leaves, leaf ∈ placeholders := by
  obtain ⟨shape,run⟩ := (redact_ok_iff left.1).mpr (objects_le_of_nesting left.2)
  obtain ⟨other,runOther⟩ := (redact_ok_iff right.1).mpr (objects_le_of_nesting right.2)
  have kept : SameShape v shape := sameShape_of_redactWithin run
  refine ⟨⟨fun same => ?_,redact_eq_of_sameShape⟩,shape,run,kept,?_,mem_placeholders_of_redactWithin run⟩
  · have common : other = shape := Except.ok.inj (runOther.symm.trans (same.symm.trans run))
    exact kept.trans (common ▸ sameShape_of_redactWithin runOther : SameShape w shape).symm
  · rw [← redact_eq_of_sameShape kept,run]

/-! Two people of one shape, one of whom has a fraction for a number and friends of another kind, and the first of them with
the names in another order. -/

private def person (age : Value) (friends : List Value) : Value :=
  .obj [("name",.str "Jay"),("of",.obj [("age",age),("adult",.bool true)]),("friends",.arr friends)]

private def turned : Value :=
  .obj [("of",.obj [("age",.int 30),("adult",.bool true)]),("name",.str "Jay"),("friends",.arr [])]

theorem redact_exact_person :
    ((person (.int 30) [.int 1]).isJson = true ∧ (person (.int 30) [.int 1]).nesting ≤ 200) ∧
    ((person (.float .nan) [.str "Kim",.null]).isJson = true ∧ (person (.float .nan) [.str "Kim",.null]).nesting ≤ 200) ∧
    (turned.isJson = true ∧ turned.nesting ≤ 200) ∧
    SameShape (person (.int 30) [.int 1]) (person (.float .nan) [.str "Kim",.null]) ∧
    redact (person (.int 30) [.int 1]) = redact (person (.float .nan) [.str "Kim",.null]) ∧
    ¬ SameShape (person (.int 30) [.int 1]) turned := by
  have json : (person (.int 30) [.int 1]).isJson = true ∧ (person (.int 30) [.int 1]).nesting ≤ 200 := ⟨rfl,by decide⟩
  have other : (person (.float .nan) [.str "Kim",.null]).isJson = true ∧
      (person (.float .nan) [.str "Kim",.null]).nesting ≤ 200 := ⟨rfl,by decide⟩
  have ordered : turned.isJson = true ∧ turned.nesting ≤ 200 := ⟨rfl,by decide⟩
  have same := (redact_exact _ _ json other).1
  have apart := (redact_exact _ _ json ordered).1
  have one : redact (person (.int 30) [.int 1]) = redact (person (.float .nan) [.str "Kim",.null]) := rfl
  refine ⟨json,other,ordered,same.mp one,one,fun shape => ?_⟩
  have differ := apart.mpr shape
  have some : maxObjects ≠ 0 ∧ maxObjects - 1 ≠ 0 := by decide
  simp [person,turned,redact,redactWithin,redactMembers,Except.map,some] at differ

end ApiDocs
