import ApiDocs.Proofs.Json.Numbers
import ApiDocs.Proofs.Json.Written
import ApiDocs.Proofs.Redaction.Shape

/-!
The shape of a body that was written as JSON. What is written of a value on one line is read as a value of its shape
(`reads_compact`): strings, names and integers are read as they were written, and a number that is none as another such
number. So a body that was written from a value has the redaction of this value (`redactBody_compact`).
-/
namespace ApiDocs
open Value

namespace Json
open Text

/-! ### Values on one line -/

theorem compactItems_eq (items : List Value) : compactItems items = items.map compact := by
  induction items with
  | nil => rfl
  | cons v rest ih => rw [compactItems,ih,List.map_cons]

theorem compactMembers_eq (members : List (Text × Value)) :
    compactMembers members = members.map fun m => memberText m.1 (compact m.2) := by
  induction members with
  | nil => rfl
  | cons m rest ih =>
    rw [compactMembers,ih,List.map_cons]
    rfl

/-- An array on one line has no blanks but those behind its commas. -/
theorem compact_arr (items : List Value) :
    compact (.arr items) = bracketed 0x5B 0x5D [] [0x20] [] (items.map compact) := by
  rw [compact,compactItems_eq]
  rfl

theorem compact_obj (members : List (Text × Value)) :
    compact (.obj members) = bracketed 0x7B 0x7D [] [0x20] [] (members.map fun m => memberText m.1 (compact m.2)) := by
  rw [compact,compactMembers_eq]
  rfl

theorem isPrintable_bracketed {opening closing : Nat} {parts : List Text} (brackets : IsPrintable [opening,closing])
    (each : ∀ part ∈ parts, part.IsPrintable) : (bracketed opening closing [] [0x20] [] parts).IsPrintable := by
  have inside : (join [0x2C,0x20] parts).IsPrintable :=
    forall_mem_join (P := fun c => c = 0x0A ∨ (0x20 ≤ c ∧ c ≤ 0x7E)) (by decide) each
  simp only [isPrintable_cons] at brackets
  simp [bracketed,inside,brackets]

theorem isPrintable_compact {v : Value} (decoded : v.Decoded) : (compact v).IsPrintable := by
  induction decoded with
  | null => exact (by decide : IsPrintable "null")
  | bool b => cases b <;> decide
  | int n => exact isPrintable_ofInt n
  | float x => exact isPrintable_float x
  | str t => exact isPrintable_quote t
  | arr _ ih =>
    rw [compact_arr]
    exact isPrintable_bracketed (by decide) (List.forall_mem_map.mpr ih)
  | obj _ _ ih =>
    rw [compact_obj]
    refine isPrintable_bracketed (by decide) (List.forall_mem_map.mpr fun m member => ?_)
    rw [memberText,isPrintable_append,isPrintable_append]
    exact ⟨⟨isPrintable_quote m.1,by decide⟩,ih m member⟩

/-! ### Reading them -/

theorem sameMembers_map {members : List (Text × Value)} {f : Text × Value → Value}
    (each : ∀ m ∈ members, SameShape m.2 (f m)) : SameMembers members (members.map fun m => (m.1,f m)) := by
  induction members with
  | nil => exact .nil
  | cons m rest ih =>
    obtain ⟨first,later⟩ := List.forall_mem_cons.mp each
    exact .cons first (ih later)

/-- A value on one line is read as a value of its shape, if it holds no surrogates and no integer that is too long, and the
    reader has room for it. -/
theorem reads_compact {v : Value} (decoded : v.Decoded) (writable : v.intsWritable = true)
    (scalar : ∀ t ∈ v.texts, t.IsScalar) {room : Nat} (shallow : v.nesting ≤ room) :
    ∃ w, Reads room (compact v) w ∧ SameShape v w := by
  induction decoded generalizing room with
  | null => exact ⟨.null,reads_null room,.null⟩
  | bool b => exact ⟨.bool b,reads_bool room b,.bool b b⟩
  | int n => exact ⟨.int n,reads_ofInt room writable,.number rfl rfl⟩
  | float x =>
    obtain ⟨y,reads⟩ := reads_float room x
    exact ⟨.float y,reads,.number rfl rfl⟩
  | str t => exact ⟨.str t,reads_quote room (scalar t List.mem_cons_self),.str t t⟩
  | @arr items _ ih =>
    obtain ⟨room,rfl⟩ : ∃ r, room = r + 1 := ⟨room - 1,by simp only [nesting] at shallow; omega⟩
    have inside : ∀ v ∈ items, ∃ w, Reads room (compact v) w := fun v member =>
      have ⟨w,reads,_⟩ := ih v member ((intsWritableItems_iff items).mp writable v member) (texts_arr.mp scalar v member)
        ((nesting_arr_le items room).mp shallow v member)
      ⟨w,reads⟩
    choose! read reads using inside
    rw [compact_arr]
    exact ⟨_,reads_arr (by decide) (by decide) (by decide) reads,.arr items _⟩
  | @obj members distinct _ ih =>
    obtain ⟨room,rfl⟩ : ∃ r, room = r + 1 := ⟨room - 1,by simp only [nesting] at shallow; omega⟩
    have inside : ∀ m ∈ members, ∃ w, Reads room (compact m.2) w ∧ SameShape m.2 w := fun m member =>
      ih m member ((intsWritableMembers_iff members).mp writable m member) (texts_obj.mp scalar m member).2
        ((nesting_obj_le members room).mp shallow m member)
    choose! read reads same using inside
    rw [compact_obj]
    refine ⟨_,reads_obj (by decide) (by decide) (by decide) distinct fun m member => ?_,.obj (sameMembers_map same)⟩
    exact ⟨(texts_obj.mp scalar m member).1,reads m member⟩

end Json

/-- The octets of a value on one line. -/
def compactOctets (v : Value) : Bytes := (Json.compact v).flatMap Utf8.encodePoint

/-- A value that is written on one line, and encoded, is a body that says a document of its shape, if nothing foreign and
    no name twice in an object is in it, its integers can be written, its texts hold no surrogates, and the reader has room
    for it. -/
theorem loaded_compactOctets {v : Value} (decoded : v.Decoded) (writable : v.intsWritable = true)
    (scalar : ∀ t ∈ v.texts, t.IsScalar) (shallow : v.nesting ≤ Json.maxDepth) :
    Utf8.encode (Json.compact v) = .ok (compactOctets v) ∧
    ∃ w, loaded? (.foreign (.bytes (compactOctets v))) = some w ∧ SameShape v w := by
  obtain ⟨w,reads,same⟩ := Json.reads_compact decoded writable scalar shallow
  have printable := Json.isPrintable_compact decoded
  have ascii := printable.isAscii
  have full : 0 ∉ Json.compact v := fun zero => absurd (printable 0 zero) (by decide)
  have read : Json.read (Json.compact v) = .ok w := reads.readWithin_eq ascii
  refine ⟨Utf8.encode_of_isEncodable ascii.isEncodable,w,?_,same⟩
  rw [loaded?,compactOctets,Encoding.decodeDetected?_ascii ascii full,Option.bind_some,read]
  rfl

/-- Such a body has the redaction of the value, if this is not nested more than two hundred levels deep. -/
theorem redactBody_compact {v : Value} (decoded : v.Decoded) (writable : v.intsWritable = true)
    (scalar : ∀ t ∈ v.texts, t.IsScalar) (shallow : v.nesting ≤ 200) :
    ∃ octets shape, Utf8.encode (Json.compact v) = .ok octets ∧ redact v = .ok shape ∧
      redactBody (.foreign (.bytes octets)) = .ok (some shape) := by
  obtain ⟨encoded,w,found,same⟩ := loaded_compactOctets decoded writable scalar (shallow.trans (by decide))
  have fits : w.objects ≤ maxObjects := same.objects_eq ▸ objects_le_of_nesting shallow
  obtain ⟨shape,run,redacted⟩ := redactBody_of_fits found fits
  exact ⟨_,shape,encoded,(redact_eq_of_sameShape same).trans run,redacted⟩

/-! A value with everything in it: an astral character, a quote and a control character among its texts, a fraction with an
exponent, another without digits, a negative integer, and a name that stands at two depths. -/

private def everything : Value :=
  .obj [("\"\u0001😀",.arr [.null,.bool true,.int (-12),.float (.ofDecimal false 15 (-31))]),
    ("a",.obj [("a",.str "é\\"),("b",.float .nan),("",.obj [])])]

theorem redactBody_compact_everything :
    everything.Decoded ∧ everything.intsWritable = true ∧ (∀ t ∈ everything.texts, t.IsScalar) ∧
    everything.nesting ≤ 200 ∧
    ∃ octets, Utf8.encode (Json.compact everything) = .ok octets ∧ redactBody (.foreign (.bytes octets)) =
      .ok (some (.obj [("\"\u0001😀",.arr []),("a",.obj [("a",.str []),("b",.int 0),("",.obj [])])])) := by
  have items : (Value.arr [.null,.bool true,.int (-12),.float (.ofDecimal false 15 (-31))]).Decoded := by
    refine .arr ?_
    simp only [List.forall_mem_cons]
    exact ⟨.null,.bool true,.int _,.float _,by simp⟩
  have members : (Value.obj [("a",.str "é\\"),("b",.float .nan),("",.obj [])]).Decoded := by
    refine .obj (by decide) ?_
    simp only [List.forall_mem_cons]
    exact ⟨.str _,.float _,.obj .nil (by simp),by simp⟩
  have decoded : everything.Decoded := by
    refine .obj (by decide) ?_
    simp only [List.forall_mem_cons]
    exact ⟨items,members,by simp⟩
  have writable : everything.intsWritable = true := by
    have small : isWritableInt (-12) = true := isWritableInt_of_lt (by decide)
    simp [everything,intsWritable,intsWritableItems,intsWritableMembers,small]
  have scalar : ∀ t ∈ everything.texts, t.IsScalar := by decide
  have shallow : everything.nesting ≤ 200 := by decide
  obtain ⟨octets,shape,encoded,run,redacted⟩ := redactBody_compact decoded writable scalar shallow
  cases run
  exact ⟨decoded,writable,scalar,shallow,octets,encoded,redacted⟩

/-! ### Objects one inside the other

The reader follows a document further than redaction does, so there are documents that are read and have no shape. -/

namespace Value

/-- So many objects, each the only member of the one around it. -/
def nested : Nat → Value
  | 0 => .null
  | n + 1 => .obj [("a",nested n)]

theorem nesting_nested (n : Nat) : (nested n).nesting = n := by
  induction n with
  | zero => rfl
  | succ n ih => simp [nested,nesting,memberNesting,ih]

theorem objects_nested (n : Nat) : (nested n).objects = n := by
  induction n with
  | zero => rfl
  | succ n ih => simp [nested,objects,memberObjects,ih]

theorem decoded_nested (n : Nat) : (nested n).Decoded := by
  induction n with
  | zero => exact .null
  | succ n ih => exact .obj (by simp) (by simpa using ih)

theorem intsWritable_nested (n : Nat) : (nested n).intsWritable = true := by
  induction n with
  | zero => rfl
  | succ n ih => simp [nested,intsWritable,intsWritableMembers,ih]

theorem scalar_nested (n : Nat) : ∀ t ∈ (nested n).texts, t.IsScalar := by
  induction n with
  | zero => simp [nested,texts]
  | succ n ih =>
    refine texts_obj.mpr ?_
    simp only [List.mem_singleton,forall_eq]
    exact ⟨by decide,ih⟩

end Value

/-- A body of more objects than can be redacted, and of no more than can be read, says a document without a shape. -/
theorem redactBody_nested {n : Nat} (more : maxObjects < n) (fits : n ≤ Json.maxDepth) :
    (∃ v, loaded? (.foreign (.bytes (compactOctets (nested n)))) = some v ∧ maxObjects < v.objects) ∧
    redactBody (.foreign (.bytes (compactOctets (nested n)))) = .error .tooDeep := by
  obtain ⟨_,v,found,same⟩ := loaded_compactOctets (decoded_nested n) (intsWritable_nested n) (scalar_nested n)
    ((nesting_nested n).le.trans fits)
  have deep : maxObjects < v.objects := by rwa [← same.objects_eq,objects_nested]
  exact ⟨⟨v,found,deep⟩,redactBody_of_tooDeep found deep⟩

end ApiDocs
