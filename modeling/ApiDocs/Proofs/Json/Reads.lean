import ApiDocs.Proofs.Json.Scalars
import ApiDocs.Proofs.Json.Values

/-!
Texts and the values that they are read as (`Reads`), whatever follows them. Words, integers and strings are read as they
are written; and texts that are read as values are read, between brackets and with commas between them, as the array of
these values (`reads_arr`), and with names in front of them as the object (`reads_obj`), whatever blanks are among them.
-/
namespace ApiDocs

namespace Json
open Text Value

/-! ### Blanks -/

/-- Nothing but blanks between tokens. -/
def IsGap (gap : Text) : Prop := ∀ c ∈ gap, isSpace c = true

instance (gap : Text) : Decidable (IsGap gap) := inferInstanceAs (Decidable (∀ c ∈ gap, _))

/-- Neither a blank nor the end of an array stands in front. -/
def IsSolid (t : Text) : Prop := ∃ c more, t = c :: more ∧ isSpace c = false ∧ c ≠ 0x5D

theorem skip_cons {c : Nat} (solid : isSpace c = false) (rest : Text) : skip (c :: rest) = c :: rest := by
  simp [skip,solid]

/-- Blanks are skipped. -/
theorem skip_gap {gap : Text} (blank : IsGap gap) (t : Text) : skip (gap ++ t) = skip t := List.dropWhile_append_of_pos blank

theorem skip_gap_cons {gap : Text} (blank : IsGap gap) {c : Nat} (solid : isSpace c = false) (rest : Text) :
    skip (gap ++ c :: rest) = c :: rest := by
  rw [skip_gap blank,skip_cons solid]

theorem IsSolid.skip_eq {t : Text} (solid : IsSolid t) (rest : Text) : skip (t ++ rest) = t ++ rest := by
  obtain ⟨c,more,rfl,first,_⟩ := solid
  exact skip_cons first _

/-- A digit is no blank. -/
theorem isSpace_of_isDigit {c : Nat} (digit : isDigit c = true) : isSpace c = false := by
  simp only [isDigit,Bool.and_eq_true,decide_eq_true_eq] at digit
  simp only [isSpace,Bool.or_eq_false_iff,beq_eq_false_iff_ne]
  omega

theorem endsNumber_cons {c : Nat} (other : isDigit c = false ∧ c ≠ 0x2E ∧ c ≠ 0x65 ∧ c ≠ 0x45) (rest : Text) :
    EndsNumber (c :: rest) := by
  intro _ _ same
  cases same
  exact other

/-- A number ends in front of blanks. -/
theorem endsNumber_gap {gap : Text} (blank : IsGap gap) {t : Text} (ends : EndsNumber t) : EndsNumber (gap ++ t) := by
  cases gap with
  | nil => exact ends
  | cons c more =>
    refine endsNumber_cons ?_ _
    have space := blank c List.mem_cons_self
    simp only [isSpace,Bool.or_eq_true,beq_iff_eq] at space
    obtain ((rfl | rfl) | rfl) | rfl := space <;> decide

/-! ### One step of the readers -/

variable {fuel room : Nat} {t after rest : Text} {v : Value}

theorem readValue_emptyArr (empty : skip t = 0x5D :: rest) :
    readValue (fuel+1) (room+1) (0x5B :: t) = .ok (.arr [],rest) := by
  rw [readValue.eq_def]
  simp [empty]

theorem readValue_arr {c : Nat} (first : skip t = c :: after) (full : c ≠ 0x5D) {items : List Value}
    (run : readItems fuel room [] (c :: after) = .ok (items,rest)) :
    readValue (fuel+1) (room+1) (0x5B :: t) = .ok (.arr items,rest) := by
  rw [readValue.eq_def]
  simp [first,full,run,Except.map]

theorem readValue_emptyObj (empty : skip t = 0x7D :: rest) :
    readValue (fuel+1) (room+1) (0x7B :: t) = .ok (.obj [],rest) := by
  rw [readValue.eq_def]
  simp [empty]

theorem readValue_obj {c : Nat} (first : skip t = c :: after) (full : c ≠ 0x7D) {members : List (Text × Value)}
    (run : readMembers fuel room [] (c :: after) = .ok (members,rest)) :
    readValue (fuel+1) (room+1) (0x7B :: t) = .ok (.obj members,rest) := by
  rw [readValue.eq_def]
  simp [first,full,run,Except.map]

theorem readItems_last {read : List Value} (run : readValue fuel room t = .ok (v,after))
    (closing : skip after = 0x5D :: rest) : readItems (fuel+1) room read t = .ok (read.reverse ++ [v],rest) := by
  rw [readItems.eq_def]
  simp [run,closing]

theorem readItems_more {read : List Value} (run : readValue fuel room t = .ok (v,after))
    (comma : skip after = 0x2C :: rest) :
    readItems (fuel+1) room read t = readItems fuel room (v :: read) (skip rest) := by
  rw [readItems.eq_def]
  simp [run,comma]

/-- The text of a member: its name, a colon and the text of its value. -/
def memberText (name t : Text) : Text := quote name ++ (": " : Text) ++ t

theorem memberText_eq (name t : Text) :
    memberText name t = 0x22 :: (name.flatMap escapePoint ++ 0x22 :: 0x3A :: 0x20 :: t) := by
  have between : (": " : Text) = [0x3A,0x20] := rfl
  simp [memberText,quote,between]

theorem memberText_append (name t rest : Text) : memberText name t ++ rest = memberText name (t ++ rest) :=
  List.append_assoc _ _ _

theorem isSolid_memberText (name t : Text) : IsSolid (memberText name t) := ⟨_,_,memberText_eq name t,rfl,by decide⟩

theorem length_lt_memberText (name t : Text) : t.length < (memberText name t).length := by
  rw [memberText_eq]
  simp only [List.length_cons,List.length_append]
  omega

theorem readMembers_last {name : Text} (scalar : name.IsScalar) (solid : skip t = t) {read : List (Text × Value)}
    (run : readValue fuel room t = .ok (v,after)) (closing : skip after = 0x7D :: rest) :
    readMembers (fuel+1) room read (memberText name t) = .ok (Value.insert name v read,rest) := by
  have colon : skip (0x3A :: 0x20 :: t) = 0x3A :: 0x20 :: t := skip_cons rfl _
  have blank : skip (0x20 :: t) = t := solid
  rw [memberText_eq,readMembers.eq_def]
  simp [readString_quote scalar,colon,blank,run,closing]

theorem readMembers_more {name : Text} (scalar : name.IsScalar) (solid : skip t = t) {read : List (Text × Value)}
    (run : readValue fuel room t = .ok (v,after)) (comma : skip after = 0x2C :: rest) :
    readMembers (fuel+1) room read (memberText name t) = readMembers fuel room (Value.insert name v read) (skip rest) := by
  have colon : skip (0x3A :: 0x20 :: t) = 0x3A :: 0x20 :: t := skip_cons rfl _
  have blank : skip (0x20 :: t) = t := solid
  rw [memberText_eq,readMembers.eq_def]
  simp [readString_quote scalar,colon,blank,run,comma]

/-! ### Numbers and words -/

/-- No word begins with a digit, with or without a minus sign. -/
theorem words_find?_digit {c : Nat} (digit : isDigit c = true) (rest : Text) :
    words.find? (fun (word,_) => startsWith (c :: rest) word) = none ∧
    words.find? (fun (word,_) => startsWith (0x2D :: c :: rest) word) = none := by
  have heads : ∀ entry ∈ words, ∃ a b more, entry.1 = a :: b :: more ∧ isDigit a = false ∧ isDigit b = false := by
    simp only [words,List.forall_mem_cons]
    exact ⟨⟨_,_,_,rfl,rfl,rfl⟩,⟨_,_,_,rfl,rfl,rfl⟩,⟨_,_,_,rfl,rfl,rfl⟩,⟨_,_,_,rfl,rfl,rfl⟩,⟨_,_,_,rfl,rfl,rfl⟩,
      ⟨_,_,_,rfl,rfl,rfl⟩,by simp⟩
  have other {a : Nat} (noDigit : isDigit a = false) : a ≠ c := by
    rintro rfl
    simp [digit] at noDigit
  constructor
  all_goals
    refine List.find?_eq_none.mpr fun entry member => ?_
    obtain ⟨a,b,more,split,first,second⟩ := heads entry member
    simp [split,startsWith,List.isPrefixOf,other first,other second]

/-- What stands in front of the digits of a number: nothing or a minus sign. -/
def IsSign (t : Text) : Prop := t = [] ∨ t = [0x2D]

theorem ofInt_split (n : Int) : ∃ sign digits, ofInt n = sign ++ digits ∧ IsSign sign ∧ IsDigits digits := by
  cases n with
  | ofNat m => exact ⟨[],ofNat m,rfl,.inl rfl,isDigits_ofNat m⟩
  | negSucc m => exact ⟨[0x2D],ofNat (m+1),rfl,.inr rfl,isDigits_ofNat (m+1)⟩

/-- What begins with none of the signs that open a string, an object or an array is a word or a number. -/
theorem readValue_other {c : Nat} (noQuote : c ≠ 0x22) (noBrace : c ≠ 0x7B) (noBracket : c ≠ 0x5B) :
    readValue (fuel+1) room (c :: t) =
      match words.find? fun (word,_) => startsWith (c :: t) word with
      | some (word,v) => .ok (v,(c :: t).drop word.length)
      | none => readNumber (c :: t) := by
  rw [readValue.eq_def]
  split
  · cases ‹fuel + 1 = 0›
  · rename_i same
    cases same
    split
    all_goals rename_i same
    · exact absurd (List.cons.inj same).1 noQuote
    · exact absurd (List.cons.inj same).1 noBrace
    · exact absurd (List.cons.inj same).1 noBracket
    · rfl

/-- What begins with a digit, or with a minus sign and a digit, is a number. -/
theorem readValue_number {sign digits : Text} (signed : IsSign sign) (each : IsDigits digits) (rest : Text) :
    readValue (fuel+1) room (sign ++ (digits ++ rest)) = readNumber (sign ++ (digits ++ rest)) := by
  obtain ⟨c,more,rfl,digit⟩ := each.eq_cons
  obtain ⟨bare,minus⟩ := words_find?_digit digit (more ++ rest)
  have bounds : 0x30 ≤ c ∧ c ≤ 0x39 := by simpa [isDigit] using digit
  rcases signed with rfl | rfl
  · rw [List.nil_append,List.cons_append,readValue_other (by omega) (by omega) (by omega),bare]
  · rw [List.singleton_append,List.cons_append,readValue_other (by decide) (by decide) (by decide),minus]

theorem readValue_quote {s : Text} (scalar : s.IsScalar) :
    readValue (fuel+1) room (quote s ++ rest) = .ok (.str s,rest) := by
  rw [quote,List.cons_append,List.append_assoc,List.singleton_append,readValue.eq_def]
  simp [readString_quote scalar,Except.map]

/-! ### Texts and what they are read as -/

/-- The text is read as the value in front of whatever does not continue a number. -/
structure Reads (room : Nat) (t : Text) (v : Value) : Prop where
  solid : IsSolid t
  run : ∀ fuel rest, t.length < fuel → EndsNumber rest → readValue fuel room (t ++ rest) = .ok (v,rest)

theorem Reads.intro {room : Nat} {t : Text} {v : Value} (solid : IsSolid t)
    (step : ∀ fuel rest, t.length ≤ fuel → EndsNumber rest → readValue (fuel+1) room (t ++ rest) = .ok (v,rest)) :
    Reads room t v := by
  refine ⟨solid,fun fuel rest enough ends => ?_⟩
  obtain ⟨fuel,rfl⟩ : ∃ f, fuel = f + 1 := ⟨fuel - 1,by omega⟩
  exact step fuel rest (by omega) ends

/-- The words are read as what they stand for. -/
theorem reads_word (room : Nat) : ∀ entry ∈ words, Reads room entry.1 entry.2 := by
  simp only [words,List.forall_mem_cons]
  refine ⟨?_,?_,?_,?_,?_,?_,by simp⟩
  all_goals
    refine .intro ⟨_,_,rfl,rfl,by decide⟩ fun _ _ _ _ => ?_
    rw [readValue.eq_def]
    rfl

theorem reads_null (room : Nat) : Reads room "null" .null := reads_word room ("null",.null) (by simp [words])

theorem reads_bool (room : Nat) (b : Bool) : Reads room (atom (.bool b)) (.bool b) := by
  cases b with
  | false => exact reads_word room ("false",.bool false) (by simp [words])
  | true => exact reads_word room ("true",.bool true) (by simp [words])

/-- A number is read as a value when it is read as a number. -/
theorem reads_number {room : Nat} {sign digits rest : Text} {v : Value} (signed : IsSign sign) (each : IsDigits digits)
    (run : ∀ after, EndsNumber after → readNumber (sign ++ (digits ++ (rest ++ after))) = .ok (v,after)) :
    Reads room (sign ++ (digits ++ rest)) v := by
  refine .intro ?_ fun _ after _ ends => ?_
  · obtain ⟨c,more,rfl,digit⟩ := each.eq_cons
    rcases signed with rfl | rfl
    · exact ⟨c,more ++ rest,rfl,isSpace_of_isDigit digit,by rintro rfl; cases digit⟩
    · exact ⟨0x2D,c :: more ++ rest,rfl,rfl,by decide⟩
  · rw [List.append_assoc,List.append_assoc,readValue_number signed each]
    exact run after ends

theorem reads_ofInt (room : Nat) {n : Int} (writable : isWritableInt n = true) : Reads room (ofInt n) (.int n) := by
  obtain ⟨sign,digits,split,signed,each⟩ := ofInt_split n
  have whole : ofInt n = sign ++ (digits ++ []) := by rw [List.append_nil,split]
  rw [whole]
  refine reads_number signed each fun after ends => ?_
  have number := readNumber_ofInt writable ends
  rwa [split,List.append_assoc] at number

theorem reads_quote (room : Nat) {s : Text} (scalar : s.IsScalar) : Reads room (quote s) (.str s) :=
  .intro ⟨_,_,rfl,rfl,by decide⟩ fun _ _ _ _ => readValue_quote scalar

/-- A text of ASCII that is read as a value says this value. -/
theorem Reads.readWithin_eq {room : Nat} {t : Text} {v : Value} (reads : Reads room t v) (ascii : t.IsAscii) :
    readWithin room t = .ok v := by
  have run := reads.run (2 * t.length + 1) [] (by omega) (by rintro _ _ ⟨⟩)
  have start := reads.solid.skip_eq []
  have noMark : t.head? ≠ some 0xFEFF := by
    intro mark
    have point := ascii _ (List.mem_of_head? mark)
    omega
  rw [List.append_nil] at run start
  rw [readWithin,if_neg noMark,start]
  simp [run,skip]

theorem join_cons_eq_append (sep part : Text) (parts : List Text) : ∃ more, join sep (part :: parts) = part ++ more := by
  cases parts with
  | nil => exact ⟨[],by simp⟩
  | cons next later => exact ⟨_,join_cons_cons sep part next later⟩

/-- Joined texts are solid when the first of them is. -/
theorem isSolid_join {sep : Text} {parts : List Text} (full : parts ≠ []) (each : ∀ part ∈ parts, IsSolid part) :
    IsSolid (join sep parts) := by
  obtain ⟨part,later,rfl⟩ := List.exists_cons_of_ne_nil full
  obtain ⟨c,more,same,solid⟩ := each part List.mem_cons_self
  obtain ⟨behind,split⟩ := join_cons_eq_append sep part later
  exact ⟨c,more ++ behind,by rw [split,same,List.cons_append],solid⟩

section

variable {α : Type} {name text : α → Text} {value : α → Value}
variable {gap last : Text} (blank : IsGap gap) (lastBlank : IsGap last) (rest : Text)
include blank lastBlank

/-- Items are read up to the end of their array. -/
theorem readItems_join {room : Nat} {items : List α} (full : items ≠ [])
    (each : ∀ a ∈ items, Reads room (text a) (value a)) (fuel : Nat) (read : List Value)
    (enough : (join (0x2C :: gap) (items.map text)).length + 1 < fuel) :
    readItems fuel room read (join (0x2C :: gap) (items.map text) ++ (last ++ 0x5D :: rest)) =
      .ok (read.reverse ++ items.map value,rest) := by
  induction items generalizing fuel read with
  | nil => exact absurd rfl full
  | cons a later ih =>
    obtain ⟨first,others⟩ := List.forall_mem_cons.mp each
    obtain ⟨fuel,rfl⟩ : ∃ f, fuel = f + 1 := ⟨fuel - 1,by omega⟩
    cases later with
    | nil =>
      have ends : EndsNumber (last ++ 0x5D :: rest) := endsNumber_gap lastBlank (endsNumber_cons (by decide) _)
      simp only [List.map_cons,List.map_nil,join_singleton] at enough ⊢
      exact readItems_last (first.run _ _ (by omega) ends) (skip_gap_cons lastBlank rfl _)
    | cons b more =>
      have next := ih (by simp) others fuel (value a :: read)
      have solid : IsSolid (join (0x2C :: gap) ((b :: more).map text)) :=
        isSolid_join (by simp) (List.forall_mem_map.mpr fun c member => (others c member).solid)
      simp only [List.map_cons,join_cons_cons,List.length_append,List.length_cons] at enough next solid ⊢
      generalize join (0x2C :: gap) (text b :: more.map text) = tail at *
      simp only [List.append_assoc,List.cons_append]
      rw [readItems_more (first.run _ _ (by omega) (endsNumber_cons (by decide) _)) (skip_cons rfl _),skip_gap blank,
        solid.skip_eq,next (by omega),List.reverse_cons,List.append_assoc]
      rfl

/-- Members are read up to the end of their object. -/
theorem readMembers_join {room : Nat} {members : List α} (full : members ≠ [])
    (each : ∀ a ∈ members, (name a).IsScalar ∧ Reads room (text a) (value a)) (fuel : Nat) (read : List (Text × Value))
    (distinct : (read.map (·.1) ++ members.map name).Nodup)
    (enough : (join (0x2C :: gap) (members.map fun a => memberText (name a) (text a))).length + 1 < fuel) :
    readMembers fuel room read
      (join (0x2C :: gap) (members.map fun a => memberText (name a) (text a)) ++ (last ++ 0x7D :: rest)) =
        .ok (read ++ members.map fun a => (name a,value a),rest) := by
  induction members generalizing fuel read with
  | nil => exact absurd rfl full
  | cons a later ih =>
    obtain ⟨⟨scalar,first⟩,others⟩ := List.forall_mem_cons.mp each
    obtain ⟨fuel,rfl⟩ : ∃ f, fuel = f + 1 := ⟨fuel - 1,by omega⟩
    have absent : name a ∉ read.map (·.1) := fun member =>
      (List.nodup_append.mp distinct).2.2 _ member _ List.mem_cons_self rfl
    have size := length_lt_memberText (name a) (text a)
    cases later with
    | nil =>
      have ends : EndsNumber (last ++ 0x7D :: rest) := endsNumber_gap lastBlank (endsNumber_cons (by decide) _)
      simp only [List.map_cons,List.map_nil,join_singleton] at enough ⊢
      rw [memberText_append,readMembers_last scalar (first.solid.skip_eq _) (first.run _ _ (by omega) ends)
        (skip_gap_cons lastBlank rfl _),insert_absent absent]
    | cons b more =>
      have next := ih (by simp) others fuel (read ++ [(name a,value a)]) (by simpa using distinct)
      have solid : IsSolid (join (0x2C :: gap) ((b :: more).map fun a => memberText (name a) (text a))) :=
        isSolid_join (by simp) (List.forall_mem_map.mpr fun c _ => isSolid_memberText (name c) (text c))
      simp only [List.map_cons,join_cons_cons,List.length_append,List.length_cons] at enough next solid ⊢
      generalize join (0x2C :: gap) (memberText (name b) (text b) :: more.map fun a => memberText (name a) (text a)) =
        tail at *
      simp only [List.append_assoc,List.cons_append]
      rw [memberText_append,readMembers_more scalar (first.solid.skip_eq _)
        (first.run _ _ (by omega) (endsNumber_cons (by decide) _)) (skip_cons rfl _),skip_gap blank,solid.skip_eq,
        insert_absent absent]
      exact (next (by omega)).trans (by simp)

end

/-- Texts between brackets, with blanks in front of the first of them, behind every comma and behind the last. -/
def bracketed (opening closing : Nat) (lead gap last : Text) (parts : List Text) : Text :=
  opening :: (lead ++ (join (0x2C :: gap) parts ++ (last ++ [closing])))

theorem bracketed_append (opening closing : Nat) (lead gap last : Text) (parts : List Text) (rest : Text) :
    bracketed opening closing lead gap last parts ++ rest =
      opening :: (lead ++ (join (0x2C :: gap) parts ++ (last ++ closing :: rest))) := by
  simp [bracketed]

theorem length_bracketed (opening closing : Nat) (lead gap last : Text) (parts : List Text) :
    (join (0x2C :: gap) parts).length + 2 ≤ (bracketed opening closing lead gap last parts).length := by
  simp only [bracketed,List.length_cons,List.length_append,List.length_nil]
  omega

section

variable {α : Type} {name text : α → Text} {value : α → Value}
variable {lead gap last : Text} (leadBlank : IsGap lead) (blank : IsGap gap) (lastBlank : IsGap last)
include leadBlank blank lastBlank

/-- Texts of values between brackets are read as an array. -/
theorem reads_arr {room : Nat} {items : List α} (each : ∀ a ∈ items, Reads room (text a) (value a)) :
    Reads (room+1) (bracketed 0x5B 0x5D lead gap last (items.map text)) (.arr (items.map value)) := by
  refine .intro ⟨0x5B,_,rfl,rfl,by decide⟩ fun fuel rest enough ends => ?_
  have size := length_bracketed 0x5B 0x5D lead gap last (items.map text)
  rw [bracketed_append]
  by_cases full : items = []
  · subst full
    refine readValue_emptyArr ?_
    rw [skip_gap leadBlank]
    exact skip_gap_cons lastBlank rfl rest
  · have run := readItems_join blank lastBlank rest full each fuel [] (by omega)
    obtain ⟨c,more,same,solid,noEnd⟩ : IsSolid (join (0x2C :: gap) (items.map text)) :=
      isSolid_join (by simpa using full) (List.forall_mem_map.mpr fun a member => (each a member).solid)
    rw [same,List.cons_append] at run ⊢
    exact readValue_arr (skip_gap_cons leadBlank solid _) noEnd run

/-- Texts of members between braces are read as an object, when no name stands twice. -/
theorem reads_obj {room : Nat} {members : List α} (distinct : (members.map name).Nodup)
    (each : ∀ a ∈ members, (name a).IsScalar ∧ Reads room (text a) (value a)) :
    Reads (room+1) (bracketed 0x7B 0x7D lead gap last (members.map fun a => memberText (name a) (text a)))
      (.obj (members.map fun a => (name a,value a))) := by
  refine .intro ⟨0x7B,_,rfl,rfl,by decide⟩ fun fuel rest enough ends => ?_
  have size := length_bracketed 0x7B 0x7D lead gap last (members.map fun a => memberText (name a) (text a))
  rw [bracketed_append]
  by_cases full : members = []
  · subst full
    refine readValue_emptyObj ?_
    rw [skip_gap leadBlank]
    exact skip_gap_cons lastBlank rfl rest
  · have run := readMembers_join blank lastBlank rest full each fuel [] distinct (by omega)
    obtain ⟨a,later,rfl⟩ := List.exists_cons_of_ne_nil full
    obtain ⟨behind,split⟩ := join_cons_eq_append (0x2C :: gap) (memberText (name a) (text a))
      (later.map fun a => memberText (name a) (text a))
    rw [List.map_cons,split,memberText_eq] at run ⊢
    exact readValue_obj (skip_gap_cons leadBlank rfl _) (by decide) run

end

end Json

end ApiDocs
