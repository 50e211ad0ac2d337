import ApiDocs.Files.Glob

/-!
Which names a pattern matches. A name is matched when it can be cut into pieces, one for each part of the pattern
(`Glob.Matches`). The row of truth values that is carried along a name says behind which parts a match can stand, and what
of the name is left must be matched by the parts behind (`Glob.Reaches`); so in the end it tells the matches exactly
(`Glob.accepts_iff`).
-/
namespace ApiDocs.Glob

/-- A text is cut into pieces, one for each part: any text for a star, and one code point of the set for any other. -/
inductive Matches : List Item → Text → Prop
  | nil : Matches [] []
  | star (any : Text) {items : List Item} {rest : Text} (later : Matches items rest) : Matches (.star :: items) (any ++ rest)
  | one {points : PointSet} {c : Nat} (covered : points.covers c = true) {items : List Item} {rest : Text}
    (later : Matches items rest) : Matches (.one points :: items) (c :: rest)

/-- The parts of a pattern. -/
def parts (pattern : Text) : List Item := read (pattern.length+1) pattern

theorem matches_nil (t : Text) : Matches [] t ↔ t = [] := by
  constructor
  · rintro ⟨⟩
    rfl
  · rintro rfl
    exact .nil

theorem matches_one (points : PointSet) (items : List Item) (c : Nat) (t : Text) :
    Matches (.one points :: items) (c :: t) ↔ points.covers c = true ∧ Matches items t := by
  constructor
  · rintro (_ | _ | ⟨covered,later⟩)
    exact ⟨covered,later⟩
  · rintro ⟨covered,later⟩
    exact .one covered later

theorem not_matches_one_nil (points : PointSet) (items : List Item) : ¬ Matches (.one points :: items) [] := by
  rintro ⟨⟩

/-- A star may stand for nothing. -/
theorem Matches.skip {items : List Item} {t : Text} (later : Matches items t) : Matches (.star :: items) t :=
  .star [] later

/-- A star stands for nothing, or for the next code point and what follows. -/
theorem matches_star_cons (items : List Item) (c : Nat) (t : Text) :
    Matches (.star :: items) (c :: t) ↔ Matches items (c :: t) ∨ Matches (.star :: items) t := by
  constructor
  · intro whole
    generalize own : c :: t = u at whole
    cases whole with
    | star any later =>
      cases any with
      | nil => exact .inl later
      | cons d more =>
        cases own
        exact .inr (.star more later)
  · rintro (later | whole)
    · exact later.skip
    · cases whole with
      | star any later => exact .star (c :: any) later

theorem matches_star_nil (items : List Item) : Matches (.star :: items) [] ↔ Matches items [] := by
  constructor
  · intro whole
    generalize own : ([] : Text) = u at whole
    cases whole with
    | star any later =>
      obtain ⟨rfl,rfl⟩ := List.append_eq_nil_iff.mp own.symm
      exact later
  · exact Matches.skip

/-! ### Rows -/

/-- A row has a value in front of each part and one behind all of them, and a match that can stand in front of a star can
    stand behind it. -/
inductive IsRow : List Item → List Bool → Prop
  | nil (here : Bool) : IsRow [] [here]
  | star {items : List Item} {here next : Bool} {later : List Bool} (passed : here = true → next = true)
    (inner : IsRow items (next :: later)) : IsRow (.star :: items) (here :: next :: later)
  | one {points : PointSet} {items : List Item} (here : Bool) {later : List Bool} (inner : IsRow items later) :
    IsRow (.one points :: items) (here :: later)

/-- Behind one of the places that a row marks, the parts that are left match the text. -/
def Reaches : List Item → List Bool → Text → Prop
  | _, [], _ => False
  | [], here :: _, t => here = true ∧ Matches [] t
  | item :: items, here :: later, t => (here = true ∧ Matches (item :: items) t) ∨ Reaches items later t

theorem reaches_of_first {items : List Item} {here : Bool} (later : List Bool) {t : Text} (marked : here = true)
    (whole : Matches items t) : Reaches items (here :: later) t := by
  cases items with
  | nil => exact ⟨marked,whole⟩
  | cons item items => exact .inl ⟨marked,whole⟩

/-- The last value of a row tells whether the parts behind a marked place match nothing more. -/
theorem IsRow.getLast {items : List Item} {row : List Bool} (isRow : IsRow items row) :
    row.getLast?.getD false = true ↔ Reaches items row [] := by
  induction isRow with
  | nil here => simp [Reaches,Matches.nil]
  | @star items here next later passed inner ih =>
    rw [List.getLast?_cons_cons,ih,Reaches,matches_star_nil]
    refine ⟨.inr,?_⟩
    rintro (⟨marked,whole⟩ | behind)
    · exact reaches_of_first later (passed marked) whole
    · exact behind
  | @one points items here later inner ih =>
    rw [Reaches,← ih]
    cases inner <;> simp [not_matches_one_nil]

theorem exists_start (items : List Item) (reached : Bool) : ∃ later, start items reached = reached :: later := by
  cases items with
  | nil => exact ⟨[],rfl⟩
  | cons item items => cases item <;> exact ⟨_,rfl⟩

theorem isRow_start (items : List Item) (reached : Bool) : IsRow items (start items reached) := by
  induction items generalizing reached with
  | nil => exact .nil reached
  | cons item items ih =>
    cases item with
    | star =>
      have inner := ih reached
      obtain ⟨later,own⟩ := exists_start items reached
      rw [start]
      rw [own] at inner ⊢
      exact .star id inner
    | one points => exact .one reached (ih false)

/-- At the beginning of a text all parts are left. -/
theorem reaches_start (items : List Item) (reached : Bool) (t : Text) :
    Reaches items (start items reached) t ↔ reached = true ∧ Matches items t := by
  induction items generalizing reached with
  | nil => rfl
  | cons item items ih =>
    cases item with
    | star =>
      rw [start,Reaches,ih]
      exact ⟨fun either => either.elim id fun ⟨marked,whole⟩ => ⟨marked,whole.skip⟩,.inl⟩
    | one points =>
      rw [start,Reaches,ih]
      simp

theorem exists_advance (c : Nat) {items : List Item} {row : List Bool} (isRow : IsRow items row) (reached : Bool) :
    ∃ here later, advance c items row reached = here :: later ∧ (reached = true → here = true) := by
  cases isRow with
  | nil here => exact ⟨reached,[],rfl,id⟩
  | star passed inner => exact ⟨_,_,rfl,by simp +contextual⟩
  | one here inner => exact ⟨reached,_,rfl,id⟩

theorem IsRow.advance {items : List Item} {row : List Bool} (isRow : IsRow items row) (c : Nat) (reached : Bool) :
    IsRow items (advance c items row reached) := by
  induction isRow generalizing reached with
  | nil here => exact .nil reached
  | @star items here next later passed inner ih =>
    have behind := ih (reached || here)
    obtain ⟨first,others,own,kept⟩ := exists_advance c inner (reached || here)
    rw [Glob.advance]
    rw [own] at behind ⊢
    exact .star kept behind
  | one here inner ih => exact .one reached (ih _)

/-- One more code point is taken by the parts in front of which it was met. -/
theorem IsRow.reaches_advance {items : List Item} {row : List Bool} (isRow : IsRow items row) (c : Nat) (reached : Bool)
    (t : Text) : Reaches items (Glob.advance c items row reached) t ↔
      Reaches items row (c :: t) ∨ (reached = true ∧ Matches items t) := by
  induction isRow generalizing reached with
  | nil here => simp [Glob.advance,Reaches,matches_nil]
  | @star items here next later passed inner ih =>
    rw [Glob.advance,Reaches,Reaches,ih,matches_star_cons,Bool.or_eq_true]
    constructor
    · rintro (⟨reached | marked,whole⟩ | behind | ⟨reached | marked,whole⟩)
      · exact .inr ⟨reached,whole⟩
      · exact .inl (.inl ⟨marked,.inr whole⟩)
      · exact .inl (.inr behind)
      · exact .inr ⟨reached,whole.skip⟩
      · exact .inl (.inl ⟨marked,.inr whole.skip⟩)
    · rintro ((⟨marked,whole | whole⟩ | behind) | ⟨reached,whole⟩)
      · exact .inr (.inl (reaches_of_first later (passed marked) whole))
      · exact .inl ⟨.inr marked,whole⟩
      · exact .inr (.inl behind)
      · exact .inl ⟨.inl reached,whole⟩
  | @one points items here later inner ih =>
    rw [Glob.advance,Reaches,Reaches,ih,matches_one,Bool.and_eq_true]
    grind

/-! ### Names -/

/-- The row that is carried along a text tells whether the parts match it. -/
theorem fits_iff (items : List Item) (t : Text) : fits items t = true ↔ Matches items t := by
  have carried {row : List Bool} (isRow : IsRow items row) :
      (t.foldl (fun row c => advance c items row false) row).getLast?.getD false = true ↔ Reaches items row t := by
    induction t generalizing row with
    | nil => exact isRow.getLast
    | cons c rest ih =>
      rw [List.foldl_cons,ih (isRow.advance c false),isRow.reaches_advance]
      simp
  rw [fits,carried (isRow_start items true),reaches_start]
  simp

/-- A pattern accepts the names that its parts match. -/
theorem accepts_iff (pattern name : Text) : accepts pattern name = true ↔ Matches (parts pattern) name :=
  fits_iff (parts pattern) name

end ApiDocs.Glob
