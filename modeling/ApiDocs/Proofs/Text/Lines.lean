import ApiDocs.Text.Blank
import Mathlib.Data.List.TakeWhile

/-!
White space and the parts of a text: a text is split at a separator and joined again, and white space in all of its lines
is white space in the text.
-/
namespace ApiDocs

/-- The text holds nothing but white space. -/
def Text.IsBlank (t : Text) : Prop := ∀ c ∈ t, isBlank c = true

instance (t : Text) : Decidable t.IsBlank := inferInstanceAs (Decidable (∀ c ∈ t, _))

namespace Text

@[simp] theorem isBlank_nil : IsBlank [] := fun _ member => absurd member List.not_mem_nil

theorem isBlank_cons (c : Nat) (t : Text) : IsBlank (c :: t) ↔ ApiDocs.isBlank c = true ∧ t.IsBlank :=
  List.forall_mem_cons

theorem isBlank_append (a b : Text) : IsBlank (a ++ b) ↔ a.IsBlank ∧ b.IsBlank := List.forall_mem_append

theorem trimLeft_eq_nil (t : Text) : t.trimLeft = [] ↔ t.IsBlank := by
  rw [trimLeft,List.dropWhile_eq_nil_iff]
  rfl

theorem isBlank_trimLeft (t : Text) : t.trimLeft.IsBlank ↔ t.IsBlank := by
  constructor
  · intro blank
    by_contra content
    have left : t.trimLeft ≠ [] := fun none => content ((trimLeft_eq_nil t).mp none)
    have first : ApiDocs.isBlank (t.trimLeft.head left) = false := List.head_dropWhile_not ApiDocs.isBlank left
    exact absurd (blank _ (List.head_mem left)) (by simp [first])
  · intro blank
    rw [(trimLeft_eq_nil t).mpr blank]
    exact isBlank_nil

/-- Only a text of white space has no first word. -/
theorem firstWord?_eq_none (t : Text) : t.firstWord? = none ↔ t.IsBlank := by
  rw [← trimLeft_eq_nil]
  simp [firstWord?]

/-- A text either holds no end of a part, or it is a part, its end, and what follows them. -/
theorem cutInduction (isEnd : Nat → Bool) {motive : Text → Prop} (last : ∀ l : Text, (∀ c ∈ l, isEnd c = false) → motive l)
    (more : ∀ (l : Text) (c : Nat) (u : Text), (∀ c ∈ l, isEnd c = false) → isEnd c = true → motive u → motive (l ++ c :: u))
    (t : Text) : motive t := by
  have split : t.takeWhile (!isEnd ·) ++ t.dropWhile (!isEnd ·) = t := List.takeWhile_append_dropWhile
  have part : ∀ c ∈ t.takeWhile (!isEnd ·), isEnd c = false := fun c member => by
    simpa using List.mem_takeWhile_imp member
  cases behind : t.dropWhile (!isEnd ·) with
  | nil =>
    rw [behind,List.append_nil] at split
    exact split ▸ last _ part
  | cons c u =>
    have ends : isEnd c = true := by
      have unseen := List.head?_dropWhile_not (!isEnd ·) t
      rw [behind] at unseen
      simpa using unseen
    have shorter : u.length < t.length := by
      have size := congrArg List.length split
      rw [behind,List.length_append,List.length_cons] at size
      omega
    rw [← split,behind]
    exact more _ c u part ends (cutInduction isEnd last more u)
termination_by t.length

/-! ### Lines -/

theorem splitOn_ne_nil (sep : Nat) (t : Text) : splitOn sep t ≠ [] := by
  cases t with
  | nil => simp [splitOn]
  | cons c rest =>
    rw [splitOn]
    split
    · simp
    · split <;> simp

/-- What is no separator belongs to the first part. -/
theorem splitOn_cons {sep c : Nat} (other : c ≠ sep) (t : Text) :
    ∃ part parts, splitOn sep t = part :: parts ∧ splitOn sep (c :: t) = (c :: part) :: parts := by
  cases split : splitOn sep t with
  | nil => exact absurd split (splitOn_ne_nil sep t)
  | cons part parts => exact ⟨part,parts,rfl,by simp [splitOn,other,split]⟩

theorem splitOn_append (sep : Nat) (t u : Text) : splitOn sep (t ++ sep :: u) = splitOn sep t ++ splitOn sep u := by
  induction t with
  | nil => simp [splitOn]
  | cons c rest ih =>
    by_cases same : c = sep
    · simp [splitOn,same,ih]
    · obtain ⟨part,parts,before,after⟩ := splitOn_cons same rest
      obtain ⟨first,more,whole,longer⟩ := splitOn_cons same (rest ++ sep :: u)
      rw [ih,before] at whole
      cases whole
      rw [List.cons_append,longer,after]
      rfl

/-- A text without the separator is one part. -/
theorem splitOn_of_not_mem {sep : Nat} {t : Text} (whole : sep ∉ t) : splitOn sep t = [t] := by
  induction t with
  | nil => rfl
  | cons c rest ih =>
    rw [List.mem_cons,not_or] at whole
    simp [splitOn,Ne.symm whole.1,ih whole.2]

/-- No separator is left in the parts. -/
theorem not_mem_of_mem_splitOn {sep : Nat} {t part : Text} (member : part ∈ splitOn sep t) : sep ∉ part := by
  induction t using cutInduction (· == sep) with
  | last l whole =>
    have own : sep ∉ l := fun inside => by simpa using whole sep inside
    rw [splitOn_of_not_mem own,List.mem_singleton] at member
    exact member ▸ own
  | more l c u whole ends ih =>
    have own : sep ∉ l := fun inside => by simpa using whole sep inside
    rw [beq_iff_eq.mp ends,splitOn_append,splitOn_of_not_mem own,List.singleton_append,List.mem_cons] at member
    exact member.elim (fun same => same ▸ own) ih

/-- White space in every line is white space in all of the text, since a line feed is white space. -/
theorem isBlank_splitOn (t : Text) : (∀ line ∈ splitOn 0x0A t, line.IsBlank) ↔ t.IsBlank := by
  induction t with
  | nil => simp [splitOn]
  | cons c rest ih =>
    by_cases feed : c = 0x0A
    · simp [splitOn,feed,isBlank_cons,ih,ApiDocs.isBlank]
    · obtain ⟨line,lines,before,after⟩ := splitOn_cons feed rest
      rw [before,List.forall_mem_cons] at ih
      rw [after,List.forall_mem_cons,isBlank_cons,isBlank_cons,← ih,and_assoc]

@[simp] theorem join_nil (sep : Text) : join sep [] = [] := rfl

@[simp] theorem join_singleton (sep part : Text) : join sep [part] = part := by
  simp [join]

theorem join_cons_cons (sep first second : Text) (more : List Text) :
    join sep (first :: second :: more) = first ++ (sep ++ join sep (second :: more)) := by
  simp [join,List.intercalate]

/-- The last part stands at the end, behind a separator unless it is the only one. -/
theorem join_concat (sep : Text) (parts : List Text) (last : Text) :
    join sep (parts ++ [last]) = (if parts = [] then [] else join sep parts ++ sep) ++ last := by
  induction parts with
  | nil => simp
  | cons first rest ih =>
    cases rest with
    | nil => simp [join_cons_cons]
    | cons second more =>
      rw [List.cons_append,List.cons_append,join_cons_cons,← List.cons_append,ih,join_cons_cons]
      simp

theorem mem_join_of_mem {sep : Text} {parts : List Text} {part : Text} (member : part ∈ parts) {c : Nat}
    (inside : c ∈ part) : c ∈ join sep parts := by
  induction parts with
  | nil => exact absurd member List.not_mem_nil
  | cons first rest ih =>
    cases rest with
    | nil => simpa using List.mem_singleton.mp member ▸ inside
    | cons second more =>
      rw [join_cons_cons]
      rcases List.mem_cons.mp member with rfl | later
      · simp [inside]
      · exact List.mem_append_right _ (List.mem_append_right _ (ih later))

theorem mem_of_mem_join {sep : Text} {parts : List Text} {c : Nat} (member : c ∈ join sep parts) :
    c ∈ sep ∨ ∃ part ∈ parts, c ∈ part := by
  induction parts with
  | nil => simp at member
  | cons first rest ih =>
    cases rest with
    | nil => exact .inr ⟨first,List.mem_singleton_self first,by simpa using member⟩
    | cons second more =>
      rw [join_cons_cons,List.mem_append,List.mem_append] at member
      rcases member with own | between | later
      · exact .inr ⟨first,List.mem_cons_self,own⟩
      · exact .inl between
      · exact (ih later).imp_right fun ⟨part,among,inside⟩ => ⟨part,List.mem_cons_of_mem first among,inside⟩

/-- What holds of all code points of the parts and of what stands between them holds of all of the text. -/
theorem forall_mem_join {P : Nat → Prop} {sep : Text} {parts : List Text} (between : ∀ c ∈ sep, P c)
    (each : ∀ part ∈ parts, ∀ c ∈ part, P c) : ∀ c ∈ join sep parts, P c := by
  intro c member
  rcases mem_of_mem_join member with own | ⟨part,among,inside⟩
  · exact between c own
  · exact each part among c inside

/-- Parts without a separator in them are found again. -/
theorem splitOn_join {sep : Nat} {parts : List Text} (filled : parts ≠ []) (each : ∀ part ∈ parts, sep ∉ part) :
    splitOn sep (join [sep] parts) = parts := by
  induction parts with
  | nil => exact absurd rfl filled
  | cons first rest ih =>
    obtain ⟨own,others⟩ := List.forall_mem_cons.mp each
    cases rest with
    | nil => rw [join_singleton,splitOn_of_not_mem own]
    | cons second more =>
      rw [join_cons_cons,List.singleton_append,splitOn_append,splitOn_of_not_mem own,ih (by simp) others]
      rfl

theorem isBlank_join (lines : List Text) : (join [0x0A] lines).IsBlank ↔ ∀ line ∈ lines, line.IsBlank := by
  constructor
  · intro blank line member c inside
    exact blank c (mem_join_of_mem member inside)
  · exact forall_mem_join (by decide)

/-! ### Line ends -/

/-- Only line ends are changed when they become line feeds. -/
theorem mem_withLineFeeds {c : Nat} (noFeed : c ≠ 10) (noReturn : c ≠ 13) (t : Text) : c ∈ t.withLineFeeds ↔ c ∈ t := by
  induction t using withLineFeeds.induct with
  | case1 => rfl
  | case2 rest ih => simp [withLineFeeds,ih,noFeed,noReturn]
  | case3 x rest other ih =>
    rw [withLineFeeds.eq_3 _ _ other,List.mem_cons,List.mem_cons,ih]
    split
    · rename_i isReturn
      simp [isReturn,noFeed,noReturn]
    · rfl

/-- A text without carriage returns stays as it is. -/
theorem withLineFeeds_eq_self {t : Text} (noReturn : 13 ∉ t) : t.withLineFeeds = t := by
  induction t using withLineFeeds.induct with
  | case1 => rfl
  | case2 rest ih => exact absurd List.mem_cons_self noReturn
  | case3 x rest other ih =>
    rw [List.mem_cons,not_or] at noReturn
    rw [withLineFeeds.eq_3 _ _ other,if_neg (Ne.symm noReturn.1),ih noReturn.2]

end Text

end ApiDocs
