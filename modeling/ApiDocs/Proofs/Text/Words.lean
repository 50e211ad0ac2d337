import ApiDocs.Proofs.Text.Lines

/-!
The words of a text. They are what is left when the first word is read again and again (`words_of_firstWord?`), white
space at the ends is of no account for them (`words_trim`), and the first word of a text is the first word of one of its
lines (`exists_line_of_head_words`).
-/
namespace ApiDocs.Text

/-- White space in front of a text belongs to no word. -/
theorem words_blank_append {b : Text} (blank : b.IsBlank) (t : Text) : words (b ++ t) = words t := by
  induction b with
  | nil => rfl
  | cons c rest ih =>
    obtain ⟨first,later⟩ := (isBlank_cons c rest).mp blank
    have dropped : words (c :: (rest ++ t)) = words (rest ++ t) := words_append_blank first [] (rest ++ t)
    rw [List.cons_append,dropped,ih later]

/-- White space behind a text belongs to no word. -/
theorem words_append_of_isBlank (t : Text) {b : Text} (blank : b.IsBlank) : words (t ++ b) = words t := by
  cases b with
  | nil => rw [List.append_nil]
  | cons c rest =>
    obtain ⟨first,later⟩ := (isBlank_cons c rest).mp blank
    have none : words rest = [] := by simpa using words_blank_append later []
    rw [words_append_blank first,none,List.append_nil]

theorem isBlank_takeWhile (t : Text) : IsBlank (t.takeWhile ApiDocs.isBlank) :=
  fun _ member => List.mem_takeWhile_imp member

@[simp] theorem words_trimLeft (t : Text) : t.trimLeft.words = t.words := by
  have split : t.takeWhile ApiDocs.isBlank ++ t.trimLeft = t := List.takeWhile_append_dropWhile
  calc t.trimLeft.words
    _ = words (t.takeWhile ApiDocs.isBlank ++ t.trimLeft) := (words_blank_append (isBlank_takeWhile t) _).symm
    _ = t.words := by rw [split]

theorem trimRight_append (t : Text) : t.trimRight ++ (t.reverse.takeWhile ApiDocs.isBlank).reverse = t := by
  rw [trimRight,← List.reverse_append,List.takeWhile_append_dropWhile,List.reverse_reverse]

@[simp] theorem words_trimRight (t : Text) : t.trimRight.words = t.words := by
  have blank : IsBlank (t.reverse.takeWhile ApiDocs.isBlank).reverse := fun c member =>
    isBlank_takeWhile _ c (List.mem_reverse.mp member)
  calc t.trimRight.words
    _ = words (t.trimRight ++ (t.reverse.takeWhile ApiDocs.isBlank).reverse) := (words_append_of_isBlank _ blank).symm
    _ = t.words := by rw [trimRight_append]

@[simp] theorem words_trim (t : Text) : t.trim.words = t.words := by
  rw [trim,words_trimRight,words_trimLeft]

/-- A word ends where white space begins. -/
theorem words_solid_append {w : Text} (filled : w ≠ []) (solid : ∀ c ∈ w, ApiDocs.isBlank c = false) {more : Text}
    (ends : ∀ c ∈ more.head?, ApiDocs.isBlank c = true) : words (w ++ more) = w :: words more := by
  cases more with
  | nil => rw [List.append_nil,words_solid filled solid,words_nil]
  | cons c rest =>
    have blank := ends c rfl
    have dropped : words (c :: rest) = words rest := words_append_blank blank [] rest
    rw [words_append_blank blank,words_solid filled solid,dropped]
    rfl

/-- The first word is read, and the others are those of what follows it. -/
theorem words_of_firstWord? {t word rest : Text} (found : t.firstWord? = some (word,rest)) :
    t.words = word :: rest.words := by
  unfold firstWord? at found
  dsimp only at found
  split at found
  · cases found
  · rename_i filled
    cases found
    obtain ⟨c,more,shape⟩ := List.exists_cons_of_ne_nil (show t.trimLeft ≠ [] by simpa using filled)
    have first : ApiDocs.isBlank c = false := by
      have unseen := List.head?_dropWhile_not ApiDocs.isBlank t
      rwa [show t.dropWhile ApiDocs.isBlank = c :: more from shape] at unseen
    have word : t.trimLeft.takeWhile (!ApiDocs.isBlank ·) ≠ [] := by simp [shape,first]
    have solid : ∀ c ∈ t.trimLeft.takeWhile (!ApiDocs.isBlank ·), ApiDocs.isBlank c = false := fun c member => by
      simpa using List.mem_takeWhile_imp member
    have ends : ∀ c ∈ (t.trimLeft.dropWhile (!ApiDocs.isBlank ·)).head?, ApiDocs.isBlank c = true := fun c member => by
      have unseen := List.head?_dropWhile_not (!ApiDocs.isBlank ·) t.trimLeft
      simpa [Option.mem_def.mp member] using unseen
    rw [words_trimLeft,← words_solid_append word solid ends,List.takeWhile_append_dropWhile,words_trimLeft]

/-- A word: it is not empty, and no white space is in it. -/
structure IsWord (w : Text) : Prop where
  filled : w ≠ []
  solid : ∀ c ∈ w, ApiDocs.isBlank c = false

theorem isWord_of_mem_words {t w : Text} (member : w ∈ t.words) : w.IsWord ∧ w <:+: t := by
  have single {l : Text} (solid : ∀ c ∈ l, ApiDocs.isBlank c = false) (member : w ∈ l.words) : w.IsWord ∧ w <:+: l := by
    by_cases filled : l = []
    · simp [filled] at member
    · rw [words_solid filled solid] at member
      obtain rfl := List.mem_singleton.mp member
      exact ⟨⟨filled,solid⟩,List.infix_rfl⟩
  induction t using cutInduction ApiDocs.isBlank with
  | last l solid => exact single solid member
  | more l c u solid blank ih =>
    rw [words_append_blank blank,List.mem_append] at member
    rcases member with here | later
    · obtain ⟨word,inside⟩ := single solid here
      exact ⟨word,inside.trans (List.prefix_append l (c :: u)).isInfix⟩
    · obtain ⟨word,inside⟩ := ih later
      exact ⟨word,inside.trans ⟨l ++ [c],[],by simp⟩⟩

theorem words_eq_nil (t : Text) : t.words = [] ↔ t.IsBlank := by
  constructor
  · intro none
    rw [← firstWord?_eq_none]
    cases found : t.firstWord? with
    | none => rfl
    | some pair =>
      rw [words_of_firstWord? found] at none
      cases none
  · intro blank
    simpa using words_blank_append blank []

/-- The first word that is read is the first of the words. -/
theorem head?_words (t : Text) : t.words.head? = t.firstWord?.map (·.1) := by
  cases found : t.firstWord? with
  | none => rw [(words_eq_nil t).mpr ((firstWord?_eq_none t).mp found)]; rfl
  | some pair => rw [words_of_firstWord? found]; rfl

/-- The first word of a text is the first word of one of its lines. -/
theorem exists_line_of_head_words {t word : Text} (first : t.words.head? = some word) :
    ∃ line ∈ t.lines, line.words.head? = some word := by
  rw [← words_lines,List.head?_flatMap] at first
  exact List.exists_of_findSome?_eq_some first

end ApiDocs.Text
