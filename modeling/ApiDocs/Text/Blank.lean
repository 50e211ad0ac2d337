import ApiDocs.Text.Basic
/-!
White space and line boundaries.

Two different classes are used throughout: `isBlank` separates words and is stripped from the ends
of a text, `isLineBoundary` ends a line.  Every line boundary is blank (`isBlank_of_isLineBoundary`),
but not the other way round: a unit separator is blank and ends no line.
-/

namespace ApiDocs

/-- White space: the controls that move the cursor, the four separators, and the Unicode spaces. -/
def isBlank (c : Nat) : Bool :=
  (9 ≤ c && c ≤ 13) || (28 ≤ c && c ≤ 32) || c == 0x85 || c == 0xA0 || c == 0x1680 ||
    (0x2000 ≤ c && c ≤ 0x200A) || c == 0x2028 || c == 0x2029 || c == 0x202F || c == 0x205F ||
    c == 0x3000

/-- The code points that end a line. -/
def isLineBoundary (c : Nat) : Bool :=
  (10 ≤ c && c ≤ 13) || (28 ≤ c && c ≤ 30) || c == 0x85 || c == 0x2028 || c == 0x2029

theorem isBlank_of_isLineBoundary {c : Nat} (h : isLineBoundary c = true) :
    isBlank c = true := by
  simp only [isLineBoundary,isBlank,Bool.or_eq_true,Bool.and_eq_true,decide_eq_true_eq,
    beq_iff_eq] at *
  omega

namespace Text

def trimLeft (t : Text) : Text := t.dropWhile isBlank

def trimRight (t : Text) : Text := (t.reverse.dropWhile isBlank).reverse

def trim (t : Text) : Text := trimRight (trimLeft t)

/-- A word that is being read, reversed, in front of the words that follow it. -/
private def wordsFrom (word : Text) : Text → List Text
  | [] => if word.isEmpty then [] else [word.reverse]
  | c :: rest =>
    if isBlank c then
      if word.isEmpty then wordsFrom [] rest else word.reverse :: wordsFrom [] rest
    else wordsFrom (c :: word) rest

/-- The maximal runs without white space, in order. -/
def words (t : Text) : List Text := wordsFrom [] t

@[simp] theorem words_nil : words [] = [] := rfl

private theorem wordsFrom_append_blank {c : Nat} (blank : isBlank c = true) (word t u : Text) :
    wordsFrom word (t ++ c :: u) = wordsFrom word t ++ wordsFrom [] u := by
  induction t generalizing word with
  | nil => cases word <;> simp [wordsFrom,blank]
  | cons x rest ih =>
    by_cases space : isBlank x = true
    · cases word <;> simp [wordsFrom,space,ih]
    · simp [wordsFrom,space,ih]

/-- No word goes over white space. -/
theorem words_append_blank {c : Nat} (blank : isBlank c = true) (t u : Text) :
    words (t ++ c :: u) = words t ++ words u := wordsFrom_append_blank blank [] t u

private theorem wordsFrom_solid {w : Text} (solid : ∀ c ∈ w, isBlank c = false) (word : Text) :
    wordsFrom word w = wordsFrom (w.reverse ++ word) [] := by
  induction w generalizing word with
  | nil => rfl
  | cons c rest ih =>
    have first : isBlank c = false := solid c List.mem_cons_self
    simp [wordsFrom,first,ih fun x member => solid x (List.mem_cons_of_mem c member)]

theorem words_solid {w : Text} (filled : w ≠ []) (solid : ∀ c ∈ w, isBlank c = false) :
    words w = [w] := by
  rw [words,wordsFrom_solid solid]
  simp [wordsFrom,filled]

/-- The first word and what follows it, leading white space of the rest removed; `none` when the
text is blank. -/
def firstWord? (t : Text) : Option (Text × Text) :=
  let t := trimLeft t
  if t.isEmpty then none
  else some (t.takeWhile (!isBlank ·),trimLeft (t.dropWhile (!isBlank ·)))

/-- Every carriage return, also one in front of a line feed, becomes a line feed. -/
def withLineFeeds : Text → Text
  | [] => []
  | 13 :: 10 :: rest => 10 :: withLineFeeds rest
  | c :: rest => (if c = 13 then 10 else c) :: withLineFeeds rest

private def linesFrom (line : Text) : Text → List Text
  | [] => if line.isEmpty then [] else [line.reverse]
  | 13 :: 10 :: rest => line.reverse :: linesFrom [] rest
  | c :: rest => if isLineBoundary c then line.reverse :: linesFrom [] rest else linesFrom (c :: line) rest

/-- The lines of a text without their ends; a carriage return and line feed end one line, and no
empty line follows the last end. -/
def lines (t : Text) : List Text := linesFrom [] t

/-- What was read of a line stands in front of the rest of it. -/
private theorem linesFrom_eq (line t : Text) :
    linesFrom line t = match linesFrom [] t with
      | [] => if line.isEmpty then [] else [line.reverse]
      | first :: later => (line.reverse ++ first) :: later := by
  induction t using withLineFeeds.induct generalizing line with
  | case1 => simp [linesFrom]
  | case2 rest _ => simp [linesFrom]
  | case3 c rest other ih =>
    rw [linesFrom.eq_3 _ _ _ other,linesFrom.eq_3 _ _ _ other]
    by_cases boundary : isLineBoundary c = true
    · simp [boundary]
    · rw [if_neg boundary,if_neg boundary,ih (c :: line),ih [c]]
      cases linesFrom [] rest <;> simp

@[simp] theorem lines_nil : lines [] = [] := rfl

theorem lines_pair (t : Text) : lines (13 :: 10 :: t) = [] :: lines t := rfl

theorem lines_boundary {c : Nat} (boundary : isLineBoundary c = true) {t : Text}
    (alone : c = 13 → t.head? ≠ some 10) : lines (c :: t) = [] :: lines t := by
  have other : ∀ rest, c = 13 → t = 10 :: rest → False := fun rest isReturn feed =>
    alone isReturn (by rw [feed]; rfl)
  simp [lines,linesFrom.eq_3 _ _ _ other,boundary]

/-- A code point that ends no line belongs to the first line. -/
theorem lines_cons {c : Nat} (inside : isLineBoundary c = false) (t : Text) :
    lines (c :: t) = match lines t with
      | [] => [[c]]
      | first :: later => (c :: first) :: later := by
  have other : ∀ rest, c = 13 → t = 10 :: rest → False := by
    rintro _ rfl _
    cases inside
  rw [lines,linesFrom.eq_3 _ _ _ other,if_neg (by simp [inside]),linesFrom_eq]
  rfl

private theorem words_linesFrom (line t : Text) :
    (linesFrom line t).flatMap words = words (line.reverse ++ t) := by
  induction line, t using linesFrom.induct with
  | case1 line empty => simp [linesFrom,List.isEmpty_iff.mp empty]
  | case2 line filled => simp [linesFrom,filled]
  | case3 line rest ih =>
    have ends : words (10 :: rest) = words rest := words_append_blank rfl [] rest
    rw [linesFrom,List.flatMap_cons,ih,words_append_blank rfl,ends]
    rfl
  | case4 line c rest other boundary ih =>
    rw [linesFrom.eq_3 _ _ _ other,if_pos boundary,List.flatMap_cons,ih,
      words_append_blank (isBlank_of_isLineBoundary boundary)]
    rfl
  | case5 line c rest other inside ih =>
    rw [linesFrom.eq_3 _ _ _ other,if_neg inside,ih]
    simp

/-- The words of a text are those of its lines, one line after the other. -/
theorem words_lines (t : Text) : t.lines.flatMap words = t.words := words_linesFrom [] t

end Text

end ApiDocs
