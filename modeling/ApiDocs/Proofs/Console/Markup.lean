import ApiDocs.Console.Markup
import ApiDocs.Proofs.Text.LowerCase
import Mathlib.Data.List.TakeWhile

/-!
Texts with markup, and what they show. A text is shown in which a style is begun and ended and that has no other opening
bracket (`IsStyleTag.shownText_styled`), as with the program's own styles. Any word of small letters in brackets begins a style
(`exists_isStyleTag`): the word is not shown, and with a slash in front of it the whole text is not
(`IsStyleTag.shownText_begun`, `IsStyleTag.shownText_unbegun`).
-/
namespace ApiDocs.Console

/-! ### Tags -/

theorem insideOfTag?_append {inside : Text} (solid : ∀ c ∈ inside, c ≠ 0x5B ∧ c ≠ 0x5D) (after : Text) :
    insideOfTag? (inside ++ 0x5D :: after) = some (inside,after) := by
  induction inside with
  | nil => rfl
  | cons c rest ih =>
    obtain ⟨⟨opening,closing⟩,later⟩ := List.forall_mem_cons.mp solid
    rw [List.cons_append,insideOfTag?,if_neg closing,if_neg opening,ih later]
    rfl

theorem tagAtStart?_eq {c : Nat} (start : isTagStart c = true) {inside : Text}
    (solid : ∀ x ∈ inside, x ≠ 0x5B ∧ x ≠ 0x5D) (after : Text) :
    tagAtStart? (0x5B :: c :: (inside ++ 0x5D :: after)) = some (c :: inside,after) := by
  rw [tagAtStart?,if_pos start,insideOfTag?_append solid]
  rfl

theorem tagAtStart?_of_head {t : Text} (other : ∀ c ∈ t.head?, c ≠ 0x5B) : tagAtStart? t = none := by
  unfold tagAtStart?
  split
  · exact absurd rfl (other _ rfl)
  · rfl

/-! ### Parts -/

/-- What stands in front of a bracket is read as plain text; a backslash would be for the bracket. -/
theorem partsFrom_append {t : Text} (solid : ∀ c ∈ t, c ≠ 0x5B ∧ c ≠ 0x5C) (fuel position : Nat) (read more : Text) :
    partsFrom (fuel + t.length) position read (t ++ more) =
      partsFrom fuel (position + t.length) (t.reverse ++ read) more := by
  induction t generalizing position read with
  | nil => rfl
  | cons c rest ih =>
    obtain ⟨⟨opening,slash⟩,later⟩ := List.forall_mem_cons.mp solid
    have none : tagAtStart? (c :: (rest ++ more)) = none := tagAtStart?_of_head (by simpa using opening)
    have slashes : ((c :: (rest ++ more)).takeWhile (· == 0x5C)).length = 0 := by simp [slash]
    rw [List.length_cons,← Nat.add_assoc,List.cons_append,partsFrom]
    dsimp only
    rw [slashes,List.drop_zero,none]
    dsimp only
    rw [ih later]
    simp [Nat.add_comm,Nat.add_left_comm]

/-- A text without tags is one part. -/
theorem partsFrom_untagged {t : Text} (untagged : ∀ u, u <:+ t → tagAtStart? u = none) (fuel position : Nat) (read : Text) :
    partsFrom fuel position read t = plainBefore (read.reverse ++ t) [] := by
  induction fuel generalizing t position read with
  | zero => rfl
  | succ fuel ih =>
    cases t with
    | nil => simp [partsFrom]
    | cons c rest =>
      rw [partsFrom]
      dsimp only
      rw [untagged _ (List.drop_suffix _ _)]
      dsimp only
      rw [ih fun u suffix => untagged u (suffix.trans (List.suffix_cons c rest))]
      simp

/-- A text without brackets is plain. -/
theorem partsFrom_plain {t : Text} (plain : 0x5B ∉ t) (fuel position : Nat) (read : Text) :
    partsFrom fuel position read t = plainBefore (read.reverse ++ t) [] := by
  refine partsFrom_untagged (fun u suffix => tagAtStart?_of_head fun x first same => ?_) fuel position read
  exact plain (suffix.subset (same ▸ List.mem_of_mem_head? first))

theorem partsFrom_tag {c : Nat} (start : isTagStart c = true) {inside : Text}
    (solid : ∀ x ∈ inside, x ≠ 0x5B ∧ x ≠ 0x5D) (fuel position : Nat) (read after : Text) :
    partsFrom (fuel + 1) position read (0x5B :: c :: (inside ++ 0x5D :: after)) =
      plainBefore read.reverse
        (.tag position (c :: inside) :: partsFrom fuel (position + (c :: inside).length + 2) [] after) := by
  rw [partsFrom]
  have slashes : ((0x5B :: c :: (inside ++ 0x5D :: after)).takeWhile (· == 0x5C)).length = 0 := by simp
  dsimp only
  rw [slashes,List.drop_zero,tagAtStart?_eq start solid]
  rfl

/-! ### What is shown -/

/-- The text is shown: its markup is right. -/
def Shows (t : Text) : Prop := ∃ shown, shownText t = .ok shown

instance (t : Text) : Decidable (Shows t) :=
  match run : shownText t with
  | .ok shown => isTrue ⟨shown,run⟩
  | .error _ => isFalse fun ⟨_,shows⟩ => nomatch run.symm.trans shows

theorem shows_of_plain {t : Text} (plain : 0x5B ∉ t) : Shows t := by
  rw [Shows,shownText,if_neg (by simpa using plain)]
  exact ⟨_,rfl⟩

/-- The text that a plain part shows. -/
def shownPlain (t : Text) : Text := (withEmoji (withoutEscapes t)).filter (!isHidden ·)

@[simp] theorem shownPlain_nil : shownPlain [] = [] := rfl

theorem tagName_eq_self {inside : Text} (plain : ∀ c ∈ inside, c ≠ 0x3D) : tagName inside = inside :=
  List.takeWhile_eq_self_iff.mpr fun c member => by simpa using plain c member

theorem tagParameters_eq_nil {inside : Text} (plain : ∀ c ∈ inside, c ≠ 0x3D) : tagParameters inside = [] := by
  have none : inside.dropWhile (· ≠ 0x3D) = [] := List.dropWhile_eq_nil_iff.mpr fun c member => by simpa using plain c member
  rw [tagParameters,none,List.drop_nil]

/-- A style without parameters may end. -/
theorem OpenTag.ended_bare (style : Text) (others : List OpenTag) : OpenTag.ended ⟨style,[]⟩ others = .ok others := by
  simp [OpenTag.ended,OpenTag.fault?]

/-- The inside of a tag that begins a style. -/
structure IsStyleTag (inside style : Text) : Prop where
  starts : ∃ c rest, inside = c :: rest ∧ 0x61 ≤ c ∧ c ≤ 0x7A
  solid : ∀ c ∈ inside, c ≠ 0x5B ∧ c ≠ 0x5D ∧ c ≠ 0x3D
  trimmed : inside.trim = inside
  spelled : styleOfTag inside = .ok style

namespace IsStyleTag

variable {inside style : Text}

theorem begins (tag : IsStyleTag inside style) (position : Nat) (tags : List OpenTag) :
    afterTag position inside tags = .ok (⟨style,[]⟩ :: tags) := by
  have plain : ∀ c ∈ inside, c ≠ 0x3D := fun c member => (tag.solid c member).2.2
  obtain ⟨c,rest,rfl,small⟩ := tag.starts
  unfold afterTag
  rw [tagName_eq_self plain,tagParameters_eq_nil plain]
  split
  · rename_i same
    cases same
    omega
  · rw [tag.spelled]
    rfl

theorem ends (tag : IsStyleTag inside style) (position : Nat) (tags : List OpenTag) :
    afterTag position (0x2F :: inside) (⟨style,[]⟩ :: tags) = .ok tags := by
  obtain ⟨c,rest,shape,_⟩ := tag.starts
  have name : tagName (0x2F :: inside) = 0x2F :: inside :=
    tagName_eq_self (List.forall_mem_cons.mpr ⟨by decide,fun x member => (tag.solid x member).2.2⟩)
  simp only [afterTag,name,tag.trimmed,tag.spelled,Except.bind]
  simp [shape,OpenTag.ended_bare]

end IsStyleTag

theorem shownParts_plainBefore (tags : List OpenTag) (t : Text) (parts : List Part) :
    shownParts tags (plainBefore t parts) = (shownParts tags parts).map (shownPlain t ++ ·) := by
  unfold plainBefore
  split
  · rename_i empty
    cases List.isEmpty_iff.mp empty
    cases shownParts tags parts <;> rfl
  · rfl

/-- A text that has no opening bracket behind its beginning shows what is behind it as it stands. -/
theorem shownParts_plain {t : Text} (plain : 0x5B ∉ t) (tags : List OpenTag) (fuel position : Nat) :
    shownParts tags (partsFrom fuel position [] t) = .ok (shownPlain t) := by
  rw [partsFrom_plain plain,shownParts_plainBefore]
  exact congrArg Except.ok (List.append_nil _)

/-- What stands in front of a tag is shown, and the tag acts upon what follows. -/
theorem shownParts_tag {c : Nat} (start : isTagStart c = true) {before inside : Text}
    (front : ∀ x ∈ before, x ≠ 0x5B ∧ x ≠ 0x5C) (solid : ∀ x ∈ inside, x ≠ 0x5B ∧ x ≠ 0x5D) (tags : List OpenTag)
    (fuel position : Nat) (after : Text) :
    shownParts tags (partsFrom (fuel + 1 + before.length) position [] (before ++ 0x5B :: c :: (inside ++ 0x5D :: after))) =
      ((afterTag (position + before.length) (c :: inside) tags).bind fun tags => shownParts tags
        (partsFrom fuel (position + before.length + (c :: inside).length + 2) [] after)).map (shownPlain before ++ ·) := by
  rw [partsFrom_append front,partsFrom_tag start solid,shownParts_plainBefore,List.append_nil,List.reverse_reverse,shownParts]

/-- The first tag of a text acts upon what follows. -/
theorem shownText_tag {c : Nat} (start : isTagStart c = true) {before inside : Text}
    (front : ∀ x ∈ before, x ≠ 0x5B ∧ x ≠ 0x5C) (solid : ∀ x ∈ inside, x ≠ 0x5B ∧ x ≠ 0x5D) (after : Text) :
    shownText (before ++ 0x5B :: c :: (inside ++ 0x5D :: after)) =
      ((afterTag before.length (c :: inside) []).bind fun tags => shownParts tags
        (partsFrom (inside.length + after.length + 3) (before.length + (c :: inside).length + 2) [] after)).map
          (shownPlain before ++ ·) := by
  have opening : (before ++ 0x5B :: c :: (inside ++ 0x5D :: after)).contains 0x5B = true := by simp
  have fuel : (before ++ 0x5B :: c :: (inside ++ 0x5D :: after)).length + 1 =
      inside.length + after.length + 3 + 1 + before.length := by
    simp only [List.length_append,List.length_cons]
    omega
  rw [shownText,if_pos opening,partsOf,fuel,shownParts_tag start front solid,Nat.zero_add]

namespace IsStyleTag

variable {inside style : Text}

theorem solidRest {c : Nat} {rest : Text} (tag : IsStyleTag (c :: rest) style) : ∀ x ∈ rest, x ≠ 0x5B ∧ x ≠ 0x5D :=
  fun x member => ⟨(tag.solid x (List.mem_cons_of_mem c member)).1,(tag.solid x (List.mem_cons_of_mem c member)).2.1⟩

theorem exists_start (tag : IsStyleTag inside style) : ∃ c rest, inside = c :: rest ∧ isTagStart c = true := by
  obtain ⟨c,rest,shape,small⟩ := tag.starts
  exact ⟨c,rest,shape,by simp [isTagStart,small]⟩

/-- A text is shown that begins a style and ends it, and has no other opening bracket. -/
theorem shownText_styled (tag : IsStyleTag inside style) (before within after : Text)
    (front : ∀ c ∈ before, c ≠ 0x5B ∧ c ≠ 0x5C) (middle : ∀ c ∈ within, c ≠ 0x5B ∧ c ≠ 0x5C) (back : 0x5B ∉ after) :
    shownText (before ++ (0x5B :: inside ++ 0x5D :: (within ++ (0x5B :: 0x2F :: inside ++ 0x5D :: after)))) =
      .ok (shownPlain before ++ (shownPlain within ++ shownPlain after)) := by
  have brackets : ∀ c ∈ inside, c ≠ 0x5B ∧ c ≠ 0x5D := fun c member => ⟨(tag.solid c member).1,(tag.solid c member).2.1⟩
  obtain ⟨c,rest,rfl,start⟩ := tag.exists_start
  have fuel : rest.length + (within ++ 0x5B :: 0x2F :: (c :: rest ++ 0x5D :: after)).length + 3 =
      rest.length + (c :: rest).length + after.length + 5 + 1 + within.length := by
    simp only [List.length_append,List.length_cons]
    omega
  rw [List.cons_append,List.cons_append,shownText_tag start front tag.solidRest,tag.begins,Except.bind,
    List.cons_append,List.cons_append,fuel,shownParts_tag (by rfl) middle brackets,tag.ends,Except.bind,shownParts_plain back]
  rfl

/-- A tag is not shown, and the style that it begins needs no end. -/
theorem shownText_begun (tag : IsStyleTag inside style) {before after : Text} (front : ∀ c ∈ before, c ≠ 0x5B ∧ c ≠ 0x5C)
    (back : 0x5B ∉ after) :
    shownText (before ++ 0x5B :: (inside ++ 0x5D :: after)) = .ok (shownPlain before ++ shownPlain after) := by
  obtain ⟨c,rest,rfl,start⟩ := tag.exists_start
  rw [List.cons_append,shownText_tag start front tag.solidRest,tag.begins,Except.bind,shownParts_plain back]
  rfl

/-- A text is not shown that ends a style before it begins one. -/
theorem shownText_unbegun (tag : IsStyleTag inside style) {before : Text} (front : ∀ c ∈ before, c ≠ 0x5B ∧ c ≠ 0x5C)
    (after : Text) :
    shownText (before ++ 0x5B :: 0x2F :: (inside ++ 0x5D :: after)) = .error (.notOpen (0x2F :: inside) before.length) := by
  have name : tagName (0x2F :: inside) = 0x2F :: inside :=
    tagName_eq_self (List.forall_mem_cons.mpr ⟨by decide,fun c member => (tag.solid c member).2.2⟩)
  have filled : inside ≠ [] := by
    obtain ⟨c,rest,shape,_⟩ := tag.starts
    exact shape ▸ List.cons_ne_nil c rest
  have unbegun : afterTag before.length (0x2F :: inside) [] = .error (.notOpen (0x2F :: inside) before.length) := by
    simp [afterTag,name,tag.trimmed,tag.spelled,filled,Except.bind]
  rw [shownText_tag (by rfl) front fun c member => ⟨(tag.solid c member).1,(tag.solid c member).2.1⟩,unbegun]
  rfl

end IsStyleTag

/-! ### Words of small letters -/

section Word

variable {word : Text}

theorem trim_of_small (small : ∀ c ∈ word, 0x61 ≤ c ∧ c ≤ 0x7A) : word.trim = word ∧ ∀ c ∈ word, isBlank c = false := by
  have solid : ∀ c ∈ word, isBlank c = false := by
    intro c member
    obtain ⟨low,high⟩ := small c member
    simp [isBlank]
    omega
  refine ⟨?_,solid⟩
  have left : word.trimLeft = word := by
    cases word with
    | nil => rfl
    | cons c rest => simp [Text.trimLeft,solid c List.mem_cons_self]
  have right : word.trimRight = word := by
    rcases List.eq_nil_or_concat word with rfl | ⟨before,c,rfl⟩
    · rfl
    · simp [Text.trimRight,solid c (by simp)]
  rw [Text.trim,left,right]

/-- A colour that lacks a number is not spelled by small letters. -/
theorem colorOf_of_small (small : ∀ c ∈ word, 0x61 ≤ c ∧ c ≤ 0x7A) : colorOf word ≠ .error .numberMissing := by
  have noParts : colorParts? word = none := by
    have noBracket : between? "rgb(" ")" word = none := by
      refine if_neg fun spelled => ?_
      simp only [Bool.and_eq_true,Text.startsWith,List.isPrefixOf_iff_prefix] at spelled
      have opening : 0x28 ∈ word := spelled.1.1.subset (by decide)
      exact absurd (small _ opening).1 (by decide)
    rw [colorParts?,noBracket]
  unfold colorOf
  dsimp only
  rw [Text.lower_of_small small,noParts]
  split <;> simp

theorem addWords_of_small {words : List Text} (small : ∀ word ∈ words, ∀ c ∈ word, 0x61 ≤ c ∧ c ≤ 0x7A) (s : Style) :
    s.addWords words ≠ .error .numberMissing := by
  fun_induction Style.addWords s words with
  | case1 | case2 | case5 | case6 | case8 => simp
  | case3 _ _ _ _ ground _ e failed =>
    have own := colorOf_of_small (small ground (by simp))
    rw [failed] at own
    simpa using own
  | case4 _ _ _ _ _ _ _ _ ih | case7 _ _ _ _ _ _ _ _ _ ih | case9 _ _ _ _ _ _ _ _ ih =>
    exact ih fun word later => small word (List.mem_cons_of_mem _ (List.mem_cons_of_mem _ later))
  | case10 _ _ _ _ _ _ _ _ _ ih | case12 _ _ _ _ _ _ _ _ _ _ ih =>
    exact ih fun word later => small word (List.mem_cons_of_mem _ later)
  | case11 _ original _ word _ _ _ _ e failed =>
    have own := colorOf_of_small (small original List.mem_cons_self)
    rw [← Text.lower_of_small (small original List.mem_cons_self),failed] at own
    simpa using own

/-- Words of small letters spell a style, be it an unknown one. -/
theorem exists_styleOfTag {t : Text} (small : ∀ word ∈ t.words, ∀ c ∈ word, 0x61 ≤ c ∧ c ≤ 0x7A) :
    ∃ style, styleOfTag t = .ok style := by
  have spelled := addWords_of_small small {}
  unfold styleOfTag normalStyle
  split
  · exact ⟨_,rfl⟩
  · split
    · exact ⟨_,rfl⟩
    · exact ⟨_,rfl⟩
    · rename_i missing
      exact absurd missing spelled

/-- A word of small letters in brackets begins a style. -/
theorem exists_isStyleTag (filled : word ≠ []) (small : ∀ c ∈ word, 0x61 ≤ c ∧ c ≤ 0x7A) : ∃ style, IsStyleTag word style := by
  obtain ⟨trimmed,unbroken⟩ := trim_of_small small
  have solid : ∀ c ∈ word, c ≠ 0x5B ∧ c ≠ 0x5D ∧ c ≠ 0x3D := fun c member => by
    have range := small c member
    omega
  have words : ∀ one ∈ word.words, ∀ c ∈ one, 0x61 ≤ c ∧ c ≤ 0x7A := by
    rw [Text.words_solid filled unbroken]
    exact List.forall_mem_singleton.mpr small
  obtain ⟨style,spelled⟩ := exists_styleOfTag words
  obtain ⟨c,rest,rfl⟩ := List.exists_cons_of_ne_nil filled
  exact ⟨style,⟨c,rest,rfl,small c List.mem_cons_self⟩,solid,trimmed,spelled⟩

end Word

theorem exists_isStyleTag_boldGreen : ∃ style, IsStyleTag "bold green" style := by
  have small : ∀ word ∈ ("bold green" : Text).words, ∀ c ∈ word, 0x61 ≤ c ∧ c ≤ 0x7A := by decide
  obtain ⟨style,spelled⟩ := exists_styleOfTag small
  exact ⟨style,⟨_,_,rfl,by decide⟩,by decide,by decide,spelled⟩

end ApiDocs.Console
