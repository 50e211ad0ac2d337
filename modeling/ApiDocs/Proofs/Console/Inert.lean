import ApiDocs.Proofs.Console.Markup
import ApiDocs.Proofs.Console.Wrap
import ApiDocs.Proofs.Result
import Mathlib.Data.List.Infix

/-!
Texts on which neither markup nor the console acts (`IsInert`). They are shown as they are (`IsInert.shownText_eq`), in a line
of their own if they fit (`IsInert.lines_eq`). Without colons there are no emoji, and the converse holds: a bracket, backslash
or control that is acted upon is missed in what is shown, and nothing puts another one in its place (`isInert_of_lines`).
-/
namespace ApiDocs.Console

/-! ### Words between colons -/

/-- The words between colons, read from the left: `word` is the one behind a colon, reversed. -/
def colonWordsFrom (word : Option Text) : Text → List Text
  | [] => []
  | c :: rest =>
    match word with
    | none => colonWordsFrom (if c = 0x3A then some [] else none) rest
    | some word =>
      if c = 0x3A then word.reverse :: colonWordsFrom none rest
      else colonWordsFrom (if isBlank c then none else some (c :: word)) rest

/-- The words between colons. A colon goes with the next one unless white space comes before that, and belongs to one word
    only. -/
def colonWords (t : Text) : List Text := colonWordsFrom none t

theorem colonWords_cons {c : Nat} (other : c ≠ 0x3A) (rest : Text) : colonWords (c :: rest) = colonWords rest := by
  simp [colonWords,colonWordsFrom,other]

theorem colonWordsFrom_some (word rest : Text) :
    colonWordsFrom (some word) rest = match wordToColon? rest with
      | some (more,after) => (word.reverse ++ more) :: colonWords after
      | none => colonWords rest := by
  induction rest generalizing word with
  | nil => rfl
  | cons c rest ih =>
    simp only [colonWordsFrom,wordToColon?]
    split
    · simp [colonWords]
    · rename_i other
      split
      · exact (colonWords_cons other rest).symm
      · rw [ih,colonWords_cons other]
        cases wordToColon? rest <;> simp

theorem colonWords_colon (rest : Text) :
    colonWords (0x3A :: rest) = match wordToColon? rest with
      | some (word,after) => word :: colonWords after
      | none => colonWords rest := colonWordsFrom_some [] rest

theorem eq_of_wordToColon {t word after : Text} (found : wordToColon? t = some (word,after)) : t = word ++ 0x3A :: after := by
  induction t generalizing word with
  | nil => cases found
  | cons c rest ih =>
    rw [wordToColon?] at found
    split at found
    · rename_i colon
      cases found
      rw [colon]
      rfl
    · split at found
      · cases found
      · obtain ⟨⟨more,_⟩,inner,same⟩ := Option.map_eq_some_iff.mp found
        cases same
        rw [ih inner]
        rfl

/-- A text is kept in which no word between colons names an emoji. -/
theorem withEmoji_eq_self {t : Text} (unnamed : ∀ word ∈ colonWords t, emojiOfWord? word = none) : withEmoji t = t := by
  unfold withEmoji
  generalize t.length + 1 = fuel
  induction fuel generalizing t with
  | zero => rfl
  | succ fuel ih =>
    cases t with
    | nil => rfl
    | cons c rest =>
      rw [withEmojiWithin]
      split
      · rename_i colon
        rw [colon,colonWords_colon] at unnamed
        split
        · rename_i word after found
          rw [found,List.forall_mem_cons] at unnamed
          rw [unnamed.1,ih unnamed.2,colon,eq_of_wordToColon found]
          simp
        · rename_i found
          rw [found] at unnamed
          rw [ih unnamed]
      · rename_i other
        rw [colonWords_cons other] at unnamed
        rw [ih unnamed]

theorem colonWords_eq_nil {t : Text} (noColon : 0x3A ∉ t) : colonWords t = [] := by
  induction t with
  | nil => rfl
  | cons c rest ih =>
    rw [List.mem_cons,not_or] at noColon
    rw [colonWords_cons (Ne.symm noColon.1),ih noColon.2]

theorem withEmoji_of_noColon {t : Text} (noColon : 0x3A ∉ t) : withEmoji t = t :=
  withEmoji_eq_self (by simp [colonWords_eq_nil noColon])

/-! ### Inert texts -/

/-- Neither markup nor the console acts on the text: a bracket begins no tag and has no backslash in front of it, no emoji is
    named, and no control between bell and carriage return is in it. -/
structure IsInert (t : Text) : Prop where
  noTag : ∀ before c inside after, t = before ++ 0x5B :: c :: (inside ++ 0x5D :: after) → isTagStart c = true →
    0x5B ∈ inside
  noEscape : ¬ [0x5C,0x5B] <:+: t
  noEmoji : ∀ word ∈ colonWords t, emojiOfWord? word = none
  noControl : ∀ c ∈ t, ¬ (7 ≤ c ∧ c ≤ 13)

theorem insideOfTag?_eq_none_iff (t : Text) :
    insideOfTag? t = none ↔ ∀ inside after, t = inside ++ 0x5D :: after → 0x5B ∈ inside := by
  induction t with
  | nil => simp [insideOfTag?]
  | cons c rest ih =>
    rw [insideOfTag?]
    split
    · rename_i closing
      simp only [reduceCtorEq,false_iff,not_forall]
      exact ⟨[],rest,by rw [closing]; rfl,List.not_mem_nil⟩
    · rename_i other
      -- What stands in front of a closing bracket begins with the first sign, which is none.
      have step (P : Text → Prop) : (∀ inside after, c :: rest = inside ++ 0x5D :: after → P inside) ↔
          ∀ inside after, rest = inside ++ 0x5D :: after → P (c :: inside) := by
        constructor
        · intro all inside after same
          exact all (c :: inside) after (by rw [same]; rfl)
        · intro all inside after same
          cases inside with
          | nil => exact absurd (List.cons.inj same).1 other
          | cons x inside =>
            obtain ⟨first,later⟩ := List.cons.inj same
            exact first ▸ all inside after later
      rw [step]
      split
      · rename_i opening
        simp [opening]
      · rename_i solid
        simp [ih,Ne.symm solid]

/-- No tag is in the text when none begins at any of its ends. -/
theorem tagAtStart?_eq_none_iff (t : Text) :
    (∀ u, u <:+ t → tagAtStart? u = none) ↔
      ∀ before c inside after, t = before ++ 0x5B :: c :: (inside ++ 0x5D :: after) → isTagStart c = true → 0x5B ∈ inside := by
  constructor
  · intro all before c inside after same start
    have none := all _ ⟨before,same.symm⟩
    rw [tagAtStart?,if_pos start,Option.map_eq_none_iff] at none
    exact (insideOfTag?_eq_none_iff _).mp none inside after rfl
  · rintro all u ⟨before,rfl⟩
    unfold tagAtStart?
    split
    · rename_i c rest
      split
      · rename_i start
        rw [Option.map_eq_none_iff,insideOfTag?_eq_none_iff]
        exact fun inside after same => all before c inside after (by rw [same]) start
      · rfl
    · rfl

theorem isInert_iff (t : Text) :
    IsInert t ↔ (∀ u ∈ t.tails, tagAtStart? u = none) ∧ ¬ [0x5C,0x5B] <:+: t ∧
      (∀ word ∈ colonWords t, emojiOfWord? word = none) ∧ ∀ c ∈ t, ¬ (7 ≤ c ∧ c ≤ 13) := by
  simp only [List.mem_tails]
  rw [tagAtStart?_eq_none_iff]
  exact ⟨fun inert => ⟨inert.noTag,inert.noEscape,inert.noEmoji,inert.noControl⟩,
    fun ⟨noTag,noEscape,noEmoji,noControl⟩ => ⟨noTag,noEscape,noEmoji,noControl⟩⟩

instance (t : Text) : Decidable (IsInert t) := decidable_of_iff _ (isInert_iff t).symm

theorem withoutEscapes_eq_self {t : Text} (noEscape : ¬ [0x5C,0x5B] <:+: t) : withoutEscapes t = t := by
  induction t using withoutEscapes.induct with
  | case1 rest ih => exact absurd (List.IsPrefix.isInfix ⟨rest,rfl⟩) noEscape
  | case2 c rest other ih =>
    rw [withoutEscapes.eq_2 _ _ other,ih fun inner => noEscape (inner.trans (List.suffix_cons c rest).isInfix)]
  | case3 => rfl

theorem filter_isHidden_eq_self {t : Text} (noControl : ∀ c ∈ t, ¬ (7 ≤ c ∧ c ≤ 13)) : t.filter (!isHidden ·) = t := by
  refine List.filter_eq_self.mpr fun c member => ?_
  have other := noControl c member
  simp [isHidden]
  omega

/-- An inert text is shown as it is. -/
theorem IsInert.shownText_eq {t : Text} (inert : IsInert t) : shownText t = .ok t := by
  have whole : (withEmoji t).filter (!isHidden ·) = t := by
    rw [withEmoji_eq_self inert.noEmoji,filter_isHidden_eq_self inert.noControl]
  unfold shownText
  split
  · rename_i opening
    have one : partsOf t = [.plain t] := by
      have filled : t ≠ [] := by
        rintro rfl
        cases opening
      rw [partsOf,partsFrom_untagged ((tagAtStart?_eq_none_iff t).mpr inert.noTag)]
      simp [plainBefore,filled]
    rw [one,shownParts,withoutEscapes_eq_self inert.noEscape,whole]
    exact congrArg Except.ok (List.append_nil t)
  · rw [whole]

/-! ### Texts that are not inert -/

/-- The signs that markup acts upon and does not show then. -/
def isMark (c : Nat) : Bool := isHidden c || c == 0x5B || c == 0x5C

theorem withoutEscapes_spec (t : Text) :
    ¬ [0x5C,0x5B] <:+: t ∧ withoutEscapes t = t ∨ (withoutEscapes t).countP isMark < t.countP isMark := by
  induction t using withoutEscapes.induct with
  | case1 rest ih =>
    have less : (withoutEscapes rest).countP isMark ≤ rest.countP isMark := by
      rcases ih with ⟨_,same⟩ | less
      · rw [same]
      · exact Nat.le_of_lt less
    refine .inr ?_
    simp only [withoutEscapes,List.countP_cons,isMark]
    simp
    omega
  | case2 c rest other ih =>
    rw [withoutEscapes.eq_2 _ _ other]
    rcases ih with ⟨noEscape,same⟩ | less
    · refine .inl ⟨fun escape => ?_,by rw [same]⟩
      rcases List.infix_cons_iff.mp escape with ⟨more,begins⟩ | inner
      · obtain ⟨rfl,later⟩ := List.cons.inj begins
        exact other more rfl later.symm
      · exact noEscape inner
    · refine .inr ?_
      simp only [List.countP_cons]
      omega
  | case3 => exact .inl ⟨by simp,rfl⟩

theorem filter_isHidden_spec (t : Text) :
    (∀ c ∈ t, isHidden c = false) ∧ t.filter (!isHidden ·) = t ∨ (t.filter (!isHidden ·)).countP isMark < t.countP isMark := by
  by_cases shown : ∀ c ∈ t, isHidden c = false
  · exact .inl ⟨shown,List.filter_eq_self.mpr fun c member => by simp [shown c member]⟩
  · simp only [not_forall] at shown
    obtain ⟨c,member,hidden⟩ := shown
    refine .inr ?_
    have split := List.countP_eq_countP_filter_add t isMark isHidden
    have some : 0 < (t.filter isHidden).countP isMark :=
      List.countP_pos_iff.mpr ⟨c,List.mem_filter.mpr ⟨member,by simpa using hidden⟩,by simp_all [isMark]⟩
    omega

theorem withoutEscapes_sublist (t : Text) : List.Sublist (withoutEscapes t) t := by
  induction t using withoutEscapes.induct with
  | case1 rest ih => exact (ih.cons_cons 0x5B).cons 0x5C
  | case2 c rest other ih =>
    rw [withoutEscapes.eq_2 _ _ other]
    exact ih.cons_cons c
  | case3 => exact .slnil

/-- A plain part without colons is shown as it is, or with fewer marks. -/
theorem shownPlain_spec {t : Text} (noColon : 0x3A ∉ t) :
    (¬ [0x5C,0x5B] <:+: t ∧ ∀ c ∈ t, isHidden c = false) ∧ shownPlain t = t ∨
      (shownPlain t).countP isMark < t.countP isMark := by
  have noName : withEmoji (withoutEscapes t) = withoutEscapes t :=
    withEmoji_of_noColon fun colon => noColon ((withoutEscapes_sublist t).subset colon)
  rw [shownPlain,noName]
  rcases withoutEscapes_spec t with ⟨noEscape,same⟩ | less
  · rw [same]
    rcases filter_isHidden_spec t with ⟨shown,same⟩ | less
    · exact .inl ⟨⟨noEscape,shown⟩,same⟩
    · exact .inr less
  · exact .inr (Nat.lt_of_le_of_lt List.filter_sublist.countP_le less)

/-! ### Parts -/

theorem eq_of_insideOfTag {t inside after : Text} (found : insideOfTag? t = some (inside,after)) :
    t = inside ++ 0x5D :: after := by
  induction t generalizing inside with
  | nil => cases found
  | cons c rest ih =>
    rw [insideOfTag?] at found
    split at found
    · rename_i closing
      cases found
      rw [closing]
      rfl
    · split at found
      · cases found
      · obtain ⟨⟨more,_⟩,inner,same⟩ := Option.map_eq_some_iff.mp found
        cases same
        rw [ih inner]
        rfl

/-- Where a tag stands behind backslashes. -/
theorem eq_of_tagAtStart {t inside after : Text}
    (found : tagAtStart? (t.drop (t.takeWhile (· == 0x5C)).length) = some (inside,after)) :
    t = Text.repeated (t.takeWhile (· == 0x5C)).length 0x5C ++ 0x5B :: (inside ++ 0x5D :: after) := by
  have tag : t.drop (t.takeWhile (· == 0x5C)).length = 0x5B :: (inside ++ 0x5D :: after) := by
    unfold tagAtStart? at found
    split at found
    · rename_i c rest spelled
      split at found
      · obtain ⟨⟨more,_⟩,inner,same⟩ := Option.map_eq_some_iff.mp found
        cases same
        rw [spelled,eq_of_insideOfTag inner]
        rfl
      · cases found
    · cases found
  have slashes : t.takeWhile (· == 0x5C) = Text.repeated (t.takeWhile (· == 0x5C)).length 0x5C :=
    List.eq_replicate_of_mem fun c member => by simpa using List.mem_takeWhile_imp member
  have front : t.take (t.takeWhile (· == 0x5C)).length = t.takeWhile (· == 0x5C) :=
    (List.prefix_iff_eq_take.mp (List.takeWhile_prefix _)).symm
  rw [← slashes,← tag,← front,List.length_take,Nat.min_eq_left (List.takeWhile_sublist _).length_le]
  exact (List.take_append_drop _ t).symm

/-- The marks in the plain parts. -/
def plainMarks : List Part → Nat
  | [] => 0
  | .plain t :: rest => t.countP isMark + plainMarks rest
  | .tag _ _ :: rest => plainMarks rest

theorem plainMarks_plainBefore (t : Text) (parts : List Part) :
    plainMarks (plainBefore t parts) = t.countP isMark + plainMarks parts := by
  unfold plainBefore
  split
  · rename_i empty
    simp [List.isEmpty_iff.mp empty]
  · rfl

/-- A tag and the backslashes in front of it have more marks than the parts that they become. -/
theorem plainMarks_tag (read : Text) (n : Nat) (inside : Text) (position : Nat) {after : Text} {parts : List Part}
    (few : plainMarks parts ≤ after.countP isMark) :
    plainMarks (plainBefore read.reverse (plainBefore (Text.repeated (n / 2) 0x5C)
        ((if n % 2 = 1 then .plain (0x5B :: inside ++ [0x5D]) else .tag position inside) :: parts))) <
      read.countP isMark + (Text.repeated n 0x5C ++ 0x5B :: (inside ++ 0x5D :: after)).countP isMark := by
  have known : isMark 0x5B = true ∧ isMark 0x5C = true ∧ isMark 0x5D = false := ⟨rfl,rfl,rfl⟩
  simp only [plainMarks_plainBefore,List.countP_reverse,List.countP_append,List.countP_cons,Text.repeated,
    List.countP_replicate,known,reduceIte]
  -- A tag is lost with its bracket; where it is kept, the backslash is lost that did so.
  rcases Nat.mod_two_eq_zero_or_one n with even | odd
  · rw [if_neg (by omega),plainMarks]
    omega
  · rw [if_pos odd,plainMarks]
    simp only [List.cons_append,List.countP_cons,List.countP_append,List.countP_nil,known,reduceIte]
    omega

/-- The parts of a text have as many marks as the text only if no tag is in it. -/
theorem partsFrom_spec {fuel : Nat} {t : Text} (enough : t.length < fuel) (position : Nat) (read : Text) :
    plainMarks (partsFrom fuel position read t) ≤ read.countP isMark + t.countP isMark ∧
      ((∀ u, u <:+ t → tagAtStart? u = none) ∨
        plainMarks (partsFrom fuel position read t) < read.countP isMark + t.countP isMark) := by
  induction fuel generalizing t position read with
  | zero => exact absurd enough (Nat.not_lt_zero _)
  | succ fuel ih =>
    cases t with
    | nil => simp [partsFrom,plainMarks_plainBefore,plainMarks,tagAtStart?]
    | cons c rest =>
      rw [partsFrom]
      dsimp only
      cases found : tagAtStart? ((c :: rest).drop ((c :: rest).takeWhile (· == 0x5C)).length) with
      | none =>
        dsimp only
        obtain ⟨most,exact⟩ := ih (t := rest) (by simpa using enough) (position + 1) (c :: read)
        have moved : (c :: read).countP isMark + rest.countP isMark = read.countP isMark + (c :: rest).countP isMark := by
          simp only [List.countP_cons]
          omega
        rw [moved] at most exact
        refine ⟨most,exact.imp_left fun untagged u suffix => ?_⟩
        rcases List.suffix_cons_iff.mp suffix with rfl | later
        · by_cases slash : c = 0x5C
          · exact tagAtStart?_of_head (by simp [slash])
          · simpa [slash] using found
        · exact untagged u later
      | some tag =>
        obtain ⟨inside,after⟩ := tag
        have split := eq_of_tagAtStart found
        have shorter : after.length < fuel := by
          have size := congrArg List.length split
          simp only [List.length_append,List.length_cons] at size enough
          omega
        have later (next : Nat) : plainMarks (partsFrom fuel next [] after) ≤ after.countP isMark := by
          simpa using (ih shorter next []).1
        generalize ((c :: rest).takeWhile (· == 0x5C)).length = n at split
        have less := plainMarks_tag read n inside (position + n) (later (position + n + inside.length + 2))
        rw [← split] at less
        exact ⟨Nat.le_of_lt less,.inr less⟩

theorem noColon_of_plainBefore {t : Text} {parts : List Part} (front : 0x3A ∉ t) (later : ∀ u, .plain u ∈ parts → 0x3A ∉ u)
    {u : Text} (member : .plain u ∈ plainBefore t parts) : 0x3A ∉ u := by
  unfold plainBefore at member
  split at member
  · exact later u member
  · rcases List.mem_cons.mp member with same | inside
    · cases same
      exact front
    · exact later u inside

/-- No colon is in the plain parts that was not in the text. -/
theorem noColon_of_partsFrom {fuel position : Nat} {read t : Text} (noColon : 0x3A ∉ read ++ t) :
    ∀ u, .plain u ∈ partsFrom fuel position read t → 0x3A ∉ u := by
  induction fuel generalizing t position read with
  | zero => exact fun u => noColon_of_plainBefore (by simpa using noColon) (by simp)
  | succ fuel ih =>
    cases t with
    | nil => exact fun u => noColon_of_plainBefore (by simpa using noColon) (by simp)
    | cons c rest =>
      rw [partsFrom]
      dsimp only
      cases found : tagAtStart? ((c :: rest).drop ((c :: rest).takeWhile (· == 0x5C)).length) with
      | none =>
        refine ih ?_
        simp only [List.mem_append,List.mem_cons,not_or] at noColon ⊢
        exact ⟨⟨noColon.2.1,noColon.1⟩,noColon.2.2⟩
      | some tag =>
        obtain ⟨inside,after⟩ := tag
        have split := eq_of_tagAtStart found
        rw [split] at noColon
        simp only [List.mem_append,List.mem_cons,not_or] at noColon
        obtain ⟨front,_,_,own,_,back⟩ := noColon
        have slash (n : Nat) : 0x3A ∉ Text.repeated n 0x5C := fun member => by cases List.eq_of_mem_replicate member
        refine fun u => noColon_of_plainBefore (by simpa using front) fun u => noColon_of_plainBefore (slash _) fun u member => ?_
        rcases List.mem_cons.mp member with same | later
        · split at same
          · cases same
            simp [own]
          · cases same
        · exact ih (by simpa using back) u later

/-- Parts show at most the marks that are in the plain ones. -/
theorem countP_shownParts {parts : List Part} (noColon : ∀ t, .plain t ∈ parts → 0x3A ∉ t) {tags : List OpenTag} {shown : Text}
    (run : shownParts tags parts = .ok shown) : shown.countP isMark ≤ plainMarks parts := by
  induction parts generalizing tags shown with
  | nil =>
    cases run
    exact Nat.le_refl _
  | cons part rest ih =>
    have later : ∀ t, .plain t ∈ rest → 0x3A ∉ t := fun t member => noColon t (List.mem_cons_of_mem _ member)
    cases part with
    | plain t =>
      rw [shownParts] at run
      obtain ⟨more,ran,rfl⟩ := map_eq_ok run
      have own : (shownPlain t).countP isMark ≤ t.countP isMark := by
        rcases shownPlain_spec (noColon t List.mem_cons_self) with ⟨_,same⟩ | less
        · rw [same]
        · exact Nat.le_of_lt less
      rw [List.countP_append]
      exact Nat.add_le_add own (ih later ran)
    | tag position inside =>
      rw [shownParts] at run
      cases styled : afterTag position inside tags with
      | error e => rw [styled] at run; cases run
      | ok tags =>
        rw [styled] at run
        exact ih later run

/-- A text without colons is inert when all its marks are shown. -/
theorem isInert_of_countP {t shown : Text} (noColon : 0x3A ∉ t) (noTab : 9 ∉ t) (noFeed : 10 ∉ t)
    (run : shownText t = .ok shown) (most : t.countP isMark ≤ shown.countP isMark) : IsInert t := by
  have noControl (clear : ∀ c ∈ t, isHidden c = false) : ∀ c ∈ t, ¬ (7 ≤ c ∧ c ≤ 13) := by
    intro c member range
    have notTab : c ≠ 9 := fun same => noTab (same ▸ member)
    have notFeed : c ≠ 10 := fun same => noFeed (same ▸ member)
    have hidden : isHidden c = true := by simp [isHidden]; omega
    exact Bool.false_ne_true ((clear c member).symm.trans hidden)
  have noEmoji : ∀ word ∈ colonWords t, emojiOfWord? word = none := by simp [colonWords_eq_nil noColon]
  unfold shownText at run
  split at run
  · rename_i opening
    obtain ⟨_,exact⟩ := partsFrom_spec (Nat.lt_succ_self t.length) 0 []
    have few := countP_shownParts (noColon_of_partsFrom (by simpa using noColon)) run
    rcases exact with untagged | less
    · have filled : t ≠ [] := by
        rintro rfl
        cases opening
      have one : partsOf t = [.plain t] := by simp [partsOf,partsFrom_untagged untagged,plainBefore,filled]
      rw [one,shownParts,shownParts] at run
      have same : shownPlain t = shown := (List.append_nil _).symm.trans (Except.ok.inj run)
      rcases shownPlain_spec noColon with ⟨⟨noEscape,clear⟩,_⟩ | less
      · exact ⟨(tagAtStart?_eq_none_iff t).mp untagged,noEscape,noEmoji,noControl clear⟩
      · rw [same] at less
        omega
    · rw [List.countP_nil,Nat.zero_add] at less
      exact absurd (Nat.lt_of_le_of_lt (most.trans few) less) (Nat.lt_irrefl _)
  · rename_i plain
    have noOpening : 0x5B ∉ t := by simpa using plain
    have same := Except.ok.inj run
    rw [withEmoji_of_noColon noColon] at same
    rcases filter_isHidden_spec t with ⟨clear,_⟩ | less
    · refine ⟨fun before c inside after spelled => ?_,fun escape => ?_,noEmoji,noControl clear⟩
      · exact absurd (spelled ▸ List.mem_append_right before List.mem_cons_self) noOpening
      · exact absurd (escape.subset (by simp)) noOpening
    · rw [same] at less
      omega

/-! ### On the console -/

/-- An inert text that fits stands in a line of its own. -/
theorem IsInert.lines_eq {width : Nat} {t : Text} (inert : IsInert t) (fits : Console.width t ≤ width)
    (ending : KeepsEnd width t) : lines width t = [t] := by
  have noTab : 9 ∉ t := fun member => inert.noControl 9 member ⟨by decide,by decide⟩
  have noFeed : 10 ∉ t := fun member => inert.noControl 10 member ⟨by decide,by decide⟩
  exact (lines_eq_singleton_iff noTab noFeed fits).mpr ending

/-- Only an inert text stands in a line of its own, when it fits and no colon is in it. -/
theorem isInert_of_lines {width : Nat} {t shown : Text} (fits : Console.width t ≤ width) (noColon : 0x3A ∉ t)
    (run : shownText t = .ok shown) (own : lines width shown = [t]) : IsInert t ∧ KeepsEnd width t := by
  obtain ⟨noTab,noFeed⟩ := not_mem_lines (own ▸ List.mem_singleton_self t)
  have most : t.countP isMark ≤ shown.countP isMark := by
    have count := countP_lines (p := isMark) rfl width shown
    rw [own,List.flatten_singleton] at count
    exact count.trans (List.countP_mono_left fun c _ => by simp +contextual)
  have inert := isInert_of_countP noColon noTab noFeed run most
  cases inert.shownText_eq.symm.trans run
  exact ⟨inert,(lines_eq_singleton_iff noTab noFeed fits).mp own⟩

end ApiDocs.Console
