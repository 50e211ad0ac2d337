import ApiDocs.Json.Reader
import Mathlib.Data.List.Basic
import Mathlib.Data.List.TakeWhile

/-!
How deeply a JSON text is nested. The containers that are open at once are counted without reading the text (`deepest`),
and a text is refused for its depth only if more are open at once than the reader follows (`tooDeep_of_read`).
-/
namespace ApiDocs.Json

/-- Where a scan of a text stands: outside of strings, in one, or behind a backslash in one. -/
inductive Place where
  | outside
  | quoted
  | escaped

/-- The greatest number of containers that are open at once in a text, when some are open in front of it. What stands in a
    string opens and closes nothing. -/
def deepest (depth : Nat) : Place → Text → Nat
  | _, [] => depth
  | .outside, c :: rest =>
    if c = 0x22 then deepest depth .quoted rest
    else if c = 0x5B ∨ c = 0x7B then deepest (depth+1) .outside rest
    else if c = 0x5D ∨ c = 0x7D then max depth (deepest (depth-1) .outside rest)
    else deepest depth .outside rest
  | .quoted, c :: rest =>
    if c = 0x22 then deepest depth .outside rest
    else if c = 0x5C then deepest depth .escaped rest
    else deepest depth .quoted rest
  | .escaped, _ :: rest => deepest depth .quoted rest

theorem le_deepest (depth : Nat) (place : Place) (t : Text) : depth ≤ deepest depth place t := by
  fun_induction deepest depth place t <;> omega

/-- No string and no container begins or ends with the code point. -/
def isPlain (c : Nat) : Bool := c != 0x22 && c != 0x5B && c != 0x7B && c != 0x5D && c != 0x7D

theorem deepest_plain {c : Nat} (plain : isPlain c = true) (depth : Nat) (t : Text) :
    deepest depth .outside (c :: t) = deepest depth .outside t := by
  simp only [isPlain,Bool.and_eq_true,bne_iff_ne] at plain
  simp [deepest,plain]

/-- Behind something plain the text goes on. -/
def Passes (t rest : Text) : Prop := ∃ before : Text, (∀ c ∈ before, isPlain c = true) ∧ t = before ++ rest

namespace Passes

theorem refl (t : Text) : Passes t t := ⟨[],by simp,rfl⟩

theorem trans {t u v : Text} (first : Passes t u) (second : Passes u v) : Passes t v := by
  obtain ⟨a,plainA,rfl⟩ := first
  obtain ⟨b,plainB,rfl⟩ := second
  exact ⟨a ++ b,List.forall_mem_append.mpr ⟨plainA,plainB⟩,by simp⟩

theorem cons {c : Nat} (plain : isPlain c = true) (t : Text) : Passes (c :: t) t := ⟨[c],by simpa using plain,rfl⟩

theorem dropWhile {p : Nat → Bool} (plain : ∀ c, p c = true → isPlain c = true) (t : Text) : Passes t (t.dropWhile p) :=
  ⟨t.takeWhile p,fun c member => plain c (List.mem_takeWhile_imp member),List.takeWhile_append_dropWhile.symm⟩

theorem deepest_eq {t rest : Text} (passes : Passes t rest) (depth : Nat) :
    deepest depth .outside t = deepest depth .outside rest := by
  obtain ⟨before,plain,rfl⟩ := passes
  induction before with
  | nil => rfl
  | cons c more ih =>
    obtain ⟨first,others⟩ := List.forall_mem_cons.mp plain
    rw [List.cons_append,deepest_plain first,ih others]

end Passes

theorem passes_skip (t : Text) : Passes t (skip t) := by
  refine .dropWhile (fun c space => ?_) t
  simp only [isSpace,Bool.or_eq_true,beq_iff_eq] at space
  obtain ((rfl | rfl) | rfl) | rfl := space <;> rfl

theorem deepest_skip (depth : Nat) (t : Text) : deepest depth .outside (skip t) = deepest depth .outside t :=
  ((passes_skip t).deepest_eq depth).symm

/-! ### Numbers and strings -/

theorem isPlain_of_isDigit {c : Nat} (digit : Text.isDigit c = true) : isPlain c = true := by
  simp only [Text.isDigit,Bool.and_eq_true,decide_eq_true_eq] at digit
  simp only [isPlain,Bool.and_eq_true,bne_iff_ne]
  omega

theorem passes_digits (t : Text) : Passes t (t.dropWhile Text.isDigit) := .dropWhile (fun _ => isPlain_of_isDigit) t

theorem passes_splitSign (t : Text) : Passes t (splitSign t).2 := by
  unfold splitSign
  split
  · exact .cons rfl _
  · exact .refl t

theorem passes_takeWhole? {body whole rest : Text} (taken : takeWhole? body = some (whole,rest)) : Passes body rest := by
  unfold takeWhole? at taken
  split at taken
  · cases taken
    exact .cons rfl _
  · split at taken
    · cases taken
      exact passes_digits _
    · cases taken
  · cases taken

theorem passes_takeFraction (t : Text) : Passes t (takeFraction t).2 := by
  unfold takeFraction
  split
  · dsimp only
    split
    · exact .refl _
    · exact (Passes.cons rfl _).trans (passes_digits _)
  · exact .refl t

theorem passes_splitExponentSign (t : Text) : Passes t (splitExponentSign t).2 := by
  unfold splitExponentSign
  split
  · exact .cons rfl _
  · exact .cons rfl _
  · exact .refl t

theorem passes_takeExponent (t : Text) : Passes t (takeExponent t).2 := by
  unfold takeExponent
  split
  · rename_i c after
    split
    · rename_i letter
      have plain : isPlain c = true := by rcases letter with rfl | rfl <;> rfl
      dsimp only
      split
      · exact .refl _
      · exact (Passes.cons plain _).trans ((passes_splitExponentSign after).trans (passes_digits _))
    · exact .refl _
  · exact .refl _

theorem passes_readNumber {t : Text} {v : Value} {rest : Text} (run : readNumber t = .ok (v,rest)) : Passes t rest := by
  unfold readNumber at run
  dsimp only at run
  split at run
  · cases run
  · rename_i whole behind taken
    have whole : Passes t (takeExponent (takeFraction behind).2).2 :=
      (passes_splitSign t).trans ((passes_takeWhole? taken).trans
        ((passes_takeFraction behind).trans (passes_takeExponent _)))
    split at run
    · split at run <;> cases run
      exact whole
    · cases run
      exact whole

theorem readNumber_ne_tooDeep (t : Text) : readNumber t ≠ .error .tooDeep := by
  unfold readNumber
  dsimp only
  split
  · simp
  · split
    · split <;> simp
    · simp

theorem passes_words {entry : Text × Value} (member : entry ∈ words) {t : Text} (front : t.startsWith entry.1 = true) :
    Passes t (t.drop entry.1.length) := by
  obtain ⟨rest,rfl⟩ := List.isPrefixOf_iff_prefix.mp front
  have plain : ∀ entry ∈ words, ∀ c ∈ entry.1, isPlain c = true := by
    simp only [words,List.forall_mem_cons]
    exact ⟨by decide,by decide,by decide,by decide,by decide,by decide,by simp⟩
  exact ⟨entry.1,plain entry member,by simp⟩

theorem not_mark_of_hexValue? {c n : Nat} (digit : Text.hexValue? c = some n) : c ≠ 0x22 ∧ c ≠ 0x5C := by
  constructor <;> rintro rfl <;> cases digit

theorem hexFour?_eq_some {a b c d n : Nat} (unit : hexFour? a b c d = some n) :
    ∃ w x y z, Text.hexValue? a = some w ∧ Text.hexValue? b = some x ∧ Text.hexValue? c = some y ∧
      Text.hexValue? d = some z := by
  simp only [hexFour?,Option.bind_eq_bind,Option.bind_eq_some_iff] at unit
  obtain ⟨w,first,x,second,y,third,z,fourth,_⟩ := unit
  exact ⟨w,x,y,z,first,second,third,fourth⟩

theorem deepest_quoted {c : Nat} (inside : c ≠ 0x22 ∧ c ≠ 0x5C) (depth : Nat) (t : Text) :
    deepest depth .quoted (c :: t) = deepest depth .quoted t := by
  simp [deepest,inside]

theorem deepest_hexFour {a b c d n : Nat} (unit : hexFour? a b c d = some n) (depth : Nat) (t : Text) :
    deepest depth .quoted (0x5C :: 0x75 :: a :: b :: c :: d :: t) = deepest depth .quoted t := by
  obtain ⟨w,x,y,z,first,second,third,fourth⟩ := hexFour?_eq_some unit
  have escape : deepest depth .quoted (0x5C :: 0x75 :: a :: b :: c :: d :: t) =
      deepest depth .quoted (a :: b :: c :: d :: t) := rfl
  rw [escape,deepest_quoted (not_mark_of_hexValue? first),deepest_quoted (not_mark_of_hexValue? second),
    deepest_quoted (not_mark_of_hexValue? third),deepest_quoted (not_mark_of_hexValue? fourth)]

/-- What is read of a text accounts for its depth: a text that is refused for it goes beyond the limit, and what is left
    of another one goes no deeper than the text does. -/
def Accounts {α : Type} (limit seen depth : Nat) : Except Stop (α × Text) → Prop
  | .error .tooDeep => limit < seen
  | .error _ => True
  | .ok (_,rest) => deepest depth .outside rest ≤ seen

theorem accounts_readString {limit depth opening : Nat} {high : Bool} {read t : Text} :
    Accounts limit (deepest depth .quoted t) depth (readString opening high read t) := by
  fun_induction readString opening high read t with
  | case1 | case3 | case7 | case8 | case10 | case11 => trivial
  | case2 => exact Nat.le_refl _
  | case4 _ _ _ _ _ _ _ _ _ unit _ ih => rwa [deepest_hexFour unit]
  | case5 _ _ _ _ _ _ _ _ _ unit _ ih => rwa [deepest_hexFour unit]
  | case6 _ _ _ _ _ _ _ _ _ unit _ ih => rwa [deepest_hexFour unit]
  | case9 _ _ _ _ _ _ _ _ ih => exact ih
  | case12 _ _ c rest noQuote alone _ _ noEscape _ ih =>
    have noBackslash : c ≠ 0x5C := by
      rintro rfl
      cases rest with
      | nil => exact alone rfl rfl
      | cons d more => exact noEscape d more rfl rfl
    rwa [deepest_quoted ⟨noQuote,noBackslash⟩]

theorem Accounts.map {α β : Type} {limit seen depth : Nat} {outcome : Except Stop (α × Text)}
    (accounts : Accounts limit seen depth outcome) (f : α → β) :
    Accounts limit seen depth (outcome.map fun (a,rest) => (f a,rest)) := by
  cases outcome with
  | ok found => exact accounts
  | error stop => cases stop <;> exact accounts

/-- With some fuel the three readers account for the depth of what they read, when as many containers may still be opened as
    are missing to the limit. -/
structure AccountsAll (limit fuel : Nat) : Prop where
  value : ∀ {depth room} (t : Text), depth + room = limit →
    Accounts limit (deepest depth .outside t) depth (readValue fuel room t)
  items : ∀ {depth room} (read : List Value) (t : Text), depth + 1 + room = limit →
    Accounts limit (deepest (depth+1) .outside t) depth (readItems fuel room read t)
  members : ∀ {depth room} (read : List (Text × Value)) (t : Text), depth + 1 + room = limit →
    Accounts limit (deepest (depth+1) .outside t) depth (readMembers fuel room read t)

/-- Where a container is closed, the text behind it is looked at from one level less. -/
theorem deepest_close {c : Nat} (close : c = 0x5D ∨ c = 0x7D) (depth : Nat) {t rest : Text} (behind : skip t = c :: rest) :
    deepest depth .outside rest ≤ deepest (depth+1) .outside t := by
  rw [← deepest_skip (depth+1) t,behind]
  have noQuote : c ≠ 0x22 := by omega
  have noOpen : ¬ (c = 0x5B ∨ c = 0x7B) := by omega
  rw [deepest,if_neg noQuote,if_neg noOpen,if_pos close]
  exact Nat.le_max_right _ _

/-- Behind a comma or a colon the text goes on. -/
theorem deepest_separator {c : Nat} (plain : isPlain c = true) (depth : Nat) {t rest : Text} (behind : skip t = c :: rest) :
    deepest depth .outside (skip rest) = deepest depth .outside t := by
  rw [deepest_skip,← deepest_skip depth t,behind,deepest_plain plain]

/-- What is left of a part of a text accounts for the text. -/
theorem Accounts.mono {α : Type} {limit seen more depth : Nat} {outcome : Except Stop (α × Text)}
    (accounts : Accounts limit seen depth outcome) (le : seen ≤ more) : Accounts limit more depth outcome := by
  cases outcome with
  | ok found => exact Nat.le_trans accounts le
  | error stop =>
    cases stop with
    | tooDeep => exact Nat.lt_of_lt_of_le accounts le
    | _ => trivial

variable {limit fuel depth room : Nat}

theorem accounts_readValue (previous : AccountsAll limit fuel) (t : Text) (left : depth + room = limit) :
    Accounts limit (deepest depth .outside t) depth (readValue (fuel+1) room t) := by
  rw [readValue.eq_def]
  dsimp only
  split
  · exact accounts_readString.map _
  · rename_i rest
    have opened : deepest depth .outside (0x7B :: rest) = deepest (depth+1) .outside rest := rfl
    have above := le_deepest (depth+1) .outside rest
    rw [opened]
    split
    · show limit < _
      omega
    · split
      · rename_i behind
        exact deepest_close (.inr rfl) depth behind
      · rw [← deepest_skip]
        exact (previous.members [] (skip rest) (by omega)).map _
  · rename_i rest
    have opened : deepest depth .outside (0x5B :: rest) = deepest (depth+1) .outside rest := rfl
    have above := le_deepest (depth+1) .outside rest
    rw [opened]
    split
    · show limit < _
      omega
    · split
      · rename_i behind
        exact deepest_close (.inl rfl) depth behind
      · rw [← deepest_skip]
        exact (previous.items [] (skip rest) (by omega)).map _
  · split
    · rename_i word v found
      have front := List.find?_some found
      dsimp only at front
      exact Nat.le_of_eq ((passes_words (List.mem_of_find?_eq_some found) front).deepest_eq depth).symm
    · cases run : readNumber t with
      | ok found => exact Nat.le_of_eq ((passes_readNumber run).deepest_eq depth).symm
      | error stop =>
        cases stop with
        | tooDeep => exact absurd run (readNumber_ne_tooDeep t)
        | _ => trivial

theorem accounts_readItems (previous : AccountsAll limit fuel) (read : List Value) (t : Text)
    (left : depth + 1 + room = limit) :
    Accounts limit (deepest (depth+1) .outside t) depth (readItems (fuel+1) room read t) := by
  have first := previous.value t left
  rw [readItems.eq_def]
  dsimp only
  split
  · rename_i stop run
    rw [run] at first
    cases stop <;> exact first
  · rename_i v rest run
    rw [run] at first
    have within : deepest (depth+1) .outside rest ≤ deepest (depth+1) .outside t := first
    split
    · rename_i behind
      exact Nat.le_trans (deepest_close (.inl rfl) depth behind) within
    · rename_i after behind
      have later := previous.items (v :: read) (skip after) left
      rw [deepest_separator rfl (depth+1) behind] at later
      exact later.mono within
    · trivial

theorem accounts_readMembers (previous : AccountsAll limit fuel) (read : List (Text × Value)) (t : Text)
    (left : depth + 1 + room = limit) :
    Accounts limit (deepest (depth+1) .outside t) depth (readMembers (fuel+1) room read t) := by
  rw [readMembers.eq_def]
  dsimp only
  split
  · rename_i quoted
    have name : Accounts limit (deepest (depth+1) .quoted quoted) (depth+1)
        (readString (0x22 :: quoted).length false [] quoted) :=
      accounts_readString
    have seen : deepest (depth+1) .outside (0x22 :: quoted) = deepest (depth+1) .quoted quoted := rfl
    rw [seen]
    split
    · rename_i stop run
      rw [run] at name
      cases stop <;> exact name
    · rename_i key rest run
      rw [run] at name
      have within : deepest (depth+1) .outside rest ≤ deepest (depth+1) .quoted quoted := name
      split
      · rename_i after colon
        have value := previous.value (skip after) left
        rw [deepest_separator rfl (depth+1) colon] at value
        split
        · rename_i stop run
          rw [run] at value
          have stopped : Accounts limit (deepest (depth+1) .outside rest) depth
              (.error stop : Except Stop (List (Text × Value) × Text)) := by
            cases stop <;> exact value
          exact stopped.mono within
        · rename_i v rest run
          rw [run] at value
          have further : deepest (depth+1) .outside rest ≤ deepest (depth+1) .quoted quoted := Nat.le_trans value within
          split
          · rename_i behind
            exact Nat.le_trans (deepest_close (.inr rfl) depth behind) further
          · rename_i after behind
            have later := previous.members (Value.insert key v read) (skip after) left
            rw [deepest_separator rfl (depth+1) behind] at later
            exact later.mono further
          · trivial
      · trivial
  · trivial

theorem accountsAll (limit fuel : Nat) : AccountsAll limit fuel := by
  induction fuel with
  | zero =>
    refine ⟨fun t _ => ?_,fun read t _ => ?_,fun read t _ => ?_⟩
    · rw [readValue.eq_def]
      trivial
    · rw [readItems.eq_def]
      trivial
    · rw [readMembers.eq_def]
      trivial
  | succ fuel ih => exact ⟨accounts_readValue ih,accounts_readItems ih,accounts_readMembers ih⟩

/-- A text is refused for its depth only if it is nested more deeply than the reader follows. -/
theorem tooDeep_of_read {t : Text} (refused : read t = .error .tooDeep) : maxDepth < deepest 0 .outside t := by
  have accounts := (accountsAll maxDepth (2 * t.length + 1)).value (skip t) (Nat.zero_add maxDepth)
  rw [deepest_skip] at accounts
  unfold read readWithin at refused
  dsimp only at refused
  split at refused
  · cases refused
  · split at refused
    · rename_i stop run
      rw [run] at accounts
      cases stop with
      | tooDeep => exact accounts
      | _ => cases refused
    · split at refused <;> cases refused

/-! Opening brackets alone are no JSON text, but when there are too many the text is refused for its depth. -/

theorem readValue_brackets {room fuel n : Nat} (more : room < n) (fueled : 2 * room < fuel) (t : Text) :
    readValue fuel room (List.replicate n 0x5B ++ t) = .error .tooDeep := by
  induction room generalizing fuel n with
  | zero =>
    obtain ⟨n,rfl⟩ := Nat.exists_eq_add_of_lt more
    obtain ⟨fuel,rfl⟩ := Nat.exists_eq_add_of_lt fueled
    rfl
  | succ room ih =>
    obtain ⟨n,rfl⟩ := Nat.exists_eq_add_of_lt more
    obtain ⟨fuel,rfl⟩ := Nat.exists_eq_add_of_lt fueled
    have opening : List.replicate (room + 1 + n + 1) 0x5B ++ t = 0x5B :: 0x5B :: (List.replicate (room + n) 0x5B ++ t) := by
      rw [show room + 1 + n + 1 = room + n + 2 by omega]
      rfl
    have first : readValue (2 * room + fuel + 1) room (0x5B :: (List.replicate (room + n) 0x5B ++ t)) = .error .tooDeep :=
      ih (Nat.lt_add_of_pos_right (Nat.succ_pos n)) (by omega)
    have items :
        readItems (2 * room + fuel + 2) room [] (0x5B :: (List.replicate (room + n) 0x5B ++ t)) = .error .tooDeep := by
      rw [readItems,first]
    rw [opening,show 2 * (room + 1) + fuel + 1 = 2 * room + fuel + 2 + 1 by omega,readValue]
    exact congrArg (Except.map _) items

/-- Whatever follows more opening brackets than the reader follows is not read. -/
theorem read_brackets {n : Nat} (more : maxDepth < n) (t : Text) : read (List.replicate n 0x5B ++ t) = .error .tooDeep := by
  obtain ⟨m,rfl⟩ := Nat.exists_eq_add_of_lt more
  have size : maxDepth + m + 1 ≤ (List.replicate (maxDepth + m + 1) 0x5B ++ t).length := by
    rw [List.length_append,List.length_replicate]
    omega
  have run : readValue (2 * (List.replicate (maxDepth + m + 1) 0x5B ++ t).length + 1) maxDepth
      (List.replicate (maxDepth + m + 1) 0x5B ++ t) = .error .tooDeep := readValue_brackets more (by omega) t
  have start : skip (List.replicate (maxDepth + m + 1) 0x5B ++ t) = List.replicate (maxDepth + m + 1) 0x5B ++ t := rfl
  have noMark : (List.replicate (maxDepth + m + 1) 0x5B ++ t).head? ≠ some 0xFEFF := by
    simp [List.replicate_succ]
  rw [read,readWithin,if_neg noMark,start,run]

end ApiDocs.Json
