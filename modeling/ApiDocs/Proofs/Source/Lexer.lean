import ApiDocs.Proofs.Source.Walk
import ApiDocs.Source.Lexer

/-!
The places of tokens. In each step the lexer goes forward in the text, and the keyword that it reads lies between where it
stood and where it stands then (`advances_step`). So the keywords of a text stand at places that go up, and nothing follows
the token for the end (`inOrder_lex`).
-/
namespace ApiDocs.Source

/-- The line and the column where a token begins. -/
def Token.place (t : Token) : Nat × Nat := (t.line,t.column)

/-- The line and the column where the lexer stands. -/
def Place.point (p : Place) : Nat × Nat := (p.line,p.column)

/-- From one place to another one the lexer does not go back. -/
def Place.Reaches (p q : Place) : Prop := ¬ Before q.point p.point

namespace Place.Reaches

variable {p q r : Place}

theorem refl (p : Place) : p.Reaches p := by
  unfold Place.Reaches Before
  omega

theorem trans (first : p.Reaches q) (second : q.Reaches r) : p.Reaches r := by
  unfold Place.Reaches Before at *
  omega

theorem of_point_eq (same : p.point = q.point) : p.Reaches q := by
  unfold Place.Reaches Before
  rw [same]
  omega

theorem forward (p : Place) (n : Nat) : p.Reaches (p.forward n) := by
  unfold Place.Reaches Before Place.forward Place.point
  dsimp only
  omega

theorem nextLine (p : Place) : p.Reaches p.nextLine := by
  unfold Place.Reaches Before Place.nextLine Place.point
  dsimp only
  omega

theorem before (reaches : p.Reaches q) {a : Nat × Nat} (front : Before a p.point) : Before a q.point := by
  unfold Place.Reaches Before at *
  omega

end Place.Reaches

/-- Behind a text that is not empty the lexer stands further on. -/
theorem Place.before_past (p : Place) {t : Text} (filled : t ≠ []) : Before p.point (p.past t).point := by
  have size : 0 < t.length := List.length_pos_iff.mpr filled
  unfold Before Place.past
  dsimp only
  split
  all_goals
    dsimp only [Place.point,Place.forward]
    omega

theorem Place.reaches_past (p : Place) (t : Text) : p.Reaches (p.past t) := by
  by_cases filled : t = []
  · rw [filled]
    exact .refl p
  · have front := p.before_past filled
    unfold Place.Reaches Before at *
    omega

/-- What a step reads, from one place to another one: keywords at places that go up between the two; and the token for the
    end only alone. -/
structure Advances (p : Place) (tokens : List Token) (q : Place) : Prop where
  reaches : p.Reaches q
  begin : ∀ t ∈ tokens, t.kind = .keyword → ¬ Before t.place p.point
  within : ∀ t ∈ tokens, t.kind = .keyword → Before t.place q.point
  rising : tokens.Pairwise fun a b => a.kind = .keyword → b.kind = .keyword → Before a.place b.place
  last : ∀ t ∈ tokens.dropLast, t.kind ≠ .finish

namespace Advances

variable {p q r : Place} {tokens : List Token}

theorem none (reaches : p.Reaches q) : Advances p [] q :=
  ⟨reaches,by simp,by simp,.nil,by simp⟩

/-- A token that is no keyword, alone. -/
theorem single {t : Token} (reaches : p.Reaches q) (other : t.kind ≠ .keyword) : Advances p [t] q := by
  refine ⟨reaches,?_,?_,List.pairwise_singleton _ t,by simp⟩
  all_goals
    intro u member keyword
    exact absurd (List.mem_singleton.mp member ▸ keyword) other

/-- Tokens for indentation. -/
theorem widthless (reaches : p.Reaches q) (other : ∀ t ∈ tokens, t.kind ≠ .keyword ∧ t.kind ≠ .finish) :
    Advances p tokens q := by
  refine ⟨reaches,?_,?_,?_,fun t member => (other t (List.dropLast_subset _ member)).2⟩
  · exact fun t member keyword => absurd keyword (other t member).1
  · exact fun t member keyword => absurd keyword (other t member).1
  · exact List.pairwise_of_forall_mem_list fun a first b _ keyword => absurd keyword (other a first).1

theorem trans (first : p.Reaches q) (second : Advances q tokens r) : Advances p tokens r := by
  refine ⟨first.trans second.reaches,fun t member keyword behind => ?_,second.within,second.rising,second.last⟩
  exact second.begin t member keyword (first.before behind)

end Advances

/-! ### Steps -/

theorem reaches_continueLine {p q : Place} {t rest : Text} (run : continueLine p t = .ok (q,rest)) : p.Reaches q := by
  unfold continueLine at run
  split at run
  · dsimp only at run
    split at run
    · cases run
    · cases run
      exact .nextLine _
  · cases run

theorem reaches_readIndent {fuel : Nat} {p q : Place} {joined after : Nat} {i j : Indent} {t rest : Text}
    (run : readIndent fuel p joined i t = .ok (q,after,j,rest)) : p.Reaches q := by
  induction fuel generalizing p joined i t with
  | zero =>
    cases run
    exact .refl _
  | succ fuel ih =>
    rw [readIndent.eq_def] at run
    dsimp only at run
    split at run
    · exact (Place.Reaches.forward p 1).trans (ih run)
    · exact (Place.Reaches.forward p 1).trans (ih run)
    · exact (Place.Reaches.forward p 1).trans (ih run)
    · split at run
      · cases run
      · rename_i continued
        exact (Place.Reaches.forward p 1).trans ((reaches_continueLine continued).trans (ih run))
    · cases run
      exact .refl _

/-- The tokens for indentation have no width. -/
theorem reaches_indentation {p q : Place} {i : Indent} {t : Text} {kinds : List Kind}
    (run : indentation p i t = .ok (q,kinds)) :
    q.point = p.point ∧ ∀ kind ∈ kinds, kind ≠ .keyword ∧ kind ≠ .finish := by
  unfold indentation at run
  dsimp only at run
  split at run
  · split at run
    · cases run
      exact ⟨rfl,by simp⟩
    · cases run
  · split at run
    · split at run
      · cases run
      · split at run
        · cases run
        · cases run
          exact ⟨rfl,by simp⟩
    · split at run
      · cases run
        refine ⟨rfl,fun kind member => ?_⟩
        rw [List.eq_of_mem_replicate member]
        decide
      · split at run <;> cases run

theorem advances_take {kind : Kind} {length : Nat} {p q : Place} {t rest : Text} {tokens : List Token}
    (wide : kind = .keyword → t.take length ≠ []) (run : take kind length p t = .ok (tokens,q,rest)) :
    Advances p tokens q := by
  unfold take at run
  cases run
  have reaches := p.reaches_past (t.take length)
  refine ⟨reaches,?_,?_,List.pairwise_singleton _ _,by simp⟩
  · intro u member _
    rw [List.mem_singleton.mp member]
    unfold Before Token.place Place.point
    dsimp only
    omega
  · intro u member keyword
    rw [List.mem_singleton.mp member] at keyword ⊢
    exact p.before_past (wide keyword)

theorem advances_operator {p q : Place} {t rest : Text} {tokens : List Token} (run : operator p t = .ok (tokens,q,rest)) :
    Advances p tokens q := by
  -- Brackets are counted while an operator is read, which does not change the place.
  have taken {length : Nat} {brackets : List (Nat × Nat)}
      (run : take .operator length { p with brackets := brackets } t = .ok (tokens,q,rest)) : Advances p tokens q := by
    have advances := advances_take (fun same => by cases same) run
    exact advances.trans (.of_point_eq (by rfl))
  unfold operator at run
  split at run
  · exact taken run
  · split at run
    · exact taken run
    · split at run
      · cases run
      · split at run
        · split at run
          · cases run
          · exact taken run
        · split at run
          · split at run
            · cases run
            · split at run
              · exact taken run
              · split at run <;> cases run
          · split at run
            · exact taken run
            · cases run

theorem advances_word {p q : Place} {t rest : Text} {tokens : List Token} (run : word p t = .ok (tokens,q,rest)) :
    Advances p tokens q := by
  unfold word at run
  split at run
  · cases run
  · rename_i c after
    dsimp only at run
    split at run
    · rename_i begins
      split at run
      · split at run
        · cases run
        · exact advances_take (fun same => by cases same) run
      · split at run
        · -- A word that is a keyword has a first letter at least.
          refine advances_take (fun _ => ?_) run
          simp [continuesWord,begins]
        · cases run
    · split at run
      · split at run
        · cases run
        · exact advances_take (fun same => by cases same) run
      · split at run
        · split at run
          · cases run
          · exact advances_take (fun same => by cases same) run
        · exact advances_operator run

theorem advances_inLine {fuel : Nat} {blank : Bool} {p q : Place} {t rest : Text} {tokens : List Token}
    (run : inLine fuel blank p t = .ok (tokens,q,rest)) : Advances p tokens q := by
  induction fuel generalizing p t with
  | zero => cases run
  | succ fuel ih =>
    rw [inLine.eq_def] at run
    dsimp only at run
    split at run
    · split at run
      · cases run
      · cases run
        exact .single (.refl _) (fun same => by cases same)
    · split at run
      · cases run
        exact .none (.nextLine p)
      · cases run
        exact .single (.nextLine p) (fun same => by cases same)
    · exact (ih run).trans (.forward p _)
    · split at run
      · cases run
      · rename_i continued
        exact ((ih run).trans (reaches_continueLine continued)).trans (.forward p 1)
    · split at run
      · exact (ih run).trans (.forward p 1)
      · exact advances_word run

theorem advances_step {fuel : Nat} {p q : Place} {t rest : Text} {tokens : List Token}
    (run : step fuel p t = .ok (tokens,q,rest)) : Advances p tokens q := by
  unfold step at run
  split at run
  · split at run
    · cases run
    · rename_i indented
      have front := reaches_readIndent indented
      dsimp only at run
      split at run
      · have advances := advances_inLine run
        exact advances.trans (front.trans (.of_point_eq (by rfl)))
      · split at run
        · cases run
        · rename_i measured
          obtain ⟨same,kinds⟩ := reaches_indentation measured
          cases run
          refine .widthless (front.trans (.of_point_eq same.symm)) (List.forall_mem_map.mpr ?_)
          exact kinds
  · exact advances_inLine run

/-! ### Texts -/

/-- Tokens as they are read from a text: the keywords stand at places that go up, and the token for the end is the last
    one. -/
structure InOrder (tokens : List Token) : Prop where
  rising : tokens.Pairwise fun a b => a.kind = .keyword → b.kind = .keyword → Before a.place b.place
  last : ∀ t ∈ tokens.dropLast, t.kind ≠ .finish

/-- Where the token for the end stands. -/
theorem InOrder.finish_last {tokens : List Token} (inOrder : InOrder tokens) {i : Nat} {token : Token}
    (here : tokens[i]? = some token) (finish : token.kind = .finish) : i + 1 = tokens.length := by
  obtain ⟨inside,rfl⟩ := List.getElem?_eq_some_iff.mp here
  by_contra further
  have member : tokens[i] ∈ tokens.dropLast :=
    List.mem_iff_getElem.mpr ⟨i,by rw [List.length_dropLast]; omega,List.getElem_dropLast _⟩
  exact inOrder.last tokens[i] member finish

/-- What was read up to a place: tokens in order, with the keywords in front of the place, and none for the end. -/
structure ReadTo (tokens : List Token) (p : Place) : Prop where
  rising : tokens.Pairwise fun a b => a.kind = .keyword → b.kind = .keyword → Before a.place b.place
  within : ∀ t ∈ tokens, t.kind = .keyword → Before t.place p.point
  going : ∀ t ∈ tokens, t.kind ≠ .finish

variable {p q : Place} {read tokens : List Token}

theorem ReadTo.inOrder (readTo : ReadTo read p) : InOrder read :=
  ⟨readTo.rising,fun t member => readTo.going t (List.dropLast_subset _ member)⟩

/-- One more step keeps the tokens in order. -/
theorem ReadTo.append (readTo : ReadTo read p) (advances : Advances p tokens q) :
    (read ++ tokens).Pairwise (fun a b => a.kind = .keyword → b.kind = .keyword → Before a.place b.place) ∧
    ∀ t ∈ read ++ tokens, t.kind = .keyword → Before t.place q.point := by
  constructor
  · refine List.pairwise_append.mpr ⟨readTo.rising,advances.rising,fun a first b second keyword later => ?_⟩
    have front := readTo.within a first keyword
    have behind := advances.begin b second later
    unfold Before at *
    omega
  · refine List.forall_mem_append.mpr ⟨fun t member keyword => ?_,advances.within⟩
    exact advances.reaches.before (readTo.within t member keyword)

theorem inOrder_lexFrom {fuel : Nat} {read : List Token} {p : Place} (readTo : ReadTo read.reverse p) (t : Text) :
    InOrder (lexFrom fuel read p t).1 := by
  induction fuel generalizing read p t with
  | zero => exact readTo.inOrder
  | succ fuel ih =>
    rw [lexFrom]
    split
    · exact readTo.inOrder
    · rename_i tokens after rest run
      have advances := advances_step run
      obtain ⟨rising,within⟩ := readTo.append advances
      have joined : (tokens.reverse ++ read).reverse = read.reverse ++ tokens := by simp
      split
      · rw [joined]
        have filled : tokens ≠ [] := by
          rintro rfl
          rename_i ends
          simp at ends
        refine ⟨rising,?_⟩
        dsimp only
        rw [List.dropLast_append_of_ne_nil filled]
        exact List.forall_mem_append.mpr ⟨readTo.going,advances.last⟩
      · rename_i going
        refine ih ?_ rest
        rw [joined]
        refine ⟨rising,within,List.forall_mem_append.mpr ⟨readTo.going,fun t member finish => going ?_⟩⟩
        exact List.any_eq_true.mpr ⟨t,member,by simpa using finish⟩

/-- The tokens of a text are in order. -/
theorem inOrder_lex (line : Nat) (t : Text) : InOrder (lex line t).tokens.toList := by
  unfold lex lexLines
  exact inOrder_lexFrom ⟨.nil,by simp,by simp⟩ _

end ApiDocs.Source
