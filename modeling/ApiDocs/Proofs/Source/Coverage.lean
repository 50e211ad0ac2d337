import ApiDocs.Proofs.Source.Grammar
import ApiDocs.Proofs.Source.Lexer
import ApiDocs.Source.Parser
import Mathlib.Data.List.Forall2

/-!
The functions between two tokens. Trees cover the tokens between two marks when the functions in them are those that the
words `def` there define, one for each and in their order (`Covers`). Coverings are put together behind each other, and
around the rest of a function its head is put (`covers_function`); a match should cover what it takes (`Matches`).
-/
namespace ApiDocs.Source

/-- The token is the word that functions are defined with. -/
def Token.isDef (t : Token) : Bool := t.kind = .keyword && t.text == ("def" : Text)

theorem Terminal.isDef_of_accepts {t : Terminal} {token : Token} (accepted : t.accepts token = true) :
    token.isDef = t.isDef := by
  cases t with
  | word w =>
    simp only [accepts,Bool.and_eq_true,decide_eq_true_eq,beq_iff_eq] at accepted
    simp [Token.isDef,isDef,accepted]
  | _ =>
    simp only [accepts,Bool.and_eq_true,decide_eq_true_eq] at accepted
    simp [Token.isDef,isDef,accepted]

/-- Where between two marks the words stand that functions are defined with. -/
def defs (ts : Tokens) (lo hi : Nat) : List Nat := (List.range' lo (hi - lo)).filter fun i => ts.tokens[i]?.any Token.isDef

/-- The function begins at a mark: the word `def` stands there, maybe behind the word `async`, where the function begins
    then, and the name behind it is the function's own. -/
structure DefinedAt (ts : Tokens) (mark : Nat) (f : Tree) : Prop where
  place : ∃ first t, ts.tokens[first]? = some t ∧ t.kind = .keyword ∧ f.place = t.place ∧
    (first = mark ∨ first + 1 = mark ∧ t.text = ("async" : Text))
  name : ∃ t, ts.tokens[mark+1]? = some t ∧ t.kind = .name ∧ f.definedName = Text.canonicalName t.text

/-- Between two marks the functions are those that are defined there, each in its place. -/
structure Covers (ts : Tokens) (fs : List Tree) (lo hi : Nat) : Prop where
  forward : lo ≤ hi
  each : List.Forall₂ (DefinedAt ts) (defs ts lo hi) fs

section
variable {ts : Tokens} {lo mid hi : Nat}

theorem defs_append (first : lo ≤ mid) (second : mid ≤ hi) : defs ts lo mid ++ defs ts mid hi = defs ts lo hi := by
  have split : List.range' lo (mid - lo) ++ List.range' mid (hi - mid) = List.range' lo (hi - lo) := by
    rw [show hi - lo = (mid - lo) + (hi - mid) by omega,← List.range'_append_1,show lo + (mid - lo) = mid by omega]
  rw [defs,defs,← List.filter_append,split,defs]

theorem defs_succ {token : Token} (here : ts.tokens[lo]? = some token) :
    defs ts lo (lo+1) = if token.isDef then [lo] else [] := by
  simp [defs,List.filter_cons,here]

theorem Covers.nil (ts : Tokens) (lo : Nat) : Covers ts [] lo lo := ⟨Nat.le_refl lo,by simp [defs]⟩

theorem Covers.append {fs gs : List Tree} (first : Covers ts fs lo mid) (second : Covers ts gs mid hi) :
    Covers ts (fs ++ gs) lo hi := by
  refine ⟨Nat.le_trans first.forward second.forward,?_⟩
  rw [← defs_append first.forward second.forward]
  exact List.rel_append first.each second.each

/-- A token that defines nothing. -/
theorem Covers.token {token : Token} (here : ts.tokens[lo]? = some token) (other : token.isDef = false) :
    Covers ts [] lo (lo+1) := ⟨Nat.le_succ lo,by simp [defs_succ here,other]⟩

/-- A function with those inside it, from the word that it is defined with on. -/
theorem Covers.function {f : Tree} {fs : List Tree} {token : Token} (here : ts.tokens[lo]? = some token)
    (word : token.isDef = true) (defined : DefinedAt ts lo f) (inside : Covers ts fs (lo+1) hi) :
    Covers ts (f :: fs) lo hi := by
  have own : Covers ts [f] lo (lo+1) := ⟨Nat.le_succ lo,by simpa [defs_succ here,word] using defined⟩
  exact own.append inside

end

/-! ### Nodes -/

theorem nodeAt_eq (ts : Tokens) (mark : Nat) (label : Label) (parts : List Tree) :
    ∃ line column, nodeAt ts mark label parts = .node label line column parts := by
  unfold nodeAt
  split <;> exact ⟨_,_,rfl⟩

theorem nodeAt_of_token {ts : Tokens} {mark : Nat} {token : Token} (here : ts.tokens[mark]? = some token) (label : Label)
    (parts : List Tree) : nodeAt ts mark label parts = .node label token.line token.column parts := by
  simp [nodeAt,here]

theorem functionNodes_nodeAt (ts : Tokens) (mark : Nat) {label : Label} (other : label ≠ .function) (parts : List Tree) :
    (nodeAt ts mark label parts).functionNodes = Tree.functionNodesOf parts := by
  obtain ⟨line,column,node⟩ := nodeAt_eq ts mark label parts
  rw [node,Tree.functionNodes_other other]

@[simp] theorem functionNodes_tokenTree (t : Token) : (tokenTree t).functionNodes = [] := by
  unfold tokenTree
  split <;> rfl

theorem tokenTree_of_keyword {token : Token} (keyword : token.kind = .keyword) : tokenTree token = .leaf token := by
  simp [tokenTree,keyword]

theorem tokenTree_of_name {token : Token} (name : token.kind = .name) :
    tokenTree token = .node (.name token.text) token.line token.column [] := by
  simp [tokenTree,name]

theorem Terminal.keyword_of_accepts {w : Text} {token : Token} (accepted : (Terminal.word w).accepts token = true) :
    token.kind = .keyword ∧ token.text = w := by
  simpa [accepts] using accepted

theorem Terminal.eq_word_of_isDef {d : Terminal} (isDef : d.isDef = true) : d = .word "def" := by
  unfold Terminal.isDef at isDef
  split at isDef
  · rw [beq_iff_eq.mp isDef]
  · cases isDef

/-- A function whose name stands behind the word that it is defined with covers what follows, if its parts do. -/
theorem covers_function {ts : Tokens} {mark after line column : Nat} {d n : Token} {front more : List Tree}
    (word : ts.tokens[mark]? = some d) (isDef : d.isDef = true) (here : ts.tokens[mark+1]? = some n) (named : n.kind = .name)
    (begins : ∃ first t, ts.tokens[first]? = some t ∧ t.kind = .keyword ∧ (line,column) = t.place ∧
      (first = mark ∨ first + 1 = mark ∧ t.text = ("async" : Text)))
    (leaves : ∀ t ∈ front, ∃ token, t = .leaf token) (inside : Covers ts (Tree.functionNodesOf more) (mark+2) after) :
    Covers ts (Tree.node .function line column (front ++ tokenTree n :: more)).functionNodes mark after := by
  have other : n.isDef = false := by simp [Token.isDef,named]
  have silent : Tree.functionNodesOf front = [] := by
    clear inside
    induction front with
    | nil => rfl
    | cons t rest ih =>
      obtain ⟨⟨token,rfl⟩,others⟩ := List.forall_mem_cons.mp leaves
      rw [Tree.functionNodesOf_cons,ih others,Tree.functionNodes_leaf,List.nil_append]
  have own : (Tree.node .function line column (front ++ tokenTree n :: more)).definedName = Text.canonicalName n.text := by
    clear inside silent
    induction front with
    | nil => simp [Tree.definedName,Tree.parts,tokenTree_of_name named,Tree.label?]
    | cons t rest ih =>
      obtain ⟨⟨token,rfl⟩,others⟩ := List.forall_mem_cons.mp leaves
      exact ih others
  rw [Tree.functionNodes_node,if_pos rfl,Tree.functionNodesOf_append,silent,Tree.functionNodesOf_cons,
    functionNodes_tokenTree]
  exact .function word isDef ⟨begins,n,here,named,own⟩ ((Covers.token here other).append inside)

/-! ### Matches -/

section
variable {ρ : Type} (quiet : ρ → Bool)

/-- What a match says of the functions between two marks: it has all of them, unless the expression leaves some out; and a
    quiet expression has none. -/
structure Matches (ts : Tokens) (p : Peg ρ) (mark : Nat) (tree : Tree) (after : Nat) : Prop where
  covers : p.isSound quiet = true → Covers ts tree.functionNodes mark after
  silent : p.isQuiet quiet = true → tree.functionNodes = []

/-- So it is for expressions one after another. -/
structure MatchesAll (ts : Tokens) (ps : List (Peg ρ)) (mark : Nat) (trees : List Tree) (after : Nat) : Prop where
  covers : Peg.areSound quiet 0 ps = true → Covers ts (Tree.functionNodesOf trees) mark after
  silent : List.Forall₂ (fun p t => p.isQuiet quiet = true → t.functionNodes = []) ps trees

/-- So it is for an expression again and again, with separators that are quiet. -/
structure MatchesMany (ts : Tokens) (separator : Option (Peg ρ)) (p : Peg ρ) (mark : Nat) (trees : List Tree)
    (after : Nat) : Prop where
  covers : (∀ q ∈ separator, q.isQuiet quiet = true ∧ q.isSound quiet = true) → p.isSound quiet = true →
    Covers ts (Tree.functionNodesOf trees) mark after
  silent : p.isQuiet quiet = true → Tree.functionNodesOf trees = []

variable {quiet} {ts : Tokens} {mark after : Nat} {ps : List (Peg ρ)} {trees : List Tree}

/-- The parts in a row that are matched by quiet expressions have no functions. -/
theorem functionNodesOf_silent (silent : List.Forall₂ (fun p t => p.isQuiet quiet = true → t.functionNodes = []) ps trees)
    (all : Peg.areQuiet quiet ps = true) : Tree.functionNodesOf trees = [] := by
  induction silent with
  | nil => rfl
  | cons own others ih =>
    rw [Peg.areQuiet,Bool.and_eq_true] at all
    rw [Tree.functionNodesOf_cons,own all.1,ih all.2,List.nil_append]

/-- Where all expressions but one are quiet, all functions are in its part. -/
theorem functionNodesOf_part (silent : List.Forall₂ (fun p t => p.isQuiet quiet = true → t.functionNodes = []) ps trees)
    {n : Nat} (others : Peg.othersAreQuiet quiet n ps = true) :
    Tree.functionNodesOf trees = (trees[n]?.getD .absent).functionNodes := by
  induction silent generalizing n with
  | nil => rfl
  | cons own rest ih =>
    cases n with
    | zero =>
      rw [Peg.othersAreQuiet] at others
      rw [Tree.functionNodesOf_cons,functionNodesOf_silent rest others,List.append_nil,List.getElem?_cons_zero,
        Option.getD_some]
    | succ n =>
      rw [Peg.othersAreQuiet,Bool.and_eq_true] at others
      rw [Tree.functionNodesOf_cons,own others.1,ih others.2,List.nil_append,List.getElem?_cons_succ]

theorem MatchesAll.row (matched : MatchesAll quiet ts ps mark trees after) :
    Matches quiet ts (.seq ps) mark (nodeAt ts mark .row trees) after := by
  refine ⟨fun sound => ?_,fun silent => ?_⟩
  · rw [functionNodes_nodeAt ts mark (by decide)]
    exact matched.covers (by rwa [Peg.isSound] at sound)
  · rw [functionNodes_nodeAt ts mark (by decide)]
    exact functionNodesOf_silent matched.silent (by rwa [Peg.isQuiet] at silent)

/-- Of a row one part is kept, which has all functions. -/
theorem MatchesAll.pick (matched : MatchesAll quiet ts ps mark trees after) (n : Nat) :
    Matches quiet ts (.pick n (.seq ps)) mark ((nodeAt ts mark .row trees).part n) after := by
  have part : (nodeAt ts mark .row trees).part n = trees[n]?.getD .absent := by
    obtain ⟨line,column,node⟩ := nodeAt_eq ts mark .row trees
    rw [node,Tree.part,Tree.parts]
  refine ⟨fun sound => ?_,fun silent => ?_⟩
  · rw [Peg.isSound,Bool.and_eq_true] at sound
    rw [part,← functionNodesOf_part matched.silent sound.2]
    exact matched.covers sound.1
  · exact Tree.functionNodes_part (matched.row.silent (by rwa [Peg.isQuiet] at silent)) n

/-- A match that takes nothing. -/
theorem Matches.absent (ts : Tokens) (p : Peg ρ) (mark : Nat) : Matches quiet ts p mark .absent mark :=
  ⟨fun _ => .nil ts mark,fun _ => rfl⟩

variable {separator : Option (Peg ρ)} {p q : Peg ρ}

/-- One more in front, and perhaps a separator in front of that. -/
theorem MatchesMany.cons {tree : Tree} {lo mid : Nat} (own : Matches quiet ts p lo tree mid)
    (matched : MatchesMany quiet ts separator p mid trees after)
    (gap : (∀ r ∈ separator, r.isQuiet quiet = true ∧ r.isSound quiet = true) → Covers ts [] mark lo) :
    MatchesMany quiet ts separator p mark (tree :: trees) after := by
  refine ⟨fun separated sound => ?_,fun silent => ?_⟩
  · rw [Tree.functionNodesOf_cons]
    exact (gap separated).append ((own.covers sound).append (matched.covers separated sound))
  · rw [Tree.functionNodesOf_cons,own.silent silent,matched.silent silent,List.append_nil]

/-- What matches an expression again and again, in a row, matches the repetition. -/
theorem MatchesMany.row (matched : MatchesMany quiet ts separator p mark trees after) (sound : q.isSound quiet = true →
      (∀ r ∈ separator, r.isQuiet quiet = true ∧ r.isSound quiet = true) ∧ p.isSound quiet = true)
    (silent : q.isQuiet quiet = p.isQuiet quiet) : Matches quiet ts q mark (nodeAt ts mark .row trees) after := by
  refine ⟨fun own => ?_,fun own => ?_⟩
  · rw [functionNodes_nodeAt ts mark (by decide)]
    exact matched.covers (sound own).1 (sound own).2
  · rw [functionNodes_nodeAt ts mark (by decide)]
    exact matched.silent (silent ▸ own)

end

end ApiDocs.Source
