import ApiDocs.Proofs.Source.Coverage

/-!
The functions in what a grammar matches. A run keeps what is remembered right, and what it matches covers its tokens: the
functions in it are those that the words between its marks define, each in its place. There is one lemma for each kind of
expression (`ends_run`), and by induction on the fuel it is so for all runs (`parses`).
-/
namespace ApiDocs.Source

variable {ρ : Type}

/-- A grammar in which functions are where the quiet rules are not. -/
structure Grammar.IsSound (g : Grammar ρ) (quiet : ρ → Bool) : Prop where
  sound : ∀ r, (g.body r).isSound quiet = true
  quiet : ∀ r, quiet r = true → (g.body r).isQuiet quiet = true

variable {quiet : ρ → Bool}

/-- What is remembered of the rules is what they match. -/
def Remembers (quiet : ρ → Bool) (ts : Tokens) (memo : Memo ρ) : Prop :=
  ∀ mark r tree after, (r,some (tree,after)) ∈ memo[mark]?.getD [] → Matches quiet ts (.rule r) mark tree after

/-- One more right memory. -/
theorem Remembers.modify {ts : Tokens} {memo : Memo ρ} {mark : Nat} (right : Remembers quiet ts memo)
    {entry : ρ × Option (Tree × Nat)}
    (own : ∀ tree after, entry.2 = some (tree,after) → Matches quiet ts (.rule entry.1) mark tree after) :
    Remembers quiet ts (memo.modify mark (entry :: ·)) := by
  intro other r tree after member
  rw [Array.getElem?_modify] at member
  split at member
  · rename_i same
    subst same
    cases there : memo[mark]? with
    | none =>
      rw [there] at member
      exact absurd member List.not_mem_nil
    | some entries =>
      rw [there] at member
      rcases List.mem_cons.mp member with rfl | old
      · exact own tree after rfl
      · exact right mark r tree after (by rwa [there])
  · exact right other r tree after member

/-- A run ends with right memories, and with a match only of a certain kind. -/
structure Ends (quiet : ρ → Bool) (ts : Tokens) (hits : Tree → Nat → Prop) (ended : Outcome × Trace ρ) : Prop where
  memo : Remembers quiet ts ended.2.memo
  hit : ∀ tree after, ended.1 = .hit tree after → hits tree after

namespace Ends

variable {ts : Tokens} {hits more : Tree → Nat → Prop} {s : Trace ρ}

theorem of_miss (memo : Remembers quiet ts s.memo) (isCut : Bool) : Ends quiet ts hits (.miss isCut,s) :=
  ⟨memo,fun _ _ same => by cases same⟩

theorem of_stop (memo : Remembers quiet ts s.memo) (why : Refusal) (isFinal : Bool) : Ends quiet ts hits (.stop why isFinal,s) :=
  ⟨memo,fun _ _ same => by cases same⟩

theorem of_hit (memo : Remembers quiet ts s.memo) {tree : Tree} {after : Nat} (own : hits tree after) :
    Ends quiet ts hits (.hit tree after,s) :=
  ⟨memo,fun _ _ same => by cases same; exact own⟩

theorem mono {ended : Outcome × Trace ρ} (ends : Ends quiet ts hits ended)
    (weaker : ∀ tree after, hits tree after → more tree after) : Ends quiet ts more ended :=
  ⟨ends.memo,fun tree after same => weaker tree after (ends.hit tree after same)⟩

/-- What is made of a match only. -/
theorem bind {ended : Outcome × Trace ρ} (ends : Ends quiet ts hits ended) {next : Tree → Nat → Trace ρ → Outcome × Trace ρ}
    (goesOn : ∀ tree after s, Remembers quiet ts s.memo → hits tree after → Ends quiet ts more (next tree after s)) :
    Ends quiet ts more (match ended with
      | (.hit tree after,s) => next tree after s
      | o => o) := by
  obtain ⟨outcome,s⟩ := ended
  cases outcome with
  | hit tree after => exact goesOn tree after s ends.memo (ends.hit tree after rfl)
  | miss isCut => exact .of_miss ends.memo isCut
  | stop why isFinal => exact .of_stop ends.memo why isFinal

/-- A call ends as its body does, unless there is no room for it. -/
theorem call {body : Trace ρ → Outcome × Trace ρ} (memo : Remembers quiet ts s.memo)
    (own : ∀ s, Remembers quiet ts s.memo → Ends quiet ts hits (body s)) : Ends quiet ts hits (call s body) := by
  unfold Source.call
  split
  · exact .of_stop memo .noMemory true
  · have inside := own { s with calls := s.calls + 1 } memo
    exact ⟨inside.memo,inside.hit⟩

end Ends

variable {c : Context ρ}

/-- With some fuel all runs match what they should. -/
structure Parses [DecidableEq ρ] (quiet : ρ → Bool) (c : Context ρ) (fuel : Nat) : Prop where
  run : ∀ p mark s, Remembers quiet c.tokens s.memo →
    Ends quiet c.tokens (Matches quiet c.tokens p mark) (run c fuel false p mark s)
  seq : ∀ ps isCut parts start mark s, Remembers quiet c.tokens s.memo →
    Ends quiet c.tokens (fun tree after => ∃ more, tree = nodeAt c.tokens start .row (parts.reverse ++ more) ∧
      MatchesAll quiet c.tokens ps mark more after) (runSeq c fuel false ps isCut parts start mark s)
  choice : ∀ ps mark s, Remembers quiet c.tokens s.memo →
    Ends quiet c.tokens (fun tree after => ∃ p ∈ ps, Matches quiet c.tokens p mark tree after)
      (runChoice c fuel false ps mark s)
  many : ∀ separator p parts start mark s, Remembers quiet c.tokens s.memo →
    Ends quiet c.tokens (fun tree after => ∃ more, tree = nodeAt c.tokens start .row (parts.reverse ++ more) ∧
      MatchesMany quiet c.tokens separator p mark more after) (runMany c fuel false separator p parts start mark s)
  chain : ∀ links tree start mark s, Remembers quiet c.tokens s.memo →
    Ends quiet c.tokens (fun longer after =>
      (Peg.linksAreSound quiet links = true → Covers c.tokens tree.functionNodes start mark →
        Covers c.tokens longer.functionNodes start after) ∧
      (Peg.linksAreQuiet quiet links = true → tree.functionNodes = [] → longer.functionNodes = []))
      (runChain c fuel false links tree start mark s)
  links : ∀ links mark s, Remembers quiet c.tokens s.memo →
    Ends quiet c.tokens (fun tree after => ∃ link ∈ links, ∃ part, tree = nodeAt c.tokens mark link.1 [part] ∧
      Matches quiet c.tokens link.2 mark part after) (runLinks c fuel false links mark s)

/-! ### Tokens -/

theorem matchToken_cases (ts : Tokens) (inString isForced : Bool) (t : Terminal) (mark : Nat) (s : Trace ρ) :
    (matchToken ts inString isForced t mark s).2.memo = s.memo ∧
    ∀ tree after, (matchToken ts inString isForced t mark s).1 = .hit tree after →
      ∃ token, ts.tokens[mark]? = some token ∧ t.accepts token = true ∧ tree = tokenTree token ∧ after = mark + 1 := by
  unfold matchToken look
  cases here : ts.tokens[mark]? with
  | none => exact ⟨rfl,fun _ _ same => by cases same⟩
  | some token =>
    dsimp only
    split
    · rename_i accepted
      split
      · exact ⟨rfl,fun _ _ same => by cases same⟩
      · refine ⟨rfl,fun _ _ same => ?_⟩
        cases same
        exact ⟨token,rfl,accepted,rfl,rfl⟩
    · split <;> exact ⟨rfl,fun _ _ same => by cases same⟩

theorem ends_matchToken {s : Trace ρ} (memo : Remembers quiet c.tokens s.memo) (inString isForced : Bool) (t : Terminal)
    (mark : Nat) {p : Peg ρ} (own : p.isSound quiet = true → t.isDef = false) :
    Ends quiet c.tokens (Matches quiet c.tokens p mark) (matchToken c.tokens inString isForced t mark s) := by
  obtain ⟨kept,hits⟩ := matchToken_cases c.tokens inString isForced t mark s
  refine ⟨kept ▸ memo,fun tree after same => ?_⟩
  obtain ⟨token,here,accepted,rfl,rfl⟩ := hits tree after same
  refine ⟨fun sound => ?_,fun _ => functionNodes_tokenTree token⟩
  rw [functionNodes_tokenTree]
  exact .token here ((Terminal.isDef_of_accepts accepted).trans (own sound))

theorem stringTokens_cases (fuel : Nat) (ts : Tokens) (inString : Bool) (read : List Token) (mark : Nat) (s : Trace ρ) :
    (stringTokens fuel ts inString read mark s).2.memo = s.memo ∧
    ∀ tokens after, (stringTokens fuel ts inString read mark s).1 = .ok (tokens,after) → Covers ts [] mark after := by
  induction fuel generalizing read mark s with
  | zero =>
    refine ⟨rfl,fun tokens after same => ?_⟩
    cases same
    exact .nil ts mark
  | succ fuel ih =>
    unfold stringTokens look
    cases here : ts.tokens[mark]? with
    | none => exact ⟨rfl,fun _ _ same => by cases same⟩
    | some token =>
      dsimp only
      split
      · rename_i string
        obtain ⟨kept,covers⟩ := ih (token :: read) (mark+1) { s with looked := max s.looked (mark + 1) }
        refine ⟨kept,fun tokens after same => ?_⟩
        have other : token.isDef = false := by simp [Token.isDef,string]
        exact (Covers.token here other).append (covers tokens after same)
      · refine ⟨rfl,fun tokens after same => ?_⟩
        cases same
        exact .nil ts mark

/-! ### Lists of expressions -/

variable [DecidableEq ρ] {fuel mark start : Nat} {s : Trace ρ}

theorem ends_runSeq (previous : Parses quiet c fuel) (ps : List (Peg ρ)) (isCut : Bool) (parts : List Tree)
    (memo : Remembers quiet c.tokens s.memo) :
    Ends quiet c.tokens (fun tree after => ∃ more, tree = nodeAt c.tokens start .row (parts.reverse ++ more) ∧
      MatchesAll quiet c.tokens ps mark more after) (runSeq c (fuel+1) false ps isCut parts start mark s) := by
  rw [runSeq.eq_def]
  dsimp only
  split
  · refine .of_hit memo ⟨[],by simp,fun _ => .nil c.tokens mark,.nil⟩
  · rename_i rest
    refine (previous.seq rest true (.absent :: parts) start mark s memo).mono ?_
    rintro tree after ⟨more,rfl,matched⟩
    refine ⟨.absent :: more,by simp,fun sound => ?_,.cons (fun _ => rfl) matched.silent⟩
    rw [Tree.functionNodesOf_cons]
    exact matched.covers sound
  · rename_i p rest _
    have first := previous.run p mark s memo
    generalize run c fuel false p mark s = ended at first ⊢
    obtain ⟨outcome,s⟩ := ended
    cases outcome with
    | hit tree mid =>
      have own := first.hit tree mid rfl
      refine (previous.seq rest isCut (tree :: parts) start mid s first.memo).mono ?_
      rintro whole after ⟨more,rfl,matched⟩
      refine ⟨tree :: more,by simp,fun sound => ?_,.cons own.silent matched.silent⟩
      simp only [Peg.areSound,Bool.and_eq_true] at sound
      rw [Tree.functionNodesOf_cons]
      exact (own.covers sound.1).append (matched.covers sound.2)
    | miss alsoCut => exact .of_miss first.memo _
    | stop why isFinal => exact .of_stop first.memo _ _

theorem ends_runChoice (previous : Parses quiet c fuel) (ps : List (Peg ρ)) (memo : Remembers quiet c.tokens s.memo) :
    Ends quiet c.tokens (fun tree after => ∃ p ∈ ps, Matches quiet c.tokens p mark tree after)
      (runChoice c (fuel+1) false ps mark s) := by
  rw [runChoice.eq_def]
  dsimp only
  split
  · exact .of_miss memo false
  · rename_i p rest
    have first := previous.run p mark s memo
    generalize run c fuel false p mark s = ended at first ⊢
    obtain ⟨outcome,s⟩ := ended
    cases outcome with
    | hit tree after => exact .of_hit first.memo ⟨p,List.mem_cons_self,first.hit tree after rfl⟩
    | miss isCut =>
      cases isCut with
      | true => exact .of_miss first.memo false
      | false =>
        refine (previous.choice rest mark s first.memo).mono ?_
        rintro tree after ⟨q,member,matched⟩
        exact ⟨q,List.mem_cons_of_mem p member,matched⟩
    | stop why isFinal => exact .of_stop first.memo _ _

theorem ends_runLinks (previous : Parses quiet c fuel) (links : List (Label × Peg ρ))
    (memo : Remembers quiet c.tokens s.memo) :
    Ends quiet c.tokens (fun tree after => ∃ link ∈ links, ∃ part, tree = nodeAt c.tokens mark link.1 [part] ∧
      Matches quiet c.tokens link.2 mark part after) (runLinks c (fuel+1) false links mark s) := by
  rw [runLinks.eq_def]
  dsimp only
  split
  · exact .of_miss memo false
  · rename_i label p rest
    have first := previous.run p mark s memo
    generalize run c fuel false p mark s = ended at first ⊢
    obtain ⟨outcome,s⟩ := ended
    cases outcome with
    | hit tree after => exact .of_hit first.memo ⟨(label,p),List.mem_cons_self,tree,rfl,first.hit tree after rfl⟩
    | miss isCut =>
      refine (previous.links rest mark s first.memo).mono ?_
      rintro tree after ⟨link,member,matched⟩
      exact ⟨link,List.mem_cons_of_mem _ member,matched⟩
    | stop why isFinal => exact .of_stop first.memo _ _

theorem ends_runChain (previous : Parses quiet c fuel) (links : List (Label × Peg ρ)) (tree : Tree)
    (memo : Remembers quiet c.tokens s.memo) :
    Ends quiet c.tokens (fun longer after =>
      (Peg.linksAreSound quiet links = true → Covers c.tokens tree.functionNodes start mark →
        Covers c.tokens longer.functionNodes start after) ∧
      (Peg.linksAreQuiet quiet links = true → tree.functionNodes = [] → longer.functionNodes = []))
      (runChain c (fuel+1) false links tree start mark s) := by
  rw [runChain.eq_def]
  dsimp only
  have first := previous.links links mark s memo
  generalize runLinks c fuel false links mark s = ended at first ⊢
  obtain ⟨outcome,s⟩ := ended
  cases outcome with
  | hit tree_ mid =>
    obtain ⟨link,member,part,rfl,matched⟩ := first.hit tree_ mid rfl
    obtain ⟨line,column,node⟩ := nodeAt_eq c.tokens mark link.1 [part]
    simp only [node,Tree.label?,Tree.parts,Option.getD_some]
    refine (previous.chain links _ start mid s first.memo).mono ?_
    rintro longer after ⟨covers,silent⟩
    constructor
    · intro sound before
      obtain ⟨other,own⟩ := (Peg.linksAreSound_iff links).mp sound link member
      refine covers sound ?_
      rw [functionNodes_nodeAt c.tokens start other]
      simpa using before.append (matched.covers own)
    · intro quiet none
      obtain ⟨other,own⟩ := (Peg.linksAreQuiet_iff links).mp quiet link member
      refine silent quiet ?_
      rw [functionNodes_nodeAt c.tokens start other]
      simp [none,matched.silent own]
  | miss isCut => exact .of_hit first.memo ⟨fun _ before => before,fun _ none => none⟩
  | stop why isFinal => exact .of_stop first.memo _ _

/-- How a repetition goes on where a separator ended. -/
theorem ends_afterSeparator (previous : Parses quiet c fuel) (separator : Option (Peg ρ)) (p : Peg ρ) (parts : List Tree)
    (ended : Outcome × Trace ρ) :
    Ends quiet c.tokens (fun _ mid =>
      (∀ q ∈ separator, q.isQuiet quiet = true ∧ q.isSound quiet = true) → Covers c.tokens [] mark mid) ended →
    Ends quiet c.tokens (fun tree after => ∃ more, tree = nodeAt c.tokens start .row (parts.reverse ++ more) ∧
      MatchesMany quiet c.tokens separator p mark more after)
      (match ended with
      | (.stop why isFinal,s) => (.stop why isFinal,s)
      | (.miss _,s) => (.hit (nodeAt c.tokens start .row parts.reverse) mark,s)
      | (.hit _ mid,s) =>
        match run c fuel false p mid s with
        | (.stop why isFinal,s) => (.stop why isFinal,s)
        | (.miss _,s) => (.hit (nodeAt c.tokens start .row parts.reverse) mark,s)
        | (.hit tree after,s) =>
          if after ≤ mark then (.hit (nodeAt c.tokens start .row parts.reverse) mark,s)
          else runMany c fuel false separator p (tree :: parts) start after s) := by
  intro between
  have done : ∃ more, nodeAt c.tokens start .row parts.reverse = nodeAt c.tokens start .row (parts.reverse ++ more) ∧
      MatchesMany quiet c.tokens separator p mark more mark :=
    ⟨[],by simp,fun _ _ => .nil c.tokens mark,fun _ => rfl⟩
  obtain ⟨outcome,s⟩ := ended
  cases outcome with
  | miss isCut => exact .of_hit between.memo done
  | stop why isFinal => exact .of_stop between.memo _ _
  | hit tree_ mid =>
    have gap := between.hit tree_ mid rfl
    have item := previous.run p mid s between.memo
    dsimp only
    generalize run c fuel false p mid s = ended at item ⊢
    obtain ⟨outcome,s⟩ := ended
    cases outcome with
    | miss isCut => exact .of_hit item.memo done
    | stop why isFinal => exact .of_stop item.memo _ _
    | hit tree after =>
      have own := item.hit tree after rfl
      dsimp only
      split
      · exact .of_hit item.memo done
      · refine (previous.many separator p (tree :: parts) start after s item.memo).mono ?_
        rintro whole last ⟨more,rfl,matched⟩
        exact ⟨tree :: more,by simp,.cons own matched gap⟩

theorem ends_runMany (previous : Parses quiet c fuel) (separator : Option (Peg ρ)) (p : Peg ρ) (parts : List Tree)
    (memo : Remembers quiet c.tokens s.memo) :
    Ends quiet c.tokens (fun tree after => ∃ more, tree = nodeAt c.tokens start .row (parts.reverse ++ more) ∧
      MatchesMany quiet c.tokens separator p mark more after)
      (runMany c (fuel+1) false separator p parts start mark s) := by
  rw [runMany.eq_def]
  cases separator with
  | none =>
    exact ends_afterSeparator previous none p parts (.hit .absent mark,s) (.of_hit memo fun _ => .nil c.tokens mark)
  | some q =>
    refine ends_afterSeparator previous (some q) p parts _ ((previous.run q mark s memo).mono fun tree mid matched own => ?_)
    obtain ⟨quiet,sound⟩ := own q rfl
    exact matched.silent quiet ▸ matched.covers sound

/-! ### Expressions -/

theorem ends_rule (previous : Parses quiet c fuel) (grammar : c.grammar.IsSound quiet) (r : ρ)
    (memo : Remembers quiet c.tokens s.memo) :
    Ends quiet c.tokens (Matches quiet c.tokens (.rule r) mark) (run c (fuel+1) false (.rule r) mark s) := by
  rw [run.eq_def]
  refine .call memo fun s memo => ?_
  have body : Ends quiet c.tokens (Matches quiet c.tokens (.rule r) mark) (run c fuel false (c.grammar.body r) mark s) :=
    (previous.run (c.grammar.body r) mark s memo).mono fun tree after matched =>
      ⟨fun _ => matched.covers (grammar.sound r),fun own => matched.silent (grammar.quiet r own)⟩
  generalize run c fuel false (c.grammar.body r) mark s = ended at body ⊢
  obtain ⟨outcome,after⟩ := ended
  split
  · split
    · rename_i other tree last found
      obtain rfl : other = r := by simpa using List.find?_some found
      exact .of_hit memo (memo mark other tree last (List.mem_of_find?_eq_some found))
    · exact .of_miss memo false
    · cases outcome with
      | hit tree last =>
        have own := body.hit tree last rfl
        refine .of_hit (body.memo.modify fun tree after same => ?_) own
        cases same
        exact own
      | miss isCut => exact .of_miss (body.memo.modify fun _ _ same => by cases same) false
      | stop why isFinal => exact .of_stop body.memo _ _
  · cases outcome with
    | hit tree last => exact .of_hit body.memo (body.hit tree last rfl)
    | miss isCut => exact .of_miss body.memo false
    | stop why isFinal => exact .of_stop body.memo _ _

/-- A node under another label has the same functions, unless the label is that of functions. -/
theorem ends_label_other (previous : Parses quiet c fuel) {l : Label} (other : l ≠ .function) (p : Peg ρ)
    (memo : Remembers quiet c.tokens s.memo) :
    Ends quiet c.tokens (Matches quiet c.tokens (.label l p) mark) (run c (fuel+1) false (.label l p) mark s) := by
  have sound : Peg.isSound quiet (.label l p) = p.isSound quiet := by
    cases p <;> simp [Peg.isSound,other]
  have silent : Peg.isQuiet quiet (.label l p) = p.isQuiet quiet := by simp [Peg.isQuiet,other]
  have kept {tree labelled : Tree} {after : Nat} (matched : Matches quiet c.tokens p mark tree after)
      (same : labelled.functionNodes = tree.functionNodes) : Matches quiet c.tokens (.label l p) mark labelled after :=
    ⟨fun own => same ▸ matched.covers (sound ▸ own),fun own => same ▸ matched.silent (silent ▸ own)⟩
  have inner := previous.run p mark s memo
  rw [run.eq_def]
  dsimp only
  generalize run c fuel false p mark s = ended at inner ⊢
  obtain ⟨outcome,s⟩ := ended
  split
  · rename_i line column parts after _ same
    cases same
    refine .of_hit inner.memo (kept (inner.hit _ _ rfl) ?_)
    rw [Tree.functionNodes_other other,Tree.functionNodes_other (by decide)]
  · rename_i tree after _ _ same
    cases same
    refine .of_hit inner.memo (kept (inner.hit _ _ rfl) ?_)
    rw [functionNodes_nodeAt c.tokens mark other]
    simp
  · rename_i noHit
    cases outcome with
    | hit tree after => exact (noHit tree after s rfl).elim
    | miss isCut => exact .of_miss inner.memo _
    | stop why isFinal => exact .of_stop inner.memo _ _

/-- Without fuel nothing matches. -/
theorem succ_of_run {special : Bool} {p : Peg ρ} {tree : Tree} {after : Nat} {last : Trace ρ}
    (hit : run c fuel special p mark s = (.hit tree after,last)) : ∃ k, fuel = k + 1 := by
  cases fuel with
  | zero => rw [run.eq_def] at hit; cases hit
  | succ fuel => exact ⟨fuel,rfl⟩

theorem succ_of_runSeq {special isCut : Bool} {ps : List (Peg ρ)} {parts : List Tree} {tree : Tree} {after : Nat}
    {last : Trace ρ} (hit : runSeq c fuel special ps isCut parts start mark s = (.hit tree after,last)) : ∃ k, fuel = k + 1 := by
  cases fuel with
  | zero => rw [runSeq.eq_def] at hit; cases hit
  | succ fuel => exact ⟨fuel,rfl⟩

theorem run_seq (c : Context ρ) (fuel : Nat) (special : Bool) (ps : List (Peg ρ)) (mark : Nat) (s : Trace ρ) :
    run c (fuel+1) special (.seq ps) mark s = runSeq c fuel special ps false [] mark mark s := by
  rw [run.eq_def]

/-- What matches a sequence goes on behind a match of its first expression. -/
theorem runSeq_cons {special isCut : Bool} {p : Peg ρ} {rest : List (Peg ρ)} {parts : List Tree} {tree : Tree} {after : Nat}
    {last : Trace ρ} (hit : runSeq c fuel special (p :: rest) isCut parts start mark s = (.hit tree after,last)) :
    ∃ k own alsoCut mid next, k < fuel ∧ (p = .cut ∨ run c k special p mark s = (.hit own mid,next)) ∧
      runSeq c k special rest alsoCut (own :: parts) start mid next = (.hit tree after,last) := by
  obtain ⟨fuel,rfl⟩ := succ_of_runSeq hit
  rw [runSeq.eq_def] at hit
  dsimp only at hit
  split at hit
  · rename_i nothing
    cases nothing
  · rename_i same
    cases same
    exact ⟨fuel,_,_,_,_,Nat.lt_succ_self fuel,.inl rfl,hit⟩
  · rename_i same
    cases same
    split at hit
    · rename_i own
      exact ⟨fuel,_,_,_,_,Nat.lt_succ_self fuel,.inr own,hit⟩
    · cases hit
    · rename_i noHit _
      exact (noHit _ _ _ hit).elim

/-- A sequence that begins with a token goes on behind it. -/
theorem runSeq_token {special isCut : Bool} {t : Terminal} {rest : List (Peg ρ)} {parts : List Tree} {tree : Tree}
    {after : Nat} {last : Trace ρ}
    (hit : runSeq c fuel special (.token t :: rest) isCut parts start mark s = (.hit tree after,last)) :
    ∃ k token alsoCut next, k < fuel ∧ c.tokens.tokens[mark]? = some token ∧ t.accepts token = true ∧ next.memo = s.memo ∧
      runSeq c k special rest alsoCut (tokenTree token :: parts) start (mark+1) next = (.hit tree after,last) := by
  obtain ⟨k,own,alsoCut,mid,next,less,isCut | taken,behind⟩ := runSeq_cons hit
  · cases isCut
  · obtain ⟨l,rfl⟩ := succ_of_run taken
    rw [run.eq_def] at taken
    obtain ⟨kept,hits⟩ := matchToken_cases c.tokens c.inString false t mark s
    rw [show matchToken c.tokens c.inString false t mark s = (.hit own mid,next) from taken] at kept hits
    obtain ⟨token,here,accepted,rfl,rfl⟩ := hits own mid rfl
    exact ⟨l+1,token,alsoCut,next,less,here,accepted,kept,behind⟩

/-- What begins with the word for functions and a name is a function from that word on, whether or not something stands in
    front of the word. -/
theorem covers_named (previous : ∀ k ≤ fuel, Parses quiet c k) (memo : Remembers quiet c.tokens s.memo) {d : Terminal}
    (isDef : d.isDef = true) {rest : List (Peg ρ)} (sound : Peg.areSound quiet 0 rest = true) {parts : List Tree}
    (leaves : ∀ t ∈ parts, ∃ token, t = .leaf token) {first : Token} (begins : c.tokens.tokens[start]? = some first)
    (keyword : first.kind = .keyword) (front : start = mark ∨ start + 1 = mark ∧ first.text = ("async" : Text))
    {isCut : Bool} {tree : Tree} {after : Nat} {last : Trace ρ}
    (hit : runSeq c fuel false (.token d :: .token .name :: rest) isCut parts start mark s = (.hit tree after,last)) :
    ∃ line column all, tree = .node .row line column all ∧
      Covers c.tokens (Tree.node .function line column all).functionNodes mark after := by
  obtain ⟨k,word,_,next,less,here,accepted,kept,behind⟩ := runSeq_token hit
  obtain ⟨l,n,alsoCut,later,fewer,there,isName,same,behind⟩ := runSeq_token behind
  have ends := (previous l (by omega)).seq rest alsoCut (tokenTree n :: tokenTree word :: parts) start (mark+1+1) later
    (by rwa [same,kept])
  rw [behind] at ends
  obtain ⟨more,rfl,matched⟩ := ends.hit tree after rfl
  rw [nodeAt_of_token begins]
  refine ⟨_,_,_,rfl,?_⟩
  have isWord : word.kind = .keyword := (Terminal.keyword_of_accepts (Terminal.eq_word_of_isDef isDef ▸ accepted)).1
  have named : n.kind = .name := by simpa [Terminal.accepts] using isName
  have split : (tokenTree n :: tokenTree word :: parts).reverse ++ more =
      (parts.reverse ++ [.leaf word]) ++ tokenTree n :: more := by
    simp [tokenTree_of_keyword isWord]
  rw [split]
  refine covers_function here ((Terminal.isDef_of_accepts accepted).trans isDef) there named
    ⟨start,first,begins,keyword,rfl,front⟩ (fun t member => ?_) (matched.covers sound)
  rcases List.mem_append.mp member with old | own
  · exact leaves t (List.mem_reverse.mp old)
  · exact ⟨word,List.mem_singleton.mp own⟩

/-- What matches the expression for a function begins with its head. -/
theorem covers_definition (previous : ∀ k ≤ fuel, Parses quiet c k) {p : Peg ρ} (memo : Remembers quiet c.tokens s.memo)
    (sound : Peg.isSound quiet (.label .function p) = true) {tree : Tree} {after : Nat} {last : Trace ρ}
    (hit : run c fuel false p mark s = (.hit tree after,last)) :
    ∃ line column parts, tree = .node .row line column parts ∧
      Covers c.tokens (Tree.node .function line column parts).functionNodes mark after := by
  obtain ⟨fuel,rfl⟩ := succ_of_run hit
  have earlier : ∀ k ≤ fuel, Parses quiet c k := fun k less => previous k (Nat.le_succ_of_le less)
  obtain ⟨d,rest,isDef,others,rfl | rfl⟩ := Peg.head_of_isSound sound
  · -- The word for functions comes first.
    rw [run_seq] at hit
    obtain ⟨_,word,_,_,_,here,accepted,_,_⟩ := runSeq_token hit
    have keyword := (Terminal.keyword_of_accepts (Terminal.eq_word_of_isDef isDef ▸ accepted)).1
    exact covers_named earlier memo isDef others (by simp) here keyword (.inl rfl) hit
  · -- It comes behind the word `async`.
    rw [run_seq] at hit
    obtain ⟨k,first,_,next,less,here,accepted,kept,behind⟩ := runSeq_token hit
    obtain ⟨keyword,text⟩ := Terminal.keyword_of_accepts accepted
    obtain ⟨line,column,parts,rfl,covers⟩ := covers_named (fun l fewer => earlier l (by omega)) (by rwa [kept]) isDef others
      (by simp [tokenTree_of_keyword keyword]) here keyword (.inr ⟨rfl,text⟩) behind
    have other : first.isDef = false := by
      rw [Token.isDef,text]
      exact Bool.and_eq_false_imp.mpr fun _ => by decide
    exact ⟨line,column,parts,rfl,(Covers.token here other).append covers⟩

/-- A function begins with its head. -/
theorem ends_label_function (previous : ∀ k ≤ fuel, Parses quiet c k) (p : Peg ρ) (memo : Remembers quiet c.tokens s.memo) :
    Ends quiet c.tokens (Matches quiet c.tokens (.label .function p) mark)
      (run c (fuel+1) false (.label .function p) mark s) := by
  have inner := (previous fuel (Nat.le_refl fuel)).run p mark s memo
  rw [run.eq_def]
  dsimp only
  cases ended : run c fuel false p mark s with
  | mk outcome last =>
    rw [ended] at inner
    cases outcome with
    | miss isCut => exact .of_miss inner.memo _
    | stop why isFinal => exact .of_stop inner.memo _ _
    | hit tree after =>
      have own := fun sound => covers_definition previous memo sound ended
      have loud : Peg.isQuiet quiet (.label .function p) = true → False := by simp [Peg.isQuiet]
      split
      · rename_i same
        cases same
        refine .of_hit inner.memo ⟨fun sound => ?_,fun quiet => (loud quiet).elim⟩
        obtain ⟨_,_,_,same,covers⟩ := own sound
        cases same
        exact covers
      · rename_i noRow same
        cases same
        refine .of_hit inner.memo ⟨fun sound => ?_,fun quiet => (loud quiet).elim⟩
        obtain ⟨line,column,parts,rfl,_⟩ := own sound
        exact (noRow line column parts rfl).elim
      · rename_i noHit
        exact (noHit tree after last rfl).elim

theorem ends_seq (previous : Parses quiet c fuel) (ps : List (Peg ρ)) (memo : Remembers quiet c.tokens s.memo) :
    Ends quiet c.tokens (Matches quiet c.tokens (.seq ps) mark) (run c (fuel+1) false (.seq ps) mark s) := by
  rw [run_seq]
  refine (previous.seq ps false [] mark mark s memo).mono ?_
  rintro tree after ⟨parts,rfl,matched⟩
  exact matched.row

theorem ends_choice (previous : Parses quiet c fuel) (ps : List (Peg ρ)) (memo : Remembers quiet c.tokens s.memo) :
    Ends quiet c.tokens (Matches quiet c.tokens (.choice ps) mark) (run c (fuel+1) false (.choice ps) mark s) := by
  rw [run.eq_def]
  refine (previous.choice ps mark s memo).mono ?_
  rintro tree after ⟨p,member,matched⟩
  refine ⟨fun sound => ?_,fun silent => ?_⟩
  · rw [Peg.isSound,Peg.areSound_iff] at sound
    exact matched.covers (sound p member)
  · rw [Peg.isQuiet,Peg.areQuiet_iff] at silent
    exact matched.silent (silent p member)

/-- The part that is kept of what matches. -/
theorem ends_pick (previous : ∀ k ≤ fuel, Parses quiet c k) (n : Nat) (p : Peg ρ) (memo : Remembers quiet c.tokens s.memo) :
    Ends quiet c.tokens (Matches quiet c.tokens (.pick n p) mark) (run c (fuel+1) false (.pick n p) mark s) := by
  have kept : Ends quiet c.tokens (fun tree after => Matches quiet c.tokens (.pick n p) mark (tree.part n) after)
      (run c fuel false p mark s) := by
    cases p with
    | seq ps =>
      cases fuel with
      | zero =>
        rw [run.eq_def]
        exact .of_stop memo _ _
      | succ fuel =>
        rw [run_seq]
        refine ((previous fuel (Nat.le_succ fuel)).seq ps false [] mark mark s memo).mono ?_
        rintro tree after ⟨parts,rfl,matched⟩
        exact matched.pick n
    | _ =>
      refine ((previous fuel (Nat.le_refl fuel)).run _ mark s memo).mono fun tree after matched => ?_
      refine ⟨fun sound => ?_,fun silent => ?_⟩
      · simp [Peg.isSound] at sound
      · exact Tree.functionNodes_part (matched.silent (by rwa [Peg.isQuiet] at silent)) n
  rw [run.eq_def]
  exact kept.bind fun _ _ _ memo matched => .of_hit memo matched

/-- A part of a rule matches what its expression matches. -/
theorem ends_inner (previous : Parses quiet c fuel) (p : Peg ρ) (memo : Remembers quiet c.tokens s.memo) :
    Ends quiet c.tokens (Matches quiet c.tokens (.inner p) mark) (run c (fuel+1) false (.inner p) mark s) := by
  rw [run.eq_def]
  refine .call memo fun s memo => ?_
  have body := previous.run p mark s memo
  generalize run c fuel false p mark s = ended at body ⊢
  obtain ⟨outcome,s⟩ := ended
  cases outcome with
  | hit tree after =>
    have own := body.hit tree after rfl
    exact .of_hit body.memo ⟨fun sound => own.covers (by rwa [Peg.isSound] at sound),
      fun silent => own.silent (by rwa [Peg.isQuiet] at silent)⟩
  | miss isCut => exact .of_miss body.memo _
  | stop why isFinal => exact .of_stop body.memo _ _

/-- What is there once already goes on to be repeated. -/
theorem ends_repeated (previous : Parses quiet c fuel) (separator : Option (Peg ρ)) (p : Peg ρ) {q : Peg ρ}
    (sound : q.isSound quiet = true →
      (∀ r ∈ separator, r.isQuiet quiet = true ∧ r.isSound quiet = true) ∧ p.isSound quiet = true)
    (silent : q.isQuiet quiet = p.isQuiet quiet) {tree : Tree} {mid : Nat} (memo : Remembers quiet c.tokens s.memo)
    (own : Matches quiet c.tokens p mark tree mid) :
    Ends quiet c.tokens (Matches quiet c.tokens q mark) (runMany c fuel false separator p [tree] mark mid s) := by
  refine (previous.many separator p [tree] mark mid s memo).mono ?_
  rintro whole after ⟨more,rfl,matched⟩
  exact (MatchesMany.cons own matched fun _ => .nil c.tokens mark).row sound silent

theorem ends_chain (previous : Parses quiet c fuel) (start : Peg ρ) (links : List (Label × Peg ρ))
    (memo : Remembers quiet c.tokens s.memo) :
    Ends quiet c.tokens (Matches quiet c.tokens (.chain start links) mark)
      (run c (fuel+1) false (.chain start links) mark s) := by
  rw [run.eq_def]
  refine .call memo fun s memo => ?_
  refine (previous.run start mark s memo).bind fun tree mid s memo own => ?_
  refine (previous.chain links tree mark mid s memo).mono fun longer after matched => ⟨fun sound => ?_,fun silent => ?_⟩
  · rw [Peg.isSound,Bool.and_eq_true] at sound
    exact matched.1 sound.2 (own.covers sound.1)
  · rw [Peg.isQuiet,Bool.and_eq_true] at silent
    exact matched.2 silent.2 (own.silent silent.1)

/-- String literals have no functions. -/
theorem ends_literals (memo : Remembers quiet c.tokens s.memo) :
    Ends quiet c.tokens (Matches quiet c.tokens .literals mark) (run c (fuel+1) false .literals mark s) := by
  obtain ⟨kept,covers⟩ := stringTokens_cases (c.tokens.tokens.size + 1) c.tokens c.inString [] mark s
  rw [run.eq_def]
  dsimp only
  generalize stringTokens (c.tokens.tokens.size + 1) c.tokens c.inString [] mark s = read at kept covers ⊢
  obtain ⟨result,s⟩ := read
  have memo : Remembers quiet c.tokens s.memo := by rwa [kept]
  cases result with
  | error why => exact .of_stop memo _ _
  | ok found =>
    obtain ⟨tokens,after⟩ := found
    cases tokens with
    | nil => exact .of_miss memo _
    | cons token rest =>
      dsimp only
      split
      · exact .of_stop memo _ _
      · rename_i values _
        have other : StringValue.label values ≠ .function := by
          unfold StringValue.label
          split
          · exact fun same => by cases same
          · split <;> exact fun same => by cases same
        refine .of_hit memo ⟨fun _ => ?_,fun _ => functionNodes_nodeAt c.tokens mark other []⟩
        rw [functionNodes_nodeAt c.tokens mark other]
        exact covers (token :: rest) after rfl

theorem ends_opt (previous : Parses quiet c fuel) (p : Peg ρ) (memo : Remembers quiet c.tokens s.memo) :
    Ends quiet c.tokens (Matches quiet c.tokens (.opt p) mark) (run c (fuel+1) false (.opt p) mark s) := by
  have inner := previous.run p mark s memo
  rw [run.eq_def]
  dsimp only
  generalize run c fuel false p mark s = ended at inner ⊢
  obtain ⟨outcome,s⟩ := ended
  cases outcome with
  | hit tree after =>
    have own := inner.hit tree after rfl
    exact .of_hit inner.memo ⟨fun sound => own.covers (by rwa [Peg.isSound] at sound),
      fun silent => own.silent (by rwa [Peg.isQuiet] at silent)⟩
  | miss isCut => exact .of_hit inner.memo (.absent c.tokens (.opt p) mark)
  | stop why isFinal => exact .of_stop inner.memo _ _

theorem ends_notAhead (previous : Parses quiet c fuel) (p : Peg ρ) (memo : Remembers quiet c.tokens s.memo) :
    Ends quiet c.tokens (Matches quiet c.tokens (.notAhead p) mark) (run c (fuel+1) false (.notAhead p) mark s) := by
  have inner := previous.run p mark s memo
  rw [run.eq_def]
  dsimp only
  generalize run c fuel false p mark s = ended at inner ⊢
  obtain ⟨outcome,s⟩ := ended
  cases outcome with
  | hit tree after => exact .of_miss inner.memo _
  | miss isCut => exact .of_hit inner.memo (.absent c.tokens (.notAhead p) mark)
  | stop why isFinal => exact .of_stop inner.memo _ _

/-- With one more unit of fuel a run matches what it should. -/
theorem ends_run (previous : ∀ k ≤ fuel, Parses quiet c k) (grammar : c.grammar.IsSound quiet) (p : Peg ρ)
    (memo : Remembers quiet c.tokens s.memo) :
    Ends quiet c.tokens (Matches quiet c.tokens p mark) (run c (fuel+1) false p mark s) := by
  have latest := previous fuel (Nat.le_refl fuel)
  cases p with
  | token t =>
    rw [run.eq_def]
    exact ends_matchToken memo c.inString false t mark fun sound => by simpa [Peg.isSound] using sound
  | forced t =>
    rw [run.eq_def]
    exact ends_matchToken memo c.inString true t mark fun sound => by simpa [Peg.isSound] using sound
  | rule r => exact ends_rule latest grammar r memo
  | inner p => exact ends_inner latest p memo
  | seq ps => exact ends_seq latest ps memo
  | choice ps => exact ends_choice latest ps memo
  | opt p => exact ends_opt latest p memo
  | many p =>
    rw [run.eq_def]
    refine .call memo fun s memo => ?_
    refine (latest.many none p [] mark mark s memo).mono ?_
    rintro tree after ⟨parts,rfl,matched⟩
    refine matched.row (fun sound => ⟨fun _ same => ?_,?_⟩) (by rw [Peg.isQuiet])
    · cases same
    · rwa [Peg.isSound] at sound
  | many1 p =>
    rw [run.eq_def]
    refine .call memo fun s memo => (latest.run p mark s memo).bind fun tree mid s memo own => ?_
    refine ends_repeated latest none p (fun sound => ⟨fun _ same => ?_,?_⟩) (by rw [Peg.isQuiet]) memo own
    · cases same
    · rwa [Peg.isSound] at sound
  | separated separator p =>
    rw [run.eq_def]
    refine .call memo fun s memo => (latest.run p mark s memo).bind fun tree mid s memo own => .call memo fun s memo => ?_
    refine ends_repeated latest (some separator) p (fun sound => ?_) (by rw [Peg.isQuiet]) memo own
    rw [Peg.isSound,Bool.and_eq_true,Bool.and_eq_true] at sound
    exact ⟨fun r same => Option.some.inj same ▸ sound.1,sound.2⟩
  | ahead p =>
    rw [run.eq_def]
    exact (latest.run p mark s memo).bind fun _ _ _ memo _ => .of_hit memo (.absent c.tokens (.ahead p) mark)
  | notAhead p => exact ends_notAhead latest p memo
  | cut =>
    rw [run.eq_def]
    exact .of_hit memo (.absent c.tokens .cut mark)
  | literals => exact ends_literals memo
  | label l p =>
    by_cases function : l = .function
    · subst function
      exact ends_label_function previous p memo
    · exact ends_label_other latest function p memo
  | pick n p => exact ends_pick previous n p memo
  | chain start links => exact ends_chain latest start links memo
  | special p =>
    rw [run.eq_def]
    exact .of_miss memo false
  | ordinary p =>
    rw [run.eq_def]
    exact (latest.run p mark s memo).mono fun tree after matched =>
      ⟨fun sound => matched.covers (by rwa [Peg.isSound] at sound),
        fun silent => matched.silent (by rwa [Peg.isQuiet] at silent)⟩
  | refuse complaint p =>
    rw [run.eq_def]
    refine (latest.run p mark s memo).bind fun tree after s memo _ => ?_
    split
    · exact .of_stop memo _ _
    · exact .of_miss memo _

/-- With any fuel all runs match what they should. -/
theorem parses (grammar : c.grammar.IsSound quiet) (fuel : Nat) : Parses quiet c fuel := by
  induction fuel using Nat.strongRecOn with
  | ind fuel ih =>
    cases fuel with
    | zero =>
      constructor
      · intro p mark s memo
        rw [run.eq_def]
        exact .of_stop memo _ _
      · intro ps isCut parts start mark s memo
        rw [runSeq.eq_def]
        exact .of_stop memo _ _
      · intro ps mark s memo
        rw [runChoice.eq_def]
        exact .of_stop memo _ _
      · intro separator p parts start mark s memo
        rw [runMany.eq_def]
        exact .of_stop memo _ _
      · intro links tree start mark s memo
        rw [runChain.eq_def]
        exact .of_stop memo _ _
      · intro links mark s memo
        rw [runLinks.eq_def]
        exact .of_stop memo _ _
    | succ fuel =>
      have previous : ∀ k ≤ fuel, Parses quiet c k := fun k less => ih k (Nat.lt_succ_of_le less)
      have latest := previous fuel (Nat.le_refl fuel)
      exact {
        run := fun p mark s memo => ends_run previous grammar p memo
        seq := fun ps isCut parts start mark s memo => ends_runSeq latest ps isCut parts memo
        choice := fun ps mark s memo => ends_runChoice latest ps memo
        many := fun separator p parts start mark s memo => ends_runMany latest separator p parts memo
        chain := fun links tree start mark s memo => ends_runChain latest links tree memo
        links := fun links mark s memo => ends_runLinks latest links memo }

end ApiDocs.Source
