import ApiDocs.Proofs.Source.Parser
import ApiDocs.Proofs.Source.Walk

/-!
The functions of a module. The tree of a text covers all its tokens (`covers_parse`). So its functions stand where the words
`def` of the text are, at places that go up, and the outline has them in the order of their tree (`definitions_ok`).
-/
namespace ApiDocs.Source

/-! ### Modules -/

theorem moduleGrammar_isSound : moduleGrammar.IsSound Rule.isQuiet := ⟨Rule.body_isSound,Rule.body_isQuiet⟩

theorem remembers_empty {ρ : Type} (quiet : ρ → Bool) (ts : Tokens) (n : Nat) :
    Remembers quiet ts (Array.replicate n []) := by
  intro mark r tree after member
  rw [Array.getElem?_replicate] at member
  split at member <;> cases member

/-- What a run matches, with nothing remembered before, is what it should match. -/
theorem matches_of_run {ρ : Type} [DecidableEq ρ] {quiet : ρ → Bool} {c : Context ρ} (grammar : c.grammar.IsSound quiet)
    {fuel mark n after : Nat} {p : Peg ρ} {tree : Tree} {last : Trace ρ}
    (hit : run c fuel false p mark { memo := Array.replicate n [] } = (.hit tree after,last)) :
    Matches quiet c.tokens p mark tree after := by
  have ends := (parses grammar fuel).run p mark { memo := Array.replicate n [] } (remembers_empty quiet c.tokens n)
  rw [hit] at ends
  exact ends.hit tree after rfl

/-- What is parsed is what the first run matches. -/
theorem parseTokens_ok {ρ : Type} [DecidableEq ρ] {g : Grammar ρ} {fuel nesting : Nat} {inString : Bool} {r : ρ} {ts : Tokens}
    {tree : Tree} (parsed : parseTokens g fuel nesting inString r ts = .ok tree) :
    ∃ c after last, c.grammar = g ∧ c.tokens = ts ∧
      run c fuel false (.rule r) 0 { memo := Array.replicate (ts.tokens.size+1) [] } = (.hit tree after,last) := by
  cases nesting with
  | zero =>
    rw [parseTokens] at parsed
    cases parsed
  | succ nesting =>
    rw [parseTokens] at parsed
    split at parsed
    · rename_i ended
      cases parsed
      exact ⟨_,_,_,rfl,rfl,ended⟩
    · cases parsed
    · split at parsed <;> cases parsed

/-- What a call matches its body matches. -/
theorem body_of_call {ρ : Type} {s last : Trace ρ} {body : Trace ρ → Outcome × Trace ρ} {tree : Tree} {after : Nat}
    (hit : call s body = (.hit tree after,last)) :
    ∃ s last, body s = (.hit tree after,last) := by
  unfold call at hit
  split at hit
  · cases hit
  · generalize ended : body { s with calls := s.calls + 1 } = result at hit
    obtain ⟨outcome,after⟩ := result
    cases hit
    exact ⟨_,_,ended⟩

section
variable {ρ : Type} [DecidableEq ρ] {c : Context ρ} {fuel mark after : Nat} {special : Bool} {s last : Trace ρ}
  {tree : Tree}

/-- What matches a rule that is not remembered matches its expression. -/
theorem run_rule {r : ρ} (fresh : c.grammar.isMemo r = false)
    (hit : run c fuel special (.rule r) mark s = (.hit tree after,last)) :
    ∃ k s last, run c k special (c.grammar.body r) mark s = (.hit tree after,last) := by
  obtain ⟨fuel,rfl⟩ := succ_of_run hit
  rw [run.eq_def] at hit
  obtain ⟨s,last,hit⟩ := body_of_call hit
  simp only [fresh,Bool.false_eq_true,↓reduceIte] at hit
  refine ⟨fuel,s,last,?_⟩
  generalize run c fuel special (c.grammar.body r) mark s = ended at hit ⊢
  obtain ⟨outcome,s⟩ := ended
  cases outcome with
  | hit own mid => exact hit
  | miss isCut => cases hit
  | stop why isFinal => cases hit

theorem run_pick {n : Nat} {ps : List (Peg ρ)}
    (hit : run c fuel special (.pick n (.seq ps)) mark s = (.hit tree after,last)) :
    ∃ k whole, runSeq c k special ps false [] mark mark s = (.hit whole after,last) := by
  obtain ⟨fuel,rfl⟩ := succ_of_run hit
  rw [run.eq_def] at hit
  dsimp only at hit
  generalize ended : run c fuel special (.seq ps) mark s = result at hit
  obtain ⟨outcome,s⟩ := result
  cases outcome with
  | hit whole mid =>
    cases hit
    obtain ⟨fuel,rfl⟩ := succ_of_run ended
    exact ⟨fuel,whole,(run_seq c fuel special ps mark _).symm.trans ended⟩
  | miss isCut => cases hit
  | stop why isFinal => cases hit

end

/-- A module ends with the token for the end. -/
theorem run_file {c : Context Rule} (grammar : c.grammar = moduleGrammar) {fuel mark after : Nat} {s last : Trace Rule}
    {tree : Tree} (hit : run c fuel false (.rule .file) mark s = (.hit tree after,last)) :
    ∃ i token, c.tokens.tokens[i]? = some token ∧ token.kind = .finish ∧ after = i + 1 := by
  obtain ⟨k,_,_,body⟩ := run_rule (by rw [grammar]; rfl) hit
  rw [grammar] at body
  obtain ⟨_,_,sequence⟩ := run_pick body
  obtain ⟨_,_,_,i,_,_,_,behind⟩ := runSeq_cons sequence
  obtain ⟨m,token,_,_,_,here,accepted,_,ends⟩ := runSeq_token behind
  refine ⟨i,token,here,by simpa [Terminal.accepts] using accepted,?_⟩
  obtain ⟨m,rfl⟩ := succ_of_runSeq ends
  rw [runSeq.eq_def] at ends
  cases ends
  rfl

/-! ### Places -/

/-- The function that is defined at a later word begins at a later place. -/
theorem DefinedAt.before {ts : Tokens} (inOrder : InOrder ts.tokens.toList) {i j : Nat} {f g : Tree}
    (first : DefinedAt ts i f) (second : DefinedAt ts j g) (less : i < j) {word : Token} (here : ts.tokens[i]? = some word)
    (isDef : word.isDef = true) :
    Before f.place g.place := by
  obtain ⟨a,t,atA,keyword,place,front⟩ := first.place
  obtain ⟨b,u,atB,later,behind,near⟩ := second.place
  -- The word `async` of the later function is not the word that the earlier one is defined with.
  have apart : a < b := by
    have further : b ≠ i := by
      rintro rfl
      rcases near with rfl | ⟨_,text⟩
      · omega
      · obtain rfl : u = word := Option.some.inj (atB.symm.trans here)
        rw [Token.isDef,text,Bool.and_eq_true] at isDef
        exact absurd isDef.2 (by decide)
    omega
  rw [place,behind]
  rw [← Array.getElem?_toList,List.getElem?_eq_some_iff] at atA atB
  obtain ⟨inA,rfl⟩ := atA
  obtain ⟨inB,rfl⟩ := atB
  exact List.pairwise_iff_getElem.mp inOrder.rising a b inA inB apart keyword later

theorem defs_ascending (ts : Tokens) (lo hi : Nat) : (defs ts lo hi).Pairwise (· < ·) :=
  List.Pairwise.filter _ List.pairwise_lt_range'

theorem isDef_of_mem_defs {ts : Tokens} {lo hi i : Nat} (member : i ∈ defs ts lo hi) :
    ∃ word, ts.tokens[i]? = some word ∧ word.isDef = true := by
  simpa [Option.any_eq_true] using (List.mem_filter.mp member).2

/-- Functions that are defined at all words between two marks stand at places that go up. -/
theorem Covers.rising {ts : Tokens} (inOrder : InOrder ts.tokens.toList) {lo hi : Nat} {fs : List Tree}
    (covers : Covers ts fs lo hi) : fs.Pairwise fun f g => Before f.place g.place := by
  obtain ⟨same,each⟩ := List.forall₂_iff_get.mp covers.each
  refine List.pairwise_iff_getElem.mpr fun i j inI inJ less => ?_
  obtain ⟨word,here,isDef⟩ := isDef_of_mem_defs (List.getElem_mem (same ▸ inI))
  exact (each i (same ▸ inI) inI).before inOrder (each j (same ▸ inJ) inJ)
    (List.pairwise_iff_getElem.mp (defs_ascending ts lo hi) i j _ _ less) here isDef

/-- The functions of a module are those that its words define, one for each. -/
theorem covers_parse {t : Text} {tree : Tree} (parsed : parse moduleGrammar .file t = .ok tree) :
    Covers (lex 1 t) tree.functionNodes 0 (lex 1 t).tokens.size := by
  obtain ⟨c,after,last,grammar,tokens,hit⟩ := parseTokens_ok parsed
  have covers := (matches_of_run (grammar ▸ moduleGrammar_isSound) hit).covers (by rw [Peg.isSound])
  obtain ⟨i,token,here,finish,rfl⟩ := run_file grammar hit
  have inOrder : InOrder c.tokens.tokens.toList := tokens ▸ inOrder_lex 1 t
  have size : i + 1 = c.tokens.tokens.size := inOrder.finish_last (by rwa [Array.getElem?_toList]) finish
  exact tokens ▸ size ▸ covers

/-- The functions in the outline of a module are those of its tree in the order of a walk that comes to each function in
    front of those inside it. -/
theorem definitions_ok {t : Text} {ds : List Definition} (outlined : definitions t = .ok ds) :
    ∃ tree, parse moduleGrammar .file t = .ok tree ∧ ds = tree.functionNodes.map Tree.definition := by
  unfold definitions at outlined
  split at outlined
  · cases outlined
  · rename_i tree parsed
    split at outlined
    · cases outlined
    · cases outlined
      exact ⟨tree,parsed,Tree.functions_eq ((covers_parse parsed).rising (inOrder_lex 1 t))⟩

end ApiDocs.Source
