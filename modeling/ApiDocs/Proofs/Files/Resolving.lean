import ApiDocs.Proofs.Files.Listing
import Mathlib.Data.List.Forall2

/-!
What the places of a scan are resolved to. A place where something stands that is no link is resolved to itself, whatever
links there are elsewhere (`resolve_of_at?`). Places are resolved one after the other (`resolveSome_ok_iff`), and a limit
takes the first of them (`resolveSome_limit`).
-/
namespace ApiDocs

open Node

/-- Below a link there is nothing but the link. -/
theorem Node.at?_link {target : Text} {place : Place} {m : Node} (found : (link target).at? place = some m) :
    m = link target := by
  cases place with
  | nil => exact (Option.some.inj found).symm
  | cons name rest => cases found

namespace Files

variable {fs : Files}

/-! ### Ways without links -/

section Way

variable {here : Place} {n m : Node} {names : List Text}

/-- Names are followed without a link to what stands under them, unless one of them is too long. -/
theorem stretch_of_at? (found : n.at? names = some m) (noLink : ∀ target, m ≠ .link target)
    (spelled : ∀ name ∈ names, name ≠ aroundName) :
    ∃ r, fs.stretch true here n names = .reached r ∧ r ≠ .nowhere .tooManyLinks := by
  induction names generalizing here n with
  | nil => exact ⟨_,rfl,by rintro ⟨⟩⟩
  | cons name rest ih =>
    obtain ⟨child,own,inner⟩ := Option.bind_eq_some_iff.mp found
    obtain ⟨down,others⟩ := List.forall_mem_cons.mp spelled
    cases n with
    | directory entries =>
      rw [stretch,if_neg down,own]
      split
      · exact ⟨_,rfl,by rintro ⟨⟩⟩
      · cases child with
        | link target => exact absurd (at?_link inner) (noLink target)
        | _ => exact ih inner others
    | _ => cases own

theorem resolveNames_of_at? (found : fs.root.at? (here ++ names) = some m) (noLink : ∀ target, m ≠ .link target)
    (spelled : ∀ name ∈ names, IsName name) (known : Known) {fuel : Nat} (enough : names.length < fuel) :
    fs.resolveNames fuel here names known = ((here ++ names,true),known) := by
  induction names generalizing here fuel with
  | nil =>
    obtain ⟨fuel,rfl⟩ := Nat.exists_eq_add_of_lt enough
    rw [List.append_nil]
    rfl
  | cons name rest ih =>
    obtain ⟨fuel,rfl⟩ := Nat.exists_eq_add_one_of_ne_zero (Nat.ne_zero_of_lt enough)
    have later : rest.length < fuel := by simpa using enough
    obtain ⟨isName,others⟩ := List.forall_mem_cons.mp spelled
    have below : here.step name = here ++ [name] := if_pos isName.leadsDown
    rw [List.append_cons] at found ⊢
    rw [resolveNames,below,isName.leadsDown]
    dsimp only
    rw [Bool.not_true,if_neg Bool.false_ne_true]
    split
    · rename_i target link
      rw [at?_append,link] at found
      exact absurd (at?_link found) (noLink target)
    · exact ih found others later

end Way

/-- Nothing is dropped where there are no points. -/
theorem withoutPoints_eq_self {place : Place} (spelled : ∀ name ∈ place, IsName name) : withoutPoints place = place := by
  have kept (done : Place) : lexical done place = done ++ place := by
    induction place generalizing done with
    | nil => simp [lexical]
    | cons name rest ih =>
      obtain ⟨isName,others⟩ := List.forall_mem_cons.mp spelled
      have later := ih others (done ++ [name])
      simpa [lexical,Place.step,isName.leadsDown] using later
  exact kept []

/-- A place where something stands that is no link is resolved to itself. -/
theorem resolve_of_at? (sound : fs.root.IsSound) {place : Place} {m : Node} (found : fs.root.at? place = some m)
    (noLink : ∀ target, m ≠ .link target) : fs.resolve ⟨1,place⟩ = .ok place := by
  have spelled := sound.spelled found
  have named : ∀ name ∈ place, IsName name := fun name member => (spelled name member).1
  have allowed : checkPath (nullMessage "lstat") ⟨1,place⟩ = .ok () :=
    checkPath_of_points _ (points_toText fun name member => (spelled name member).2)
  have way : fs.resolveNames (place.length+fs.root.linkWeight+1) [] place [] = ((place,true),[]) :=
    resolveNames_of_at? found noLink named [] (by omega)
  have noLoop : fs.follow true ⟨1,place⟩ ≠ .nowhere .tooManyLinks := by
    obtain ⟨r,reached,noLoop⟩ : ∃ r, fs.stretch true [] fs.root place = .reached r ∧ r ≠ .nowhere .tooManyLinks :=
      stretch_of_at? found noLink fun name member => (named name member).notAround
    rw [follow,reach]
    split
    · rintro ⟨⟩
    · show fs.followNames true false maxLinks false [] place ≠ _
      rw [followNames_reached (rfl : fs.root.at? [] = _) reached]
      exact noLoop
  unfold resolve
  rw [allowed]
  dsimp only
  rw [show fs.resolveNames _ (Path.origin fs.working ⟨1,place⟩) place [] = ((place,true),[]) from way]
  dsimp only
  rw [withoutPoints_eq_self named]
  split
  · contradiction
  · rfl

/-! ### One place after the other -/

/-- All places are resolved, each to one. -/
theorem resolveSome_ok_iff (matched places : List Place) :
    fs.resolveSome none matched = .ok places ↔
      List.Forall₂ (fun entry place => fs.resolve ⟨1,entry⟩ = .ok place) matched places := by
  induction matched generalizing places with
  | nil =>
    rw [List.forall₂_nil_left_iff,resolveSome]
    exact ⟨fun run => (Except.ok.inj run).symm,fun none => none ▸ rfl⟩
  | cons entry rest ih =>
    rw [resolveSome,List.forall₂_cons_left_iff]
    constructor
    · intro run
      split at run
      · cases run
      · rename_i place resolved
        obtain ⟨more,later,rfl⟩ := map_eq_ok run
        exact ⟨place,more,resolved,(ih more).mp later,rfl⟩
    · rintro ⟨place,more,resolved,later,rfl⟩
      rw [resolved]
      dsimp only
      rw [Option.any_none,Option.map_none,(ih more).mpr later]
      rfl

/-- What stops the first places stops all of them. -/
theorem resolveSome_append_error {first : List Place} {e : ResolveError} (stopped : fs.resolveSome none first = .error e)
    (more : List Place) : fs.resolveSome none (first ++ more) = .error e := by
  induction first with
  | nil => cases stopped
  | cons entry rest ih =>
    rw [resolveSome] at stopped
    rw [List.cons_append,resolveSome]
    split
    · rename_i f failed
      rw [failed] at stopped
      exact stopped
    · rename_i place resolved
      rw [resolved] at stopped
      cases later : fs.resolveSome none rest with
      | ok places =>
        simp [later,Except.map] at stopped
      | error f =>
        simp only [Option.any_none,Bool.false_eq_true,if_false,Option.map_none,later,Except.map] at stopped
        cases stopped
        simp [ih later,Except.map]

/-- With a limit only so many places are resolved, and always the first one. -/
theorem resolveSome_limit (fs : Files) (n : Nat) (matched : List Place) :
    fs.resolveSome (some n) matched = fs.resolveSome none (matched.take (max n 1)) := by
  induction matched generalizing n with
  | nil => rw [List.take_nil,resolveSome,resolveSome]
  | cons entry rest ih =>
    obtain ⟨k,atLeast⟩ : ∃ k, max n 1 = k+1 := ⟨max n 1-1,by omega⟩
    rw [atLeast,List.take_succ_cons,resolveSome,resolveSome]
    cases fs.resolve ⟨1,entry⟩ with
    | error e => rfl
    | ok place =>
      by_cases last : n ≤ 1
      · have none : k = 0 := by omega
        have reached : ((some (n : Int)).any (· ≤ 1)) = true := by simpa using (by omega : (n : Int) ≤ 1)
        simp only [reached,if_true]
        rw [none,List.take_zero]
        rfl
      · obtain ⟨l,rfl⟩ : ∃ l, n = l+1 := ⟨n-1,by omega⟩
        have further : ((some ((l+1 : Nat) : Int)).any (· ≤ 1)) = false := by simpa using (by omega : ¬ ((l : Int)+1) ≤ 1)
        have less : (some ((l+1 : Nat) : Int)).map (· - 1) = some (l : Int) := by simp
        have same : max l 1 = k := by omega
        simp only [further,less,Bool.false_eq_true,if_false,Option.any_none,Option.map_none]
        rw [ih l,same]

end Files

end ApiDocs
