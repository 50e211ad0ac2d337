import ApiDocs.Source.Outline
import Mathlib.Data.List.Nodup

/-!
The functions of a tree in the order of the text. A walk that goes breadth first meets the same trees as one in which each
tree comes in front of those inside it (`Tree.walk_perm`). So the functions in their sorted order are those of the second
walk, where that one meets them at places that go up (`Tree.functions_eq`).
-/
namespace ApiDocs.Source

/-- A place in front of another one. -/
def Before (a b : Nat × Nat) : Prop := a.1 < b.1 ∨ a.1 = b.1 ∧ a.2 < b.2

instance (a b : Nat × Nat) : Decidable (Before a b) := inferInstanceAs (Decidable (_ ∨ _))

namespace Tree

mutual

/-- A tree and the trees inside it, each in front of those inside it. -/
def preorder : Tree → List Tree
  | leaf t => [leaf t]
  | node label line column parts => node label line column parts :: preorderOf parts

/-- Several trees and those inside them, one after the other. -/
def preorderOf : List Tree → List Tree
  | [] => []
  | t :: rest => preorder t ++ preorderOf rest

end

/-- The functions in a tree, each in front of those inside it. -/
def functionNodes (t : Tree) : List Tree := t.preorder.filter isFunction

/-- The functions in several trees. -/
def functionNodesOf (ts : List Tree) : List Tree := (preorderOf ts).filter isFunction

/-- The name and the docstring of a function. -/
def definition (t : Tree) : Definition := ⟨t.definedName,t.docstring?⟩

/-! ### Walking -/

theorem preorder_eq (t : Tree) : t.preorder = t :: preorderOf t.parts := by
  cases t with
  | leaf t => rfl
  | node label line column parts => rw [preorder]; rfl

theorem count_eq (t : Tree) : t.count = countOf t.parts + 1 := by
  cases t with
  | leaf t => rfl
  | node label line column parts => rw [count]; rfl

theorem preorderOf_append (ts us : List Tree) : preorderOf (ts ++ us) = preorderOf ts ++ preorderOf us := by
  induction ts with
  | nil => rfl
  | cons t rest ih => simp only [List.cons_append,preorderOf,ih,List.append_assoc]

theorem countOf_append (ts us : List Tree) : countOf (ts ++ us) = countOf ts + countOf us := by
  induction ts with
  | nil => simp [countOf]
  | cons t rest ih => simp only [List.cons_append,countOf,ih,Nat.add_assoc]

@[simp] theorem functionNodesOf_nil : functionNodesOf [] = [] := rfl

@[simp] theorem functionNodesOf_cons (t : Tree) (rest : List Tree) :
    functionNodesOf (t :: rest) = t.functionNodes ++ functionNodesOf rest := by
  simp [functionNodesOf,functionNodes,preorderOf]

@[simp] theorem functionNodesOf_append (ts us : List Tree) :
    functionNodesOf (ts ++ us) = functionNodesOf ts ++ functionNodesOf us := by
  simp [functionNodesOf,preorderOf_append]

@[simp] theorem functionNodes_leaf (t : Token) : (leaf t).functionNodes = [] := rfl

theorem functionNodes_node (label : Label) (line column : Nat) (parts : List Tree) :
    (node label line column parts).functionNodes =
      (if label = .function then [node label line column parts] else []) ++ functionNodesOf parts := by
  rw [functionNodes,preorder,List.filter_cons]
  by_cases function : label = .function <;> simp [isFunction,label?,function,functionNodesOf]

/-- A node that is no function has the functions of its parts. -/
theorem functionNodes_other {label : Label} (other : label ≠ .function) (line column : Nat) (parts : List Tree) :
    (node label line column parts).functionNodes = functionNodesOf parts := by
  rw [functionNodes_node,if_neg other,List.nil_append]

theorem functionNodesOf_eq_nil_iff {ts : List Tree} : functionNodesOf ts = [] ↔ ∀ t ∈ ts, t.functionNodes = [] := by
  induction ts with
  | nil => simp
  | cons t rest ih => simp [ih]

/-- A part of a tree without functions has none either. -/
theorem functionNodes_part {t : Tree} (none : t.functionNodes = []) (n : Nat) : (t.part n).functionNodes = [] := by
  cases t with
  | leaf t => rfl
  | node label line column parts =>
    rw [functionNodes_node,List.append_eq_nil_iff,functionNodesOf_eq_nil_iff] at none
    rw [part,Tree.parts]
    cases there : parts[n]? with
    | none => rfl
    | some part => exact none.2 part (List.mem_of_getElem? there)

/-- With enough fuel a walk meets every tree as often as it is there. -/
theorem walk_perm {fuel : Nat} {ts : List Tree} (enough : countOf ts ≤ fuel) : (walk fuel ts).Perm (preorderOf ts) := by
  induction fuel generalizing ts with
  | zero =>
    cases ts with
    | nil => exact .refl _
    | cons t rest => rw [countOf,count_eq] at enough; omega
  | succ fuel ih =>
    cases ts with
    | nil => exact .refl _
    | cons t rest =>
      have fewer : countOf (rest ++ t.parts) ≤ fuel := by
        rw [countOf,count_eq] at enough
        rw [countOf_append]
        omega
      have others := ih fewer
      rw [preorderOf_append] at others
      rw [walk,preorderOf,preorder_eq,List.cons_append]
      exact (others.trans List.perm_append_comm).cons t

theorem walk_perm_preorder (t : Tree) : (walk t.count [t]).Perm t.preorder := by
  have all : preorderOf [t] = t.preorder := by simp [preorderOf]
  exact all ▸ walk_perm (by simp [countOf])

/-! ### Sorting -/

theorem notBehind_iff (a b : Nat × Nat) : notBehind a b = true ↔ ¬ Before b a := by
  simp only [notBehind,Before,Bool.or_eq_true,Bool.and_eq_true,decide_eq_true_eq,beq_iff_eq]
  omega

theorem insertByPlace_perm (t : Tree) (ts : List Tree) : (insertByPlace t ts).Perm (t :: ts) := by
  induction ts with
  | nil => exact .refl _
  | cons u rest ih =>
    rw [insertByPlace]
    split
    · exact .refl _
    · exact (ih.cons u).trans (.swap t u rest)

theorem sortByPlace_perm (ts : List Tree) : (sortByPlace ts).Perm ts := by
  induction ts with
  | nil => exact .refl _
  | cons t rest ih => exact (insertByPlace_perm t _).trans (ih.cons t)

theorem insertByPlace_sorted (t : Tree) {ts : List Tree} (sorted : ts.Pairwise fun a b => ¬ Before b.place a.place) :
    (insertByPlace t ts).Pairwise fun a b => ¬ Before b.place a.place := by
  induction ts with
  | nil => exact List.pairwise_singleton _ t
  | cons u rest ih =>
    obtain ⟨first,others⟩ := List.pairwise_cons.mp sorted
    rw [insertByPlace]
    split
    · rename_i front
      rw [notBehind_iff] at front
      refine List.pairwise_cons.mpr ⟨List.forall_mem_cons.mpr ⟨front,fun v member behind => ?_⟩,sorted⟩
      have later := first v member
      unfold Before at *
      omega
    · rename_i behind
      rw [notBehind_iff,not_not] at behind
      refine List.pairwise_cons.mpr ⟨fun v member => ?_,ih others⟩
      rcases List.mem_cons.mp ((insertByPlace_perm t rest).mem_iff.mp member) with rfl | among
      · unfold Before at *
        omega
      · exact first v among

theorem sortByPlace_sorted (ts : List Tree) : (sortByPlace ts).Pairwise fun a b => ¬ Before b.place a.place := by
  induction ts with
  | nil => exact .nil
  | cons t rest ih => exact insertByPlace_sorted t ih

/-- Trees at places that go up are what comes of sorting them, in whatever order they were. -/
theorem sortByPlace_eq {ts us : List Tree} (same : ts.Perm us) (rising : us.Pairwise fun a b => Before a.place b.place) :
    sortByPlace ts = us := by
  have kept : (sortByPlace ts).Perm us := (sortByPlace_perm ts).trans same
  have distinct : (us.map place).Nodup := List.pairwise_map.mpr (rising.imp fun before equal => by
    unfold Before at before
    rw [equal] at before
    omega)
  have sorted : us.Pairwise fun a b => ¬ Before b.place a.place := rising.imp fun before behind => by
    unfold Before at *
    omega
  refine kept.eq_of_pairwise (fun a b first second notBehind notBefore => ?_) (sortByPlace_sorted ts) sorted
  refine List.inj_on_of_nodup_map distinct (kept.mem_iff.mp first) second (Prod.ext ?_ ?_)
  all_goals
    unfold Before at *
    omega

/-- The functions of a tree are those of the second walk, where it meets them at places that go up. -/
theorem functions_eq {t : Tree} (rising : t.functionNodes.Pairwise fun a b => Before a.place b.place) :
    t.functions = t.functionNodes.map definition := by
  have same : ((walk t.count [t]).filter isFunction).Perm t.functionNodes := t.walk_perm_preorder.filter _
  rw [functions,sortByPlace_eq same rising]
  rfl

end Tree

end ApiDocs.Source
