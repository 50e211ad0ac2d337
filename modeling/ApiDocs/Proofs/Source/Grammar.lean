import ApiDocs.Source.Grammar

/-!
Where functions are in a grammar. An expression is quiet when no match of it has a function in it, and sound when a match of
it keeps every function: the word that functions are defined with is nowhere but in front of their names, and where only a
part of a match is kept, the others are quiet. The grammar of modules is sound (`Rule.body_isSound`).
-/
namespace ApiDocs.Source

variable {ρ : Type}

/-- The terminal is the word that a function is defined with. -/
def Terminal.isDef : Terminal → Bool
  | .word w => w == ("def" : Text)
  | _ => false

namespace Peg

section
variable (quiet : ρ → Bool)

mutual

/-- What matches has no function in it, if that is so for the rules that are called quiet. -/
def isQuiet : Peg ρ → Bool
  | .token _ | .forced _ | .ahead _ | .notAhead _ | .cut | .literals | .special _ | .refuse _ _ => true
  | .rule r => quiet r
  | .seq ps | .choice ps => areQuiet ps
  | .opt p | .many p | .many1 p | .separated _ p | .inner p | .pick _ p | .ordinary p => isQuiet p
  | .label l p => l ≠ .function && isQuiet p
  | .chain start links => isQuiet start && linksAreQuiet links

/-- So it is for several expressions. -/
def areQuiet : List (Peg ρ) → Bool
  | [] => true
  | p :: rest => isQuiet p && areQuiet rest

/-- So it is for the links of a chain. -/
def linksAreQuiet : List (Label × Peg ρ) → Bool
  | [] => true
  | (l,p) :: rest => l ≠ .function && isQuiet p && linksAreQuiet rest

end

/-- All but one of several expressions are quiet. -/
def othersAreQuiet : Nat → List (Peg ρ) → Bool
  | _, [] => true
  | 0, _ :: rest => areQuiet quiet rest
  | n+1, p :: rest => isQuiet quiet p && othersAreQuiet n rest

/-- How many of several expressions are the head of a function: those up to its name. -/
def headLength? : List (Peg ρ) → Option Nat
  | .token d :: .token .name :: _ => if d.isDef then some 2 else none
  | .token (.word w) :: .token d :: .token .name :: _ => if w == ("async" : Text) && d.isDef then some 3 else none
  | _ => none

mutual

/-- The word that a function is defined with is nowhere but in the head of a function, and no function is left out of
    what is kept of a match. -/
def isSound : Peg ρ → Bool
  | .token t | .forced t => !t.isDef
  | .rule _ | .ahead _ | .notAhead _ | .cut | .literals | .special _ | .refuse _ _ => true
  | .seq ps => areSound 0 ps
  | .choice ps => areSound 0 ps
  | .opt p | .many p | .many1 p | .inner p | .ordinary p => isSound p
  | .separated q p => isQuiet quiet q && isSound q && isSound p
  | .label l (.seq ps) =>
    if l = .function then
      match headLength? ps with
      | some n => areSound n ps
      | none => false
    else areSound 0 ps
  | .label l p => l ≠ .function && isSound p
  | .pick n (.seq ps) => areSound 0 ps && othersAreQuiet quiet n ps
  | .pick _ _ => false
  | .chain start links => isSound start && linksAreSound links

/-- So it is for several expressions, of which some in front are passed over. -/
def areSound : Nat → List (Peg ρ) → Bool
  | _, [] => true
  | 0, p :: rest => isSound p && areSound 0 rest
  | n+1, _ :: rest => areSound n rest

/-- So it is for the links of a chain. -/
def linksAreSound : List (Label × Peg ρ) → Bool
  | [] => true
  | (l,p) :: rest => l ≠ .function && isSound p && linksAreSound rest

end

end

variable {quiet : ρ → Bool}

theorem areSound_iff (ps : List (Peg ρ)) : areSound quiet 0 ps = true ↔ ∀ p ∈ ps, p.isSound quiet = true := by
  induction ps with
  | nil => simp [areSound]
  | cons p rest ih => simp [areSound,ih]

theorem areQuiet_iff (ps : List (Peg ρ)) : areQuiet quiet ps = true ↔ ∀ p ∈ ps, p.isQuiet quiet = true := by
  induction ps with
  | nil => simp [areQuiet]
  | cons p rest ih => simp [areQuiet,ih]

theorem linksAreSound_iff (links : List (Label × Peg ρ)) :
    linksAreSound quiet links = true ↔ ∀ link ∈ links, link.1 ≠ .function ∧ link.2.isSound quiet = true := by
  induction links with
  | nil => simp [linksAreSound]
  | cons link rest ih => simp [linksAreSound,ih]

theorem linksAreQuiet_iff (links : List (Label × Peg ρ)) :
    linksAreQuiet quiet links = true ↔ ∀ link ∈ links, link.1 ≠ .function ∧ link.2.isQuiet quiet = true := by
  induction links with
  | nil => simp [linksAreQuiet]
  | cons link rest ih => simp [linksAreQuiet,ih]

/-- What is sound under the label of functions begins with the head of a function. -/
theorem head_of_isSound {p : Peg ρ} (sound : (Peg.label .function p).isSound quiet = true) :
    ∃ d rest, d.isDef = true ∧ areSound quiet 0 rest = true ∧
      (p = .seq (.token d :: .token .name :: rest) ∨
        p = .seq (.token (.word "async") :: .token d :: .token .name :: rest)) := by
  cases p with
  | seq ps =>
    simp only [isSound,↓reduceIte] at sound
    unfold headLength? at sound
    split at sound
    · rename_i count _ head
      split at head
      · rename_i d rest
        split at head
        · rename_i isDef
          cases head
          exact ⟨d,rest,isDef,sound,.inl rfl⟩
        · cases head
      · rename_i w d rest _
        split at head
        · rename_i isHead
          cases head
          obtain ⟨isAsync,isDef⟩ := Bool.and_eq_true_iff.mp isHead
          exact ⟨d,rest,isDef,sound,.inr (by rw [beq_iff_eq.mp isAsync])⟩
        · cases head
      · cases head
    · cases sound
  | _ => simp [isSound] at sound

end Peg

namespace Rule

/-- The rules for what functions can be in. -/
def isQuiet : Rule → Bool
  | file | statements | statement | compound | block | classDefinition | classBody | functionDefinition | functionBody
  | ifStatement | elifBranch | elseBranch | whileStatement | forStatement | withStatement | tryStatement | exceptBranch
  | exceptStarBranch | finallyBranch | matchStatement | caseBranch => false
  | _ => true

theorem body_isSound (r : Rule) : (body r).isSound isQuiet = true := by
  cases r <;> rfl

theorem body_isQuiet (r : Rule) (quiet : r.isQuiet = true) : (body r).isQuiet isQuiet = true := by
  cases r <;> first | rfl | cases quiet

end Rule

end ApiDocs.Source
