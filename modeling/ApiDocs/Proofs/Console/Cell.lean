import ApiDocs.Console.Cell
import ApiDocs.Text.Blank
import Mathlib.Data.List.Basic

/-!
Cells and pieces. The beginning of a text takes no more cells than the text, and where a blank stands the cells of both sides
add up (`width_append_blank`); a sign of ASCII takes one (`width_of_ascii`). What is cut out of a text comes from it but for
blanks (`flatten_pieces`, `countP_fit`).
-/
namespace ApiDocs.Console

/-! ### Cells -/

/-- A sign in front can only add cells to what follows. -/
theorem widthFrom_none_le (isJoined : Bool) (last : Option Nat) (t : Text) :
    widthFrom isJoined none t ≤ widthFrom isJoined last t := by
  induction t generalizing isJoined last with
  | nil => exact Nat.le_refl _
  | cons c rest ih =>
    simp only [widthFrom]
    split
    · exact ih _ _
    · split
      · exact ih _ _
      · split
        · exact Nat.add_le_add_right (Nat.zero_le _) _
        · split
          · exact ih _ _
          · exact Nat.le_refl _

theorem widthFrom_append_le (isJoined : Bool) (last : Option Nat) (t u : Text) :
    widthFrom isJoined last t ≤ widthFrom isJoined last (t ++ u) := by
  induction t generalizing isJoined last with
  | nil => exact Nat.zero_le _
  | cons c rest ih =>
    simp only [List.cons_append,widthFrom]
    split
    · exact ih _ _
    · split
      · exact ih _ _
      · split
        · exact Nat.add_le_add_left (ih _ _) _
        · split
          · exact ih _ _
          · exact Nat.add_le_add_left (ih _ _) _

/-- The beginning of a text takes no more cells than the text. -/
theorem width_append_le (t u : Text) : width t ≤ width (t ++ u) := widthFrom_append_le _ _ _ _

/-- Nothing in front of a blank but the sign that takes cells changes what stands behind it. -/
theorem widthFrom_append_blank {c : Nat} (blank : isBlank c = true) (isJoined : Bool) (last : Option Nat) (t u : Text) :
    widthFrom isJoined last (t ++ [c]) + width u ≤ widthFrom isJoined last (t ++ c :: u) := by
  have others : c ≠ joiner ∧ c ≠ emojiSelector := by
    constructor
    all_goals
      rintro rfl
      revert blank
      decide
  induction t generalizing isJoined last with
  | nil =>
    simp only [List.nil_append,widthFrom,others.1,others.2,if_false,width]
    split
    · simpa using widthFrom_none_le false last u
    · split
      · simpa using widthFrom_none_le false last u
      · simpa using widthFrom_none_le false (some c) u
  | cons x rest ih =>
    simp only [List.cons_append,widthFrom]
    split
    · exact ih _ _
    · split
      · exact ih _ _
      · split
        · rw [Nat.add_assoc]
          exact Nat.add_le_add_left (ih _ _) _
        · split
          · exact ih _ _
          · rw [Nat.add_assoc]
            exact Nat.add_le_add_left (ih _ _) _

/-- Where a blank stands the cells of both sides add up. -/
theorem width_append_blank {c : Nat} (blank : isBlank c = true) (t u : Text) :
    width (t ++ [c]) + width u ≤ width (t ++ c :: u) := widthFrom_append_blank blank _ _ _ _

/-- A text of printable ASCII takes a cell for each of its code points. -/
theorem width_of_ascii {t : Text} (ascii : ∀ c ∈ t, 0x20 ≤ c ∧ c ≤ 0x7E) : width t = t.length := by
  have step (last : Option Nat) : widthFrom false last t = t.length := by
    induction t generalizing last with
    | nil => rfl
    | cons c rest ih =>
      obtain ⟨⟨low,high⟩,later⟩ := List.forall_mem_cons.mp ascii
      have others : c ≠ joiner ∧ c ≠ emojiSelector := by
        unfold joiner emojiSelector
        omega
      have single : pointWidth c = 1 := by
        rw [pointWidth,if_neg (by simp; omega),if_pos (by omega)]
      simp only [widthFrom,others.1,others.2,single,ih later,List.length_cons]
      simp [Nat.add_comm]
  exact step none

/-! ### Pieces -/

/-- The clusters of a text, one after the other, are the text. -/
theorem flatMap_clusters (t : Text) : (clusters t).flatMap Cluster.text = t := by
  have step (isJoined : Bool) (last : Option Nat) (found : List Cluster) (t : Text) :
      (clustersFrom isJoined last found t).reverse.flatMap Cluster.text = found.reverse.flatMap Cluster.text ++ t := by
    fun_induction clustersFrom isJoined last found t <;> simp_all
  exact step false none [] t

/-- The pieces of a text, one after the other, are the text, or what is left of it without cells it does not take. -/
theorem flatten_pieces (n : Nat) (t : Text) : List.Sublist (pieces n t).flatten t := by
  have step (line : Text) (used : Nat) (ks : List Cluster) :
      List.Sublist (piecesFrom n line used ks).flatten (line ++ ks.flatMap Cluster.text) := by
    induction ks generalizing line used with
    | nil =>
      unfold piecesFrom
      split <;> simp
    | cons k rest ih =>
      unfold piecesFrom
      split
      · exact (ih k.text k.width).append_left line
      · simpa using ih (line ++ k.text) (used + k.width)
  have whole := step [] 0 (clusters t)
  rwa [List.nil_append,flatMap_clusters] at whole

/-- What fits a number of cells comes from the text, but for blanks. -/
theorem countP_fit {p : Nat → Bool} (blank : p 0x20 = false) (n : Nat) (t : Text) : (fit n t).countP p ≤ t.countP p := by
  have first (n : Nat) (ks : List Cluster) : (firstCells n ks).countP p ≤ (ks.flatMap Cluster.text).countP p := by
    fun_induction firstCells n ks with
    | case1 | case2 => exact Nat.zero_le _
    | case3 n k rest fits ih =>
      rw [List.countP_append,List.flatMap_cons,List.countP_append]
      exact Nat.add_le_add_left ih _
    | case4 => simp [blank]
  unfold fit
  split
  · exact Nat.zero_le _
  · split
    · exact Nat.le_refl _
    · split
      · simp [Text.repeated,blank,List.countP_replicate]
      · have whole := first n (clusters t)
        rwa [flatMap_clusters] at whole

end ApiDocs.Console
