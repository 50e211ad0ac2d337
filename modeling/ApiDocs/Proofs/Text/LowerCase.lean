import ApiDocs.Text.LowerCase
import Mathlib.Data.List.Basic

/-!
Small letters. A small ASCII letter is no capital of the table, so it is kept (`lower_of_small`).
-/
namespace ApiDocs

namespace Text

/-- A literal in ASCII is its octets, one code point each. -/
theorem ofString_of_ascii {s : String} (ascii : ∀ b ∈ s.toByteArray.data.toList, b < 128) :
    ofString s = s.toByteArray.data.toList.map UInt8.toNat := by
  obtain ⟨cs,rfl⟩ : ∃ cs, s = String.ofList cs := ⟨s.toList,String.ofList_toList.symm⟩
  simp only [String.toByteArray_ofList,List.utf8Encode,List.data_toByteArray] at ascii ⊢
  rw [ofString,String.toList_ofList]
  induction cs with
  | nil => rfl
  | cons c rest ih =>
    simp only [List.flatMap_cons,List.forall_mem_append] at ascii
    have single : String.utf8EncodeChar c = [UInt8.ofNat c.toNat] ∧ c.toNat < 128 := by
      -- The first octet of a longer encoding is not in ASCII.
      have first := ascii.1
      unfold String.utf8EncodeChar at first ⊢
      simp only [Char.toNat] at first ⊢
      split_ifs at first ⊢ with one two three
      · exact ⟨rfl,by omega⟩
      all_goals
        have lead := (List.forall_mem_cons.mp first).1
        rw [UInt8.lt_iff_toNat_lt,UInt8.toNat_ofNat'] at lead
        simp at lead
        omega
    rw [List.flatMap_cons,single.1,List.map_append,List.map_cons,ih ascii.2]
    simp [Nat.mod_eq_of_lt (show c.toNat < 256 by omega)]

end Text

/-- A line of the table is in ASCII, and none of its ranges has small ASCII letters in it. -/
def sparesSmall (octets : Bytes) : Bool :=
  octets.all (fun b => Nat.blt b.toNat 0x80) && (Text.splitOn 0x20 (octets.map UInt8.toNat)).all fun entry =>
    Nat.blt (CapitalRange.ofEntry entry).range.last 0x61 || Nat.blt 0x7A (CapitalRange.ofEntry entry).range.first

/-- No range of the table has small ASCII letters in it. -/
theorem capitalRanges_outside : ∀ r ∈ capitalRanges, r.range.last < 0x61 ∨ 0x7A < r.range.first := by
  have lines : ∀ line ∈ capitalTable, sparesSmall line.toByteArray.data.toList = true := by decide +kernel
  refine List.forall_mem_flatMap.mpr fun line member => List.forall_mem_map.mpr fun entry among => ?_
  have spares := lines line member
  simp only [sparesSmall,Bool.and_eq_true,List.all_eq_true,Nat.blt_eq,Bool.or_eq_true] at spares
  obtain ⟨ascii,outside⟩ := spares
  rw [Text.ofString_of_ascii fun b own => UInt8.lt_iff_toNat_lt.mpr (ascii b own)] at among
  exact outside entry among

theorem lowerPoint_of_small {c : Nat} (small : 0x61 ≤ c ∧ c ≤ 0x7A) : lowerPoint c = c := by
  have none : capitalRanges.find? (·.covers c) = none := by
    refine List.find?_eq_none.mpr fun r member => ?_
    have apart := capitalRanges_outside r member
    simp only [CapitalRange.covers,Bool.and_eq_true,decide_eq_true_eq]
    omega
  rw [lowerPoint,none]

/-- Small letters are kept. -/
theorem Text.lower_of_small {t : Text} (small : ∀ c ∈ t, 0x61 ≤ c ∧ c ≤ 0x7A) : t.lower = t := by
  rw [lower,List.map_congr_left fun c member => lowerPoint_of_small (small c member),List.map_id']

end ApiDocs
