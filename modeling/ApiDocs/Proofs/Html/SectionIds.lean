import ApiDocs.Proofs.Html.Tags
import Mathlib.Data.List.Forall2

/-!
The ids of the sections of a page. In a page the sections are opened by the template alone, so a reader finds the escaped id
of every key in order (`sectionIds_page`). An escape is read in one way (`escape_injective`), so two sections have the same id
exactly when their keys are the same but for blanks and hyphens (`sectionId_eq_iff`).
-/
namespace ApiDocs

namespace Html

/-! ### Ids -/

/-- Texts that are the same but for blanks in the one where there are hyphens in the other. -/
def SameButBlanks (t u : Text) : Prop :=
  List.Forall₂ (fun a b => a = b ∨ (a = 0x20 ∧ b = 0x2D) ∨ (a = 0x2D ∧ b = 0x20)) t u

/-- An id has a hyphen for each blank. -/
theorem sectionId_eq_map (key : Text) : sectionId key = key.map fun c => if c = 0x20 then 0x2D else c := by
  rw [sectionId,Text.substitute,List.map_eq_flatMap]
  refine List.flatMap_congr fun c _ => ?_
  split_ifs <;> rfl

/-- Two keys give the same id when they are the same but for blanks and hyphens. -/
theorem sectionId_eq_iff (key other : Text) : sectionId key = sectionId other ↔ SameButBlanks key other := by
  rw [sectionId_eq_map,sectionId_eq_map,← List.forall₂_eq_eq_eq,List.forall₂_map_left_iff,List.forall₂_map_right_iff]
  have sign (a b : Nat) : ((if a = 0x20 then 0x2D else a) = if b = 0x20 then 0x2D else b) ↔
      a = b ∨ (a = 0x20 ∧ b = 0x2D) ∨ (a = 0x2D ∧ b = 0x20) := by
    split_ifs <;> omega
  simp only [sign]
  rfl

instance (key other : Text) : Decidable (SameButBlanks key other) :=
  decidable_of_iff (sectionId key = sectionId other) (sectionId_eq_iff key other)

/-! ### Escapes are read in one way -/

/-- The signs that do not stand in a page as they are. -/
def escaped : Text := [0x26,0x3C,0x3E,0x22,0x27]

theorem escapePoint_plain {c : Nat} (plain : c ∉ escaped) : escapePoint c = [c] := by
  simp only [escaped,List.mem_cons,List.not_mem_nil,or_false,not_or] at plain
  simp [escapePoint,plain]

/-- No escape goes on with another one, and each begins with an ampersand. -/
theorem escapePoint_escaped : ∀ a ∈ escaped, (escapePoint a).head? = some 0x26 ∧
    ∀ b ∈ escaped, escapePoint a <+: escapePoint b → a = b := by
  decide

/-- What a sign stands as tells the sign, whatever comes behind it. -/
theorem escapePoint_append_inj {a b : Nat} {t u : Text} (same : escapePoint a ++ t = escapePoint b ++ u) :
    a = b ∧ t = u := by
  have other {a b : Nat} {t u : Text} (special : a ∈ escaped) (plain : b ∉ escaped) :
      escapePoint a ++ t ≠ escapePoint b ++ u := by
    intro same
    have first := congrArg List.head? same
    rw [escapePoint_plain plain,List.head?_append,(escapePoint_escaped a special).1] at first
    obtain rfl : 0x26 = b := Option.some.inj first
    exact plain (by decide)
  by_cases special : a ∈ escaped <;> by_cases specialToo : b ∈ escaped
  · obtain rfl : a = b := by
      rcases List.prefix_or_prefix_of_prefix (List.prefix_append (escapePoint a) t) (same ▸ List.prefix_append _ u) with first | first
      · exact (escapePoint_escaped a special).2 b specialToo first
      · exact ((escapePoint_escaped b specialToo).2 a special first).symm
    exact ⟨rfl,List.append_cancel_left same⟩
  · exact absurd same (other special specialToo)
  · exact absurd same.symm (other specialToo special)
  · rw [escapePoint_plain special,escapePoint_plain specialToo] at same
    exact List.cons.inj same

theorem escapePoint_ne_nil (c : Nat) : escapePoint c ≠ [] := by
  unfold escapePoint
  split_ifs
  iterate 5 decide
  exact List.cons_ne_nil _ _

theorem escape_injective : Function.Injective escape := by
  intro t
  induction t with
  | nil =>
    rintro (_ | ⟨d,u⟩) same
    · rfl
    · exact absurd (List.append_eq_nil_iff.mp same.symm).1 (escapePoint_ne_nil d)
  | cons c rest ih =>
    rintro (_ | ⟨d,u⟩) same
    · exact absurd (List.append_eq_nil_iff.mp same).1 (escapePoint_ne_nil c)
    · obtain ⟨rfl,later⟩ := escapePoint_append_inj (same : escapePoint c ++ escape rest = escapePoint d ++ escape u)
      rw [ih later]

/-! ### Reading the ids of a page -/

/-- What opens a section, up to the quotation mark in front of its id. -/
def sectionOpening : Text := "<section id=\""

/-- The ids of the sections in a page: what stands in quotation marks wherever a section is opened. -/
def sectionIds : Text → List Text
  | [] => []
  | c :: rest =>
    if sectionOpening <+: c :: rest then
      ((c :: rest).drop sectionOpening.length).takeWhile (· ≠ 0x22) :: sectionIds rest
    else sectionIds rest

/-- Nothing in a text begins as the opening of a section does, whatever comes behind the text: no angle stands last or in
    front of a small s. -/
def opensNone : Text → Bool
  | [] => true
  | c :: rest => (c != 0x3C || rest.head?.any (· != 0x73)) && opensNone rest

/-- What begins with anything but an angle and a small s opens no section. -/
theorem not_opening {c : Nat} {rest : Text} (other : (c != 0x3C || rest.head?.any (· != 0x73)) = true) (u : Text) :
    ¬ sectionOpening <+: c :: (rest ++ u) := by
  intro opens
  obtain ⟨rfl,behind⟩ := List.cons_prefix_cons.mp (opens : 0x3C :: 0x73 :: sectionOpening.drop 2 <+: c :: (rest ++ u))
  cases rest with
  | nil => cases other
  | cons d more =>
    obtain ⟨rfl,_⟩ := List.cons_prefix_cons.mp behind
    cases other

/-- A text that opens no section is passed by. -/
theorem sectionIds_append {t : Text} (none : opensNone t = true) (u : Text) : sectionIds (t ++ u) = sectionIds u := by
  induction t with
  | nil => rfl
  | cons c rest ih =>
    obtain ⟨other,later⟩ := Bool.and_eq_true_iff.mp none
    rw [List.cons_append,sectionIds,if_neg (not_opening other u)]
    exact ih later

theorem opensNone_append {t u : Text} (first : opensNone t = true) (second : opensNone u = true) :
    opensNone (t ++ u) = true := by
  induction t with
  | nil => exact second
  | cons c rest ih =>
    obtain ⟨other,later⟩ := Bool.and_eq_true_iff.mp first
    refine Bool.and_eq_true_iff.mpr ⟨?_,ih later⟩
    cases rest with
    | nil => simpa using (Bool.or_eq_true_iff.mp other).imp_right fun none => absurd none (by simp)
    | cons d more => exact other

theorem opensNone_flatMap {α : Type} {f : α → Text} (each : ∀ a, opensNone (f a) = true) (as : List α) :
    opensNone (as.flatMap f) = true := by
  induction as with
  | nil => rfl
  | cons a rest ih => exact opensNone_append (each a) ih

/-- Where there is no angle no section is opened. -/
theorem opensNone_of_not_mem {t : Text} (plain : 0x3C ∉ t) : opensNone t = true := by
  induction t with
  | nil => rfl
  | cons c rest ih =>
    rw [List.mem_cons,not_or] at plain
    simp [opensNone,Ne.symm plain.1,ih plain.2]

theorem opensNone_escape (t : Text) : opensNone (escape t) = true := opensNone_of_not_mem (not_mem_escape (by decide) t)

theorem opensNone_script (v : Value) : opensNone (script v) = true := opensNone_of_not_mem (not_mem_script (by decide) v)

theorem opensNone_parameterTable (ps : List Parameter) : opensNone (parameterTable ps) = true := by
  have row (p : Parameter) : opensNone (parameterRow p) = true := by
    have answer : opensNone (if p.required then "yes" else "no" : Text) = true := by split <;> rfl
    unfold parameterRow
    repeat' apply opensNone_append
    all_goals first | exact opensNone_escape _ | exact answer | rfl
  unfold parameterTable
  split
  · rfl
  · exact opensNone_append (opensNone_append rfl (opensNone_flatMap row ps)) rfl

theorem opensNone_sample (r : Response) : opensNone (sample r) = true := by
  have status : opensNone (Text.ofInt r.status) = true := escape_ofInt r.status ▸ opensNone_escape _
  exact opensNone_append (opensNone_append (opensNone_append (opensNone_append rfl status) rfl) (opensNone_script _)) rfl

theorem opensNone_responseType (t : Text) : opensNone (responseType t) = true := by
  unfold responseType
  split
  · rfl
  · exact opensNone_append (opensNone_append rfl (opensNone_escape t)) rfl

/-- Behind the opening of a section its id is read up to the next quotation mark. -/
theorem sectionIds_opening (key u : Text) :
    sectionIds (("\n  <section id=\"" : Text) ++ (escape key ++ 0x22 :: u)) = escape key :: sectionIds (0x22 :: u) := by
  have read (v : Text) : sectionIds (("\n  <section id=\"" : Text) ++ v) = v.takeWhile (· ≠ 0x22) :: sectionIds v := rfl
  have inside : ∀ c ∈ escape key, decide (c ≠ 0x22) = true := by
    intro c member
    refine decide_eq_true ?_
    rintro rfl
    exact not_mem_escape (by decide) key member
  rw [read,sectionIds_append (opensNone_escape key),List.takeWhile_append_of_pos inside,List.takeWhile_cons_of_neg (by simp),
    List.append_nil]

/-- A section opens with its id, and no other section is opened in it. -/
theorem exists_endpoint_eq (key : Text) (e : Endpoint) : ∃ rest, opensNone rest = true ∧ endpoint key e =
    ("\n  <section id=\"" : Text) ++ (escape (sectionId key) ++ (("\">\n    <h2><code>" : Text) ++ rest)) := by
  refine ⟨_,?_,by simp only [endpoint,List.append_assoc]; rfl⟩
  repeat' apply opensNone_append
  all_goals first
    | exact opensNone_escape _
    | exact opensNone_responseType _
    | exact opensNone_parameterTable _
    | exact opensNone_flatMap opensNone_sample _
    | rfl

theorem sectionIds_endpoint (key : Text) (e : Endpoint) (u : Text) :
    sectionIds (endpoint key e ++ u) = escape (sectionId key) :: sectionIds u := by
  obtain ⟨rest,none,whole⟩ := exists_endpoint_eq key e
  have behind : opensNone (("\">\n    <h2><code>" : Text) ++ rest) = true := opensNone_append rfl none
  rw [whole,List.append_assoc,List.append_assoc]
  refine (sectionIds_opening (sectionId key) _).trans ?_
  exact congrArg _ (sectionIds_append behind u)

/-- The ids of a page are those of the keys, in order. -/
theorem sectionIds_page (s : Snapshot) : sectionIds (page s) = s.map fun (key,_) => escape (sectionId key) := by
  have sections (u : Text) : sectionIds ((s.flatMap fun (key,e) => endpoint key e) ++ u) =
      (s.map fun (key,_) => escape (sectionId key)) ++ sectionIds u := by
    induction s with
    | nil => rfl
    | cons entry rest ih =>
      rw [List.flatMap_cons,List.append_assoc,sectionIds_endpoint,ih]
      rfl
  have opening : opensNone (("<!DOCTYPE html>\n<html lang=\"en\">\n<head>\n  <meta charset=\"utf-8\">\n" : Text) ++
      ("  <title>API documentation</title>\n</head>\n<body>\n" : Text) ++ ("  <h1>API documentation</h1>\n  " : Text)) = true := by
    decide
  have ending : sectionIds ("\n</body>\n</html>" : Text) = [] := by decide
  rw [page,List.append_assoc,sectionIds_append opening,sections,ending,List.append_nil]

/-- The sections of a page have different ids when no two keys are the same but for blanks and hyphens. -/
theorem nodup_sectionIds_page_iff (s : Snapshot) :
    (sectionIds (page s)).Nodup ↔ s.Pairwise fun a b => ¬ SameButBlanks a.1 b.1 := by
  rw [sectionIds_page,List.Nodup,List.pairwise_map]
  simp only [ne_eq,escape_injective.eq_iff,sectionId_eq_iff]

end Html

namespace Snapshot

/-- What is documented of a snapshot has the same keys. -/
theorem keys_documented {s w : Snapshot} (run : s.documented = .ok w) : w.map (·.1) = s.map (·.1) := by
  refine map_eachDocumented ?_ run
  intro entry written whole
  obtain ⟨e,_,rfl⟩ := map_eq_ok whole
  rfl

/-- A rendered page has the ids of its keys, in order, and they are different when no two keys are the same but for blanks
    and hyphens. -/
theorem sectionIds_render {s : Snapshot} {b : Bytes} (rendered : s.render .html = .ok b) :
    ∃ page, Utf8.encode page = .ok b ∧
      Html.sectionIds page = (s.map (·.1)).map (fun key => Html.escape (Html.sectionId key)) ∧
      ((Html.sectionIds page).Nodup ↔ (s.map (·.1)).Pairwise fun key other => ¬ Html.SameButBlanks key other) := by
  obtain ⟨w,documented,encoded⟩ := encode_of_render rendered
  refine ⟨Html.page w,encoded,?_,?_⟩
  · rw [Html.sectionIds_page,← keys_documented documented,List.map_map]
    rfl
  · rw [Html.nodup_sectionIds_page_iff,← keys_documented documented,List.pairwise_map]

end Snapshot

end ApiDocs
