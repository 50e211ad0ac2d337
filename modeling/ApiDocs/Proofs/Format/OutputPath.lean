import ApiDocs.Format
import ApiDocs.Proofs.Text.Lines

/-!
The paths that documentation is written to. A path as texts spell it is read back (`Path.ofText_toText`), and what is added
to a text is added to the last of its names, which is empty behind a slash (`Path.getLast?_namesOf_append`). So a path has a suffix
of its format unless there was no name to add one to (`Format.outputPath_suffixed`).
-/
namespace ApiDocs

namespace Path

/-! ### Spelling -/

/-- A path as texts spell it: at most two slashes at its beginning, and names that count. -/
structure IsNormal (p : Path) : Prop where
  slashes : p.slashes ≤ 2
  counts : ∀ name ∈ p.names, name ≠ [] ∧ name ≠ [0x2E]
  noSlash : ∀ name ∈ p.names, 0x2F ∉ name

/-- A slash divides the names. -/
theorem namesOf_append (t u : Text) : namesOf (t ++ 0x2F :: u) = namesOf t ++ namesOf u := by
  rw [namesOf,Text.splitOn_append,List.filter_append]
  rfl

theorem namesOf_slashes (n : Nat) (t : Text) : namesOf (Text.repeated n 0x2F ++ t) = namesOf t := by
  induction n with
  | zero => rfl
  | succ n ih => exact (namesOf_append [] (Text.repeated n 0x2F ++ t)).trans ih

theorem namesOf_single {name : Text} (counts : name ≠ [] ∧ name ≠ [0x2E]) (noSlash : 0x2F ∉ name) :
    namesOf name = [name] := by
  simp [namesOf,Text.splitOn_of_not_mem noSlash,counts]

theorem isNormal_ofText (t : Text) : (ofText t).IsNormal := by
  refine ⟨?_,fun name member => ?_,fun name member => Text.not_mem_of_mem_splitOn (List.mem_filter.mp member).1⟩
  · unfold ofText
    dsimp only
    split <;> omega
  · simpa using (List.mem_filter.mp member).2

namespace IsNormal

variable {p q : Path}

theorem join (first : p.IsNormal) (second : q.IsNormal) : (p.join q).IsNormal := by
  unfold Path.join
  split
  · exact second
  · exact ⟨first.slashes,List.forall_mem_append.mpr ⟨first.counts,second.counts⟩,
      List.forall_mem_append.mpr ⟨first.noSlash,second.noSlash⟩⟩

/-- No slash stands in front of the names. -/
theorem head?_join (normal : p.IsNormal) : ∀ c ∈ (Text.join [0x2F] p.names).head?, c ≠ 0x2F := by
  intro c first same
  cases named : p.names with
  | nil => rw [named] at first; cases first
  | cons name rest =>
    have member : name ∈ p.names := named ▸ List.mem_cons_self
    obtain ⟨x,more,rfl⟩ := List.exists_cons_of_ne_nil (normal.counts name member).1
    have begins : x = c := by
      rw [named] at first
      cases rest with
      | nil => simpa using first
      | cons second others => simpa [Text.join_cons_cons] using first
    exact normal.noSlash _ member (begins ▸ same ▸ List.mem_cons_self)

theorem namesOf_join (normal : p.IsNormal) : namesOf (Text.join [0x2F] p.names) = p.names := by
  cases named : p.names with
  | nil => rfl
  | cons name rest =>
    have filled : p.names ≠ [] := by simp [named]
    have counted : p.names.filter (fun name => !name.isEmpty && name != [0x2E]) = p.names :=
      List.filter_eq_self.mpr fun name member => by simpa using normal.counts name member
    rw [← named,namesOf,Text.splitOn_join filled normal.noSlash,counted]

/-- The spelling of a path is read back. -/
theorem ofText_toText (normal : p.IsNormal) : ofText p.toText = p := by
  obtain ⟨slashes,names⟩ := p
  unfold toText
  split
  · rename_i here
    obtain ⟨rfl,none⟩ := here
    cases List.isEmpty_iff.mp none
    rfl
  · have begins : (Text.repeated slashes 0x2F ++ Text.join [0x2F] names).takeWhile (· == 0x2F) =
        Text.repeated slashes 0x2F := by
      have stops : (Text.join [0x2F] names).takeWhile (· == 0x2F) = [] := by
        have other := normal.head?_join
        cases spelled : Text.join [0x2F] names with
        | nil => rfl
        | cons c rest =>
          rw [spelled] at other
          exact List.takeWhile_cons_of_neg (by simpa using other c rfl)
      rw [List.takeWhile_append_of_pos (fun c member => by simpa using List.eq_of_mem_replicate member),stops,
        List.append_nil]
    have few : ¬ 2 < slashes := Nat.not_lt.mpr normal.slashes
    rw [ofText,begins,namesOf_slashes,normal.namesOf_join]
    simp [Text.repeated,few]

end IsNormal

theorem join_nowhere (p : Path) : (⟨0,[]⟩ : Path).join p = p := by
  unfold join
  split
  · rfl
  · rename_i relative
    have none : p.slashes = 0 := by simpa [isAbsolute] using relative
    rw [← none]
    rfl

/-! ### The last name -/

/-- What stands behind the last slash of a text. -/
def lastPart (t : Text) : Text := ((Text.splitOn 0x2F t).getLast?).getD []

theorem lastPart_of_not_mem {t : Text} (noSlash : 0x2F ∉ t) : lastPart t = t := by
  rw [lastPart,Text.splitOn_of_not_mem noSlash]
  rfl

theorem lastPart_append (t u : Text) : lastPart (t ++ 0x2F :: u) = lastPart u := by
  cases split : Text.splitOn 0x2F u with
  | nil => exact absurd split (Text.splitOn_ne_nil 0x2F u)
  | cons part parts => simp [lastPart,Text.splitOn_append,split,List.getLast?_cons]

/-- Nothing stands behind the last slash of a text that is empty or ends with one. -/
theorem lastPart_eq_nil (t : Text) : lastPart t = [] ↔ ∀ c ∈ t.getLast?, c = 0x2F := by
  induction t using Text.cutInduction (· == 0x2F) with
  | last l whole =>
    have noSlash : 0x2F ∉ l := fun inside => by simpa using whole _ inside
    rw [lastPart_of_not_mem noSlash]
    rcases List.eq_nil_or_concat l with rfl | ⟨before,c,rfl⟩
    · simp
    · have other : c ≠ 0x2F := fun same => noSlash (by simp [same])
      simp [other]
  | more l c u whole ends ih =>
    rw [beq_iff_eq.mp ends,lastPart_append,ih]
    cases u <;> simp [List.getLast?_cons]

/-- What is added to a text is added to its last name. -/
theorem getLast?_namesOf_append (t : Text) {ending : Text} (long : 2 ≤ ending.length) (noSlash : 0x2F ∉ ending) :
    (namesOf (t ++ ending)).getLast? = some (lastPart t ++ ending) := by
  induction t using Text.cutInduction (· == 0x2F) with
  | last l whole =>
    have own : 0x2F ∉ l := fun inside => by simpa using whole _ inside
    have counts {name : Text} (short : name.length ≤ 1) : l ++ ending ≠ name := fun same => by
      have size := congrArg List.length same
      rw [List.length_append] at size
      omega
    rw [lastPart_of_not_mem own,namesOf_single ⟨counts (by simp),counts (by simp)⟩ (by simp [own,noSlash])]
    rfl
  | more l c u whole ends ih =>
    rw [beq_iff_eq.mp ends,lastPart_append,List.append_assoc,List.cons_append,namesOf_append,List.getLast?_append,ih]
    rfl

theorem IsNormal.lastPart_toText {p : Path} (normal : p.IsNormal) (named : p.names ≠ []) : lastPart p.toText = p.name := by
  obtain ⟨front,name,spelled⟩ := List.eq_nil_or_concat p.names |>.resolve_left named
  rw [List.concat_eq_append] at spelled
  have own : lastPart name = name := lastPart_of_not_mem (normal.noSlash name (by simp [spelled]))
  have isNamed : ¬ (p.slashes = 0 ∧ p.names.isEmpty) := by simp [named]
  have last : p.name = name := by simp [Path.name,spelled]
  rw [toText,if_neg isNamed,last,spelled,Text.join_concat]
  split
  · cases p.slashes with
    | zero => exact own
    | succ n =>
      have slashes : Text.repeated (n + 1) 0x2F ++ ([] ++ name) = Text.repeated n 0x2F ++ 0x2F :: name := by
        simp [Text.repeated,List.replicate_succ']
      rw [slashes,lastPart_append,own]
  · have divided : Text.repeated p.slashes 0x2F ++ (Text.join [0x2F] front ++ [0x2F] ++ name) =
        (Text.repeated p.slashes 0x2F ++ Text.join [0x2F] front) ++ 0x2F :: name := by simp
    rw [divided,lastPart_append,own]

/-! ### Suffixes -/

/-- A point and what is added behind it are the suffix of a name, unless the name was empty. -/
theorem suffixOf_append (name : Text) {ending : Text} (filled : ending ≠ []) (noPoint : 0x2E ∉ ending) :
    suffixOf (name ++ 0x2E :: ending) = if name = [] then [] else 0x2E :: ending := by
  have solid : ∀ c ∈ ending.reverse, decide (c ≠ 0x2E) = true := fun c member => by
    have inside : c ∈ ending := List.mem_reverse.mp member
    exact decide_eq_true fun same => noPoint (same ▸ inside)
  have tail : ((name ++ 0x2E :: ending).reverse.takeWhile (· ≠ 0x2E)).reverse = ending := by
    rw [List.reverse_append,List.reverse_cons,List.append_assoc,List.takeWhile_append_of_pos solid,List.singleton_append,
      List.takeWhile_cons_of_neg (by simp),List.append_nil,List.reverse_reverse]
  rw [suffixOf,tail]
  cases name with
  | nil => simp
  | cons c rest => simp [filled]; omega

end Path

namespace Format

open ApiDocs.Path

theorem hasSuffix_nil (format : Format) : format.hasSuffix [] = false := by cases format <;> decide

/-- A format's own suffix is a point and something behind it. -/
theorem exists_suffix (format : Format) : ∃ ending, format.suffixes.1 = 0x2E :: ending ∧ ending ≠ [] ∧ 0x2E ∉ ending ∧
    0x2F ∉ ending ∧ format.hasSuffix (0x2E :: ending) = true := by
  cases format <;> exact ⟨_,rfl,by decide,by decide,by decide,by decide⟩

/-- No suffix belongs to two formats. -/
theorem eq_of_hasSuffix {format other : Format} {t : Text} (own : format.hasSuffix t = true)
    (too : other.hasSuffix t = true) : format = other := by
  have apart : ∀ format other : Format, ∀ suffix ∈ format.suffixes.1 :: format.suffixes.2,
      suffix ∈ other.suffixes.1 :: other.suffixes.2 → format = other := by
    intro format other
    cases format <;> cases other <;> decide
  exact apart format other _ (List.contains_iff_mem.mp own) (List.contains_iff_mem.mp too)

/-- There is no name that the suffix of the format could be added to: the text is empty or ends with a slash, and has no
    suffix of the format in front of that. -/
def LacksName (format : Format) (name : Text) : Prop :=
  format.hasSuffix (ofText name).suffix = false ∧ ∀ c ∈ name.getLast?, c = 0x2F

instance (format : Format) (name : Text) : Decidable (format.LacksName name) := inferInstanceAs (Decidable (_ ∧ _))

variable {format : Format} {name : Text}

/-- The last name of a text with a suffix of the format, which is added unless there is one. -/
theorem getLast?_fileName (format : Format) (name : Text) :
    (namesOf (format.fileName name)).getLast? = some (ofText (format.fileName name)).name ∧
      (format.hasSuffix (ofText name).suffix = false →
        (ofText (format.fileName name)).name = lastPart name ++ format.suffixes.1) := by
  unfold fileName
  by_cases own : format.hasSuffix (ofText name).suffix = true
  · rw [if_pos own]
    refine ⟨?_,by simp [own]⟩
    cases names : namesOf name with
    | nil =>
      have none : (ofText name).suffix = [] := by simp [Path.suffix,Path.name,ofText,names,suffixOf]
      rw [none,hasSuffix_nil] at own
      cases own
    | cons first rest => simp [Path.name,ofText,names,List.getLast?_cons]
  · rw [if_neg own]
    obtain ⟨ending,spelled,filled,_,noSlash,_⟩ := format.exists_suffix
    have long : 2 ≤ format.suffixes.1.length := by
      rw [spelled,List.length_cons]
      have size := List.length_pos_iff.mpr filled
      omega
    have last := getLast?_namesOf_append name long (by simp [spelled,noSlash])
    have named : (ofText (name ++ format.suffixes.1)).name = lastPart name ++ format.suffixes.1 := by
      rw [Path.name,show (ofText (name ++ format.suffixes.1)).names = namesOf (name ++ format.suffixes.1) from rfl,last]
      rfl
    exact ⟨last.trans (congrArg some named.symm),fun _ => named⟩

/-- The last name of a text has a suffix of the format now, unless there was no name to add one to. -/
theorem hasSuffix_fileName (format : Format) (name : Text) :
    format.hasSuffix (suffixOf (ofText (format.fileName name)).name) = true ↔ ¬ format.LacksName name := by
  by_cases own : format.hasSuffix (ofText name).suffix = true
  · rw [fileName,if_pos own]
    exact iff_of_true own fun lacks => Bool.false_ne_true (lacks.1.symm.trans own)
  · rw [Bool.not_eq_true] at own
    obtain ⟨ending,spelled,filled,noPoint,_,has⟩ := format.exists_suffix
    rw [(format.getLast?_fileName name).2 own,spelled,suffixOf_append _ filled noPoint]
    unfold LacksName
    rw [own,← lastPart_eq_nil]
    split
    · rename_i bare
      simp [hasSuffix_nil,bare]
    · rename_i named
      simp [has,named]

/-! ### Output paths -/

/-- The text is seen from the directory. -/
theorem outputPath_eq (format : Format) (name : Text) (directory : Option Path) :
    format.outputPath name directory = (directory.getD ⟨0,[]⟩).join (ofText (format.fileName name)) := by
  cases directory with
  | none => exact (join_nowhere _).symm
  | some d =>
    unfold outputPath
    dsimp only
    split
    · rename_i absolute
      simp [Path.join,absolute]
    · rfl

/-- The last name of an output path is that of the text with a suffix. -/
theorem name_outputPath (format : Format) (name : Text) (directory : Option Path) :
    (format.outputPath name directory).name = (ofText (format.fileName name)).name ∧
      (format.outputPath name directory).names ≠ [] := by
  have last := (format.getLast?_fileName name).1
  have filled : namesOf (format.fileName name) ≠ [] := fun none => by simp [none] at last
  rw [outputPath_eq,Path.join]
  split
  · exact ⟨rfl,filled⟩
  · refine ⟨?_,by simpa [ofText] using fun _ => filled⟩
    rw [Path.name,List.getLast?_append,show (ofText (format.fileName name)).names = namesOf _ from rfl,last]
    rfl

theorem isNormal_outputPath (format : Format) (name : Text) (directory : Option Text) :
    (format.outputPath name (directory.map ofText)).IsNormal := by
  rw [outputPath_eq]
  refine Path.IsNormal.join ?_ (isNormal_ofText _)
  cases directory with
  | none => exact ⟨by decide,by simp,by simp⟩
  | some d => exact isNormal_ofText d

/-- The last name of an output path has a suffix of the format, or is one because there was no name to add it to. -/
theorem suffix_outputPath (format : Format) (name : Text) (directory : Option Path) :
    (format.hasSuffix (format.outputPath name directory).suffix = true ↔ ¬ format.LacksName name) ∧
    (format.LacksName name → (format.outputPath name directory).name = format.suffixes.1) := by
  have named := (name_outputPath format name directory).1
  refine ⟨?_,fun lacks => ?_⟩
  · rw [Path.suffix,named]
    exact hasSuffix_fileName format name
  · rw [named,(format.getLast?_fileName name).2 lacks.1,(lastPart_eq_nil name).mpr lacks.2,List.nil_append]

/-- A suffix alone is none to the test for suffixes. -/
theorem suffixOf_suffix (format : Format) : suffixOf format.suffixes.1 = [] := by cases format <;> decide

/-- The paths of two formats are never the same. -/
theorem eq_of_outputPath_eq {format other : Format} {name : Text} {directory : Option Path}
    (same : other.outputPath name directory = format.outputPath name directory) : other = format := by
  obtain ⟨has,bare⟩ := suffix_outputPath format name directory
  obtain ⟨otherHas,otherBare⟩ := suffix_outputPath other name directory
  rw [same] at otherHas otherBare
  -- A format that lacks a name leaves a path without a suffix, which no format accepts.
  have unsuffixed {own : Format} (alone : (format.outputPath name directory).name = own.suffixes.1) (any : Format) :
      ¬ any.hasSuffix (format.outputPath name directory).suffix = true := by
    rw [Path.suffix,alone,suffixOf_suffix,hasSuffix_nil]
    exact Bool.false_ne_true
  by_cases lacks : format.LacksName name
  · have otherLacks : other.LacksName name := by
      by_contra named
      exact unsuffixed (bare lacks) other (otherHas.mpr named)
    have suffixes := (otherBare otherLacks).symm.trans (bare lacks)
    revert suffixes
    cases other <;> cases format <;> decide
  · have named : ¬ other.LacksName name := fun otherLacks => unsuffixed (otherBare otherLacks) format (has.mpr lacks)
    exact eq_of_hasSuffix (otherHas.mpr named) (has.mpr lacks)

/-- Where documentation goes. The last name of the path has a suffix of the format, and the path is the one of its own
    spelling, unless the text lacks a name: then the suffix alone is the name, which is none to the test for suffixes, and
    the path of the spelling has it twice. The paths of two formats are never the same. -/
theorem outputPath_suffixed (format : Format) (name : Text) (directory : Option Text) :
    let p := format.outputPath name (directory.map ofText)
    (format.hasSuffix p.suffix = true ↔ ¬ format.LacksName name) ∧
    (format.outputPath p.toText none = p ↔ ¬ format.LacksName name) ∧
    (format.LacksName name → p.name = format.suffixes.1 ∧
      (format.outputPath p.toText none).name = format.suffixes.1 ++ format.suffixes.1) ∧
    ∀ other : Format, other.outputPath name (directory.map ofText) = p ↔ other = format := by
  intro p
  have normal : p.IsNormal := isNormal_outputPath format name directory
  have filled : p.names ≠ [] := (name_outputPath format name _).2
  obtain ⟨has,bare⟩ := suffix_outputPath format name (directory.map ofText)
  have twice (lacks : format.LacksName name) :
      (format.outputPath p.toText none).name = format.suffixes.1 ++ format.suffixes.1 := by
    have unsuffixed : format.hasSuffix (ofText p.toText).suffix = false := by
      rw [normal.ofText_toText,← Bool.not_eq_true]
      exact fun suffixed => has.mp suffixed lacks
    rw [(name_outputPath format p.toText none).1,(format.getLast?_fileName p.toText).2 unsuffixed,
      normal.lastPart_toText filled,bare lacks]
  refine ⟨has,⟨fun same lacks => ?_,fun named => ?_⟩,fun lacks => ⟨bare lacks,twice lacks⟩,
    fun other => ⟨eq_of_outputPath_eq,fun same => by rw [same]⟩⟩
  · have names : format.suffixes.1 = format.suffixes.1 ++ format.suffixes.1 :=
      (bare lacks).symm.trans ((congrArg Path.name same).symm.trans (twice lacks))
    obtain ⟨ending,spelled,_⟩ := format.exists_suffix
    rw [List.self_eq_append_left] at names
    exact absurd (spelled.symm.trans names) (List.cons_ne_nil _ _)
  · have kept : format.fileName p.toText = p.toText := by
      rw [fileName,normal.ofText_toText,if_pos (has.mpr named)]
    rw [outputPath_eq,kept,normal.ofText_toText]
    exact join_nowhere p

/-- A text that ends with a slash gets no suffix: what is added to it becomes a name, and is added to that again. -/
theorem outputPath_bare : ("docs/" : Text) ≠ [] ∧ Format.json.outputPath "docs/" none = ⟨0,["docs",".json"]⟩ ∧
    Format.json.hasSuffix (Format.json.outputPath "docs/" none).suffix = false ∧
    Format.json.outputPath (Format.json.outputPath "docs/" none).toText none = ⟨0,["docs",".json.json"]⟩ := by
  decide

end Format

end ApiDocs
