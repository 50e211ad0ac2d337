import ApiDocs.Proofs.Files.Resolving

/-!
Scans of trees with links. An entry stands below the root with a name that matches, and no entry is taken twice; but a place
comes out that the entry is resolved to. So a scan leaves the root, gives a name that does not match or gives a file twice
exactly where a link among its entries leads there (`Files.scan_linked`).
-/
namespace ApiDocs.Files

open Node

/-- A place below a root with a name that the pattern matches. -/
def IsWithin (root : Place) (pattern : Text) (place : Place) : Prop :=
  ∃ before name, place = root ++ (before ++ [name]) ∧ Glob.Matches (Glob.parts pattern) name

variable {fs : Files} {root : Place} {pattern : Text}

theorem Lists.isWithin {n : Node} {entry : Place} (lists : fs.Lists pattern root n entry) : IsWithin root pattern entry := by
  obtain ⟨before,name,_,rfl,_,_,fits,_⟩ := lists
  exact ⟨before,name,rfl,fits⟩

/-- What is listed is a file or a link. -/
theorem Lists.file_or_link {n : Node} {entry : Place} (lists : fs.Lists pattern root n entry) (stands : fs.root.at? root = some n) :
    (∃ content, fs.root.at? entry = some (.file content)) ∨ ∃ target, fs.root.at? entry = some (.link target) := by
  obtain ⟨before,name,m,rfl,found,counts,_⟩ := lists
  have here : fs.root.at? (root ++ (before ++ [name])) = some m := by rw [at?_append,stands]; exact found
  cases counts with
  | file content => exact .inl ⟨content,here⟩
  | @link target _ => exact .inr ⟨target,here⟩

private theorem okInjective : Function.Injective (Except.ok : Place → Except ResolveError Place) := fun _ _ => Except.ok.inj

/-- A limit leaves the first places, and without one all of them are resolved. -/
theorem resolveSome_prefix {limit : Option Int} {matched places : List Place} (run : fs.resolveSome limit matched = .ok places) :
    ∃ entries, entries <+: matched ∧ (limit = none → entries = matched) ∧
      entries.map (fun entry => fs.resolve ⟨1,entry⟩) = places.map .ok := by
  induction matched generalizing limit places with
  | nil =>
    cases run
    exact ⟨[],List.nil_prefix,fun _ => rfl,rfl⟩
  | cons entry rest ih =>
    rw [resolveSome] at run
    split at run
    · cases run
    rename_i place resolved
    split at run
    · rename_i reached
      cases run
      refine ⟨[entry],⟨rest,rfl⟩,?_,by simp [resolved]⟩
      rintro rfl
      cases reached
    · obtain ⟨more,later,rfl⟩ := map_eq_ok run
      obtain ⟨entries,first,whole,each⟩ := ih later
      refine ⟨entry :: entries,List.prefix_cons_inj entry |>.mpr first,?_,by simp [resolved,each]⟩
      rintro rfl
      rw [whole rfl]

/-- The places that a scan gives are what its entries are resolved to. The entries are listed below the root, each of them
    once, and a file is resolved to itself. So every place is below the root and has a name that matches unless a link leads
    elsewhere, and no place is given twice unless a link leads to where another entry leads. -/
theorem scan_linked (grounded : fs.IsGrounded) (sound : fs.root.IsSound) {p : Path} {n : Node}
    (leads : fs.follow true p = .node root n) {limit : Option Int} {places : List Place}
    (run : fs.scan p pattern limit = .ok places) :
    ∃ entries : List Place, (∀ entry ∈ entries, fs.Lists pattern root n entry ∧ IsWithin root pattern entry) ∧
      (limit = none → ∀ entry, fs.Lists pattern root n entry → entry ∈ entries) ∧ entries.Pairwise Place.Precedes ∧
      entries.map (fun entry => fs.resolve ⟨1,entry⟩) = places.map .ok ∧
      (∀ entry ∈ entries, ∀ content, fs.root.at? entry = some (.file content) → fs.resolve ⟨1,entry⟩ = .ok entry) ∧
      ((∀ place ∈ places, IsWithin root pattern place) ↔
        ∀ entry ∈ entries, ∀ target place, fs.root.at? entry = some (.link target) → fs.resolve ⟨1,entry⟩ = .ok place →
          IsWithin root pattern place) ∧
      (places.Nodup ↔
        ∀ entry ∈ entries, ∀ target place, fs.root.at? entry = some (.link target) → fs.resolve ⟨1,entry⟩ = .ok place →
          ∀ other ∈ entries, fs.resolve ⟨1,other⟩ = .ok place → other = entry) := by
  have stands := at?_of_follow grounded leads
  have nSound := sound.at? stands
  unfold scan at run
  split at run
  · cases run
  rw [leads] at run
  obtain ⟨entries,first,whole,each⟩ := resolveSome_prefix run
  have listed (entry : Place) (member : entry ∈ entries) : fs.Lists pattern root n entry :=
    (mem_matching_iff nSound root entry).mp (first.subset member)
  have sorted : entries.Pairwise Place.Precedes := (pairwise_matching nSound root).sublist first.sublist
  have itself (entry : Place) (_ : entry ∈ entries) (content : Bytes) (file : fs.root.at? entry = some (.file content)) :
      fs.resolve ⟨1,entry⟩ = .ok entry := resolve_of_at? sound file (by rintro _ ⟨⟩)
  have given (place : Place) : place ∈ places ↔ ∃ entry ∈ entries, fs.resolve ⟨1,entry⟩ = .ok place := by
    rw [← List.mem_map_of_injective okInjective,← each,List.mem_map]
  refine ⟨entries,fun entry member => ⟨listed entry member,(listed entry member).isWithin⟩,?_,sorted,each,itself,?_,?_⟩
  · rintro rfl entry lists
    rw [whole rfl]
    exact (mem_matching_iff nSound root entry).mpr lists
  · constructor
    · intro within entry member target place _ resolved
      exact within place ((given place).mpr ⟨entry,member,resolved⟩)
    · intro linked place member
      obtain ⟨entry,among,resolved⟩ := (given place).mp member
      rcases (listed entry among).file_or_link stands with ⟨content,file⟩ | ⟨target,link⟩
      · obtain rfl := Except.ok.inj ((itself entry among content file).symm.trans resolved)
        exact (listed entry among).isWithin
      · exact linked entry among target place link resolved
  · rw [← List.nodup_map_iff okInjective,← each,List.nodup_map_iff_inj_on (sorted.imp Place.Precedes.ne)]
    constructor
    · intro apart entry member target place _ resolved other among same
      exact apart other among entry member (same.trans resolved.symm)
    · intro linked entry member other among same
      have leadsTo : fs.resolve ⟨1,entry⟩ ∈ places.map .ok := each ▸ List.mem_map_of_mem member
      obtain ⟨place,_,resolved⟩ := List.mem_map.mp leadsTo
      rcases (listed entry member).file_or_link stands with ⟨content,file⟩ | ⟨target,link⟩
      · rcases (listed other among).file_or_link stands with ⟨more,otherFile⟩ | ⟨target,link⟩
        · rw [itself entry member content file,itself other among more otherFile] at same
          exact Except.ok.inj same
        · exact linked other among target place link (same.symm.trans resolved.symm) entry member resolved.symm
      · exact (linked entry member target place link resolved.symm other among (same.symm.trans resolved.symm)).symm

/-! One link leads out of the directory that is scanned, to a name that does not match, and one to a file next to it. -/

private def source : List (Text × Node) :=
  [("a.py",.link "../b.txt"),("c.py",.link "z.py"),("z.py",.file [])]

private def linkedTree : Files := { root := .directory [("src",.directory source),("b.txt",.file [])] }

private theorem isSound_linkedTree : linkedTree.root.IsSound := by
  have below : (Node.directory source).IsSound :=
    .directory (by decide) (by decide) (by simp [source,IsSound.file,IsSound.link])
  exact .directory (by decide) (by decide) (by simp [IsSound.file,below])

private def outside : Place := ["b.txt"]

private def linkedPlaces : List Place := [outside,["src","z.py"],["src","z.py"]]

private theorem leads_linkedTree : linkedTree.follow true ⟨1,["src"]⟩ = .node ["src"] (.directory source) := by
  cbv

private theorem scan_linkedTree : linkedTree.scan ⟨1,["src"]⟩ "*.py" none = .ok linkedPlaces := by
  cbv

theorem scan_linked_source : linkedTree.IsGrounded ∧ linkedTree.root.IsSound ∧
    linkedTree.follow true ⟨1,["src"]⟩ = .node ["src"] (.directory source) ∧
    linkedTree.scan ⟨1,["src"]⟩ "*.py" none = .ok linkedPlaces ∧
    ∃ entries : List Place, entries.map (fun entry => linkedTree.resolve ⟨1,entry⟩) = linkedPlaces.map .ok ∧
      ∀ entry ∈ entries, IsWithin ["src"] "*.py" entry := by
  have grounded : linkedTree.IsGrounded := rfl
  obtain ⟨entries,listed,_,_,each,_⟩ := scan_linked grounded isSound_linkedTree leads_linkedTree scan_linkedTree
  exact ⟨grounded,isSound_linkedTree,leads_linkedTree,scan_linkedTree,entries,each,fun entry member => (listed entry member).2⟩

/-- A place is given that is not below the root and whose name does not match, and one is given twice. -/
theorem scan_linked_outside : linkedTree.follow true ⟨1,["src"]⟩ = .node ["src"] (.directory source) ∧
    linkedTree.scan ⟨1,["src"]⟩ "*.py" none = .ok linkedPlaces ∧ outside ∈ linkedPlaces ∧
    (¬ ∃ below : Place, outside = ("src" : Text) :: below) ∧
    (¬ ∃ before name, outside = before ++ [name] ∧ Glob.Matches (Glob.parts "*.py") name) ∧ ¬ linkedPlaces.Nodup := by
  refine ⟨leads_linkedTree,scan_linkedTree,by decide,?_,?_,by decide⟩
  · rintro ⟨below,same⟩
    obtain ⟨first,_⟩ := List.cons.inj same
    exact absurd first (by decide)
  · rintro ⟨before,name,same,fits⟩
    have last : outside.getLast? = some name := by rw [same,List.getLast?_append]; rfl
    obtain rfl : "b.txt" = name := Option.some.inj last
    exact absurd ((Glob.accepts_iff _ _).mpr fits) (by decide)

end ApiDocs.Files
