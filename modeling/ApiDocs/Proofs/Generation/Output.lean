import ApiDocs.Proofs.Capture.Attempt
import ApiDocs.Proofs.DocsFile.Roundtrip
import ApiDocs.Proofs.Generation.Sources
import ApiDocs.Proofs.Registry.Merge

/-!
What generating documentation writes. Whatever was loaded into a registry and captured in it before, a file keeps all of
it (`Gathered.isPersistable`), so the file that a run writes is read as the registry after the endpoints of all source
files were loaded into it (`generate_writes`): the keys that it had, with the samples that were kept for them, and then the
new ones.
-/
namespace ApiDocs

open Capture Registry

namespace Capture

/-- What an attempt writes was recorded of some status and body. -/
theorem Attempt.sampleOf?_of_mem {a : Attempt} {key : Text} {sample : Response}
    (member : Entry.sampled key sample ∈ a.entries) : ∃ status body, sampleOf? status body = some sample := by
  have single {method path : Text} {found : Option Response}
      (member : Entry.sampled key sample ∈ sampled method path found) : found = some sample := by
    cases found with
    | none => cases member
    | some other =>
      cases List.mem_singleton.mp member
      rfl
  have copied {d : Draft} (found : d.sample? = some sample) : ∃ status body, sampleOf? status body = some sample := by
    obtain ⟨body,_,own⟩ := Option.bind_eq_some_iff.mp found
    exact ⟨_,_,own⟩
  cases a with
  | call method path status body => exact ⟨status,body,single member⟩
  | asgi scope acts =>
    have member : Entry.sampled key sample ∈ Asgi.entries scope acts := member
    unfold Asgi.entries at member
    split at member
    · exact copied (single member)
    · cases member
  | wsgi environ app pulls =>
    have member : Entry.sampled key sample ∈ Wsgi.entries environ.method environ.path app pulls := member
    unfold Wsgi.entries at member
    cases drafted : Wsgi.draft? app pulls with
    | none => rw [drafted] at member; cases member
    | some d =>
      rw [drafted] at member
      exact copied (single member)

end Capture

namespace Registry

/-- Registries that come about when endpoints are loaded as they were parsed, and responses are captured in any way, with
    texts that hold no surrogates and statuses that can be written. -/
inductive Gathered : Registry → Prop
  | empty : Gathered empty
  | load {r : Registry} (before : Gathered r) {es : List Endpoint}
    (parsed : ∀ e ∈ es, e.responses = [] ∧ ∀ t ∈ e.texts, t.IsScalar) : Gathered (r.load es)
  | attempt {r : Registry} (before : Gathered r) (a : Attempt)
    (plain : ∀ key sample, Entry.sampled key sample ∈ a.entries →
      isWritableInt sample.status = true ∧ ∀ t ∈ sample.body.texts, t.IsScalar) : Gathered (a.apply r)

/-- Samples that a file keeps may be handed in. -/
theorem isPersistable_replay {r : Registry} (persistable : r.snapshot.IsPersistable) {log : List Entry}
    (sampling : Log.endpoints log = [])
    (each : ∀ key sample, Entry.sampled key sample ∈ log → sample.IsPersistable) :
    (r.replay log).snapshot.IsPersistable := by
  induction log generalizing r with
  | nil => exact persistable
  | cons entry rest ih =>
    cases entry with
    | registered e => cases sampling
    | sampled key sample =>
      exact ih (isPersistable_offer persistable key (each key sample List.mem_cons_self)) sampling fun other more member =>
        each other more (List.mem_cons_of_mem _ member)

/-- Whatever is loaded and captured, a file keeps it. -/
theorem Gathered.isPersistable {r : Registry} (gathered : r.Gathered) : r.snapshot.IsPersistable := by
  induction gathered with
  | empty => exact Collected.empty.isPersistable
  | load _ parsed ih =>
    refine isPersistable_load ih fun e member => ?_
    obtain ⟨bare,static⟩ := parsed e member
    exact ⟨static,by simp [bare]⟩
  | attempt _ a plain ih =>
    rw [Attempt.apply_eq]
    refine isPersistable_replay ih a.endpoints_entries fun key sample member => ?_
    obtain ⟨status,body,found⟩ := Attempt.sampleOf?_of_mem member
    obtain ⟨writable,scalar⟩ := plain key sample member
    exact isPersistable_sampleOf? found writable scalar

end Registry

/-! ### Runs -/

/-- What a run that succeeds has read and written. The endpoints are those of the scanned files, one file after the other.
    The file that was written is read as a map whose keys are those of the registry and then the new ones, in the order
    in which they were parsed first; under a parsed key stands the last endpoint that was parsed under it, under any other
    key what the registry held, and the samples of every key are those of the registry. -/
theorem generate_writes (fs : Files) (grounded : fs.IsGrounded) (root : Path) (config : Config)
    (json : config.output = .json) (directory : Option Path) (r : Registry) (gathered : r.Gathered) (g : Generated)
    (succeeds : (fs.generate root config directory r).outcome.result = .ok g)
    (scalar : ∀ e ∈ g.endpoints, ∀ t ∈ e.texts, t.IsScalar) :
    (∃ places each, fs.sources root config = .ok places ∧ g.files = places.length ∧
      List.Forall₂ (fun place es => fs.extracted place = .ok es) places each ∧ g.endpoints = each.flatten) ∧
    ∃ s : Snapshot, (fs.generate root config directory r).tree.load g.output = .ok s ∧
      s.map (·.1) = r.keys ++ newKeys r.keys g.endpoints ∧
      (∀ key, get? ⟨s⟩ key =
        match lastOf? key g.endpoints with
        | some e => some { e with responses := r.samples key }
        | none => r.get? key) ∧
      ∀ key, samples ⟨s⟩ key = r.samples key := by
  obtain ⟨places,read,count,saved,tree⟩ := Files.generate_ok succeeds
  obtain ⟨scanned,_,each,all,joined⟩ := (Files.extractTree_ok fs root config places g.endpoints).mp read
  have plain : ∀ e ∈ g.endpoints, e.responses = [] := joined ▸ Files.responses_of_each all
  refine ⟨⟨places,each,scanned,count,all,joined⟩,(r.load g.endpoints).snapshot,?_,keys_load r g.endpoints,
    get?_load r plain,samples_load r plain⟩
  have loaded : (r.load g.endpoints).Gathered := gathered.load fun e member => ⟨plain e member,scalar e member⟩
  obtain ⟨_,written | ⟨e,refused,_⟩⟩ := loaded.isPersistable.read_saved grounded json directory
  · obtain ⟨result,isRead⟩ := written
    have output : g.output = Format.json.outputPath config.filename directory :=
      Except.ok.inj (saved.symm.trans result)
    rw [tree,output]
    exact isRead
  · cases saved.symm.trans refused

/-! Users were documented and sampled before. The first of two files documents something new, and the second one users
again. -/

private def pagesSource : Text := "def a(): '@docs\\n@path /pages\\n@method GET'\n"

private def usersSource : Text := "def b(): '@docs new\\n@path /users\\n@method GET'\n"

private def twoFiles : Files :=
  { root := .directory [("src",.directory [("a.py",.file (octetsOf pagesSource)),("b.py",.file (octetsOf usersSource))])] }

private def sampledUsers : Registry :=
  (Attempt.call "GET" "/users" (.int 200) (.foreign (.bytes [0x5B,0x5D]))).apply
    (Registry.empty.load [{ method := "GET", path := "/old" },{ method := "GET", path := "/users" }])

private def sourceNames : List Text := ["a.py","b.py"]

private theorem sources_twoFiles : twoFiles.sources ⟨1,["src"]⟩ {} = .ok [["src","a.py"],["src","b.py"]] := by
  show twoFiles.resolveSome none (Files.collect ["src"] (sourceNames.map fun name => (name,.file))) = _
  rw [Files.collect_files _ _ (by decide)]
  rfl

private theorem extracted_pages :
    twoFiles.extracted ["src","a.py"] = .ok [{ handler := "a", path := "/pages", method := "GET" }] := by
  have isModule : Source.IsModule (octetsOf pagesSource) [⟨"a",some "@docs\n@path /pages\n@method GET"⟩] :=
    isModule_octets (by decide) (by decide) (by decide +kernel)
  exact (extractFile_module rfl isModule (by decide)).trans rfl

private theorem extracted_users :
    twoFiles.extracted ["src","b.py"] =
      .ok [{ handler := "b", description := "new", path := "/users", method := "GET" }] := by
  have isModule : Source.IsModule (octetsOf usersSource) [⟨"b",some "@docs new\n@path /users\n@method GET"⟩] :=
    isModule_octets (by decide) (by decide) (by decide +kernel)
  exact (extractFile_module rfl isModule (by decide)).trans rfl

private theorem gathered_sampled : sampledUsers.Gathered := by
  refine .attempt (.load .empty fun e member => ?_) _ fun key sample member => ?_
  · rcases List.mem_pair.mp member with rfl | rfl <;> exact ⟨rfl,by decide⟩
  · cases List.mem_singleton.mp member
    exact ⟨Value.isWritableInt_of_lt (by decide),by decide⟩

private theorem read_twoFiles :
    (twoFiles.extractTree ⟨1,["src"]⟩ {}).result = .ok ([["src","a.py"],["src","b.py"]],
      [{ handler := "a", path := "/pages", method := "GET" },
        { handler := "b", description := "new", path := "/users", method := "GET" }]) := by
  exact (Files.extractTree_ok ..).mpr
    ⟨sources_twoFiles,by simp,_,.cons extracted_pages (.cons extracted_users .nil),rfl⟩

theorem generate_writes_twoFiles :
    twoFiles.IsGrounded ∧ sampledUsers.Gathered ∧
    ∃ g s, (twoFiles.generate ⟨1,["src"]⟩ {} none sampledUsers).outcome.result = .ok g ∧
      (∀ e ∈ g.endpoints, ∀ t ∈ e.texts, t.IsScalar) ∧ g.files = 2 ∧ g.endpoints.length = 2 ∧
      (twoFiles.generate ⟨1,["src"]⟩ {} none sampledUsers).tree.load g.output = .ok s ∧
      s.map (·.1) = [endpointKey "GET" "/old",endpointKey "GET" "/users",endpointKey "GET" "/pages"] ∧
      get? ⟨s⟩ (endpointKey "GET" "/users") =
        some { handler := "b", description := "new", path := "/users", method := "GET", responses := [⟨.arr [],200⟩] } := by
  have grounded : twoFiles.IsGrounded := rfl
  obtain ⟨_,_,outcome⟩ := Files.generate_of_read read_twoFiles none sampledUsers
  -- The endpoints are named, so that no step computes the file that is written of them.
  generalize endpoints : ([_,_] : List Endpoint) = found at outcome
  have static : ∀ e ∈ found, ∀ t ∈ e.texts, t.IsScalar := by
    rw [← endpoints]
    decide
  have bare : ∀ e ∈ found, e.responses = [] := by
    rw [← endpoints]
    simp
  have loaded : (sampledUsers.load found).Gathered := gathered_sampled.load fun e member => ⟨bare e member,static e member⟩
  have output : Format.json.outputPath ({} : Config).filename none = ⟨0,["docs.gen.json"]⟩ := by decide
  have room : twoFiles.HasRoom ⟨0,["docs.gen.json"]⟩ :=
    ⟨by decide,rfl,.inr ⟨[],"docs.gen.json",rfl⟩⟩
  have saved : twoFiles.HasRoom (Format.json.outputPath ({} : Config).filename none) → _ :=
    (loaded.isPersistable.read_saved grounded rfl none).1
  rw [output] at saved
  rw [saved room] at outcome
  have written := generate_writes twoFiles grounded ⟨1,["src"]⟩ {} rfl none sampledUsers gathered_sampled _ outcome static
  obtain ⟨_,s,isRead,keys,stored,_⟩ := written
  refine ⟨grounded,gathered_sampled,_,s,outcome,static,rfl,?_,isRead,?_,?_⟩
  · rw [← endpoints]; rfl
  · rw [keys,← endpoints]; rfl
  · rw [stored,← endpoints]; rfl

end ApiDocs
