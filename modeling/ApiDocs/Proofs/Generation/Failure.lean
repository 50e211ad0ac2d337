import ApiDocs.Proofs.Generation.Sources

/-!
Runs that fail. Everything that can go wrong with the source files goes wrong before anything is registered or written
(`Files.leavesNoTrace`), and documentation that cannot be rendered is not written either (`Files.save_of_unrendered`). So a
run ends with the error of an empty scan, or of the first file in the order of the scan that cannot be read, and leaves
the registry and the tree as they were (`run_fails`).
-/
namespace ApiDocs

namespace Files

/-- Registering and generating both end with an error, and the registry and the tree are as they were. -/
structure LeavesNoTrace (fs : Files) (root : Path) (config : Config) (directory : Option Path) (r : Registry)
    (e : GenerationError) : Prop where
  registering : (fs.register root config r).result = .error e
  unregistered : (fs.registration root config r).registry = r
  generating : (fs.generate root config directory r).outcome.result = .error e
  registry : (fs.generate root config directory r).registry = r
  tree : (fs.generate root config directory r).tree = fs

/-- What goes wrong with the source files leaves no trace. -/
theorem leavesNoTrace {fs : Files} {root : Path} {config : Config} {e : GenerationError}
    (failed : (fs.extractTree root config).result = .error e) (directory : Option Path) (r : Registry) :
    fs.LeavesNoTrace root config directory r e := by
  obtain ⟨tree,registry,generating⟩ := generate_of_error failed directory r
  obtain ⟨unregistered,registering⟩ := registration_of_error failed r
  exact ⟨registering,unregistered,generating,registry,tree⟩

/-- The source files fail with an error: the scan does, or it finds nothing, or some file cannot be read and all files
    before it in the scan can, whatever is in those behind it. -/
inductive SourcesFail (fs : Files) (root : Path) (config : Config) : GenerationError → Prop
  | scan {f : ResolveError} (failed : fs.sources root config = .error f) : SourcesFail fs root config (.resolve f)
  | none (empty : fs.sources root config = .ok []) : SourcesFail fs root config (.noFiles config.pattern)
  | file {before after : List Place} {place : Place} {e : GenerationError}
    (scanned : fs.sources root config = .ok (before ++ place :: after))
    (sound : ∀ earlier ∈ before, ∃ es, fs.extracted earlier = .ok es) (failed : fs.extracted place = .error e) :
    SourcesFail fs root config e

/-- The endpoints below a path cannot be read exactly when the source files fail, and with the same error. -/
theorem extractTree_error (fs : Files) (root : Path) (config : Config) (e : GenerationError) :
    (fs.extractTree root config).result = .error e ↔ fs.SourcesFail root config e := by
  have whole := extractTree_result fs root config
  constructor
  · intro failed
    rw [whole] at failed
    split at failed
    · rename_i f scanned
      cases failed
      exact .scan scanned
    · rename_i scanned
      cases failed
      exact .none scanned
    · rename_i place rest scanned
      have first : (fs.extractEach ((place :: rest).map Place.toText)).result = .error e := by
        cases run : (fs.extractEach ((place :: rest).map Place.toText)).result with
        | error f => rw [run] at failed; exact congrArg _ (Except.error.inj failed)
        | ok found => rw [run] at failed; cases failed
      obtain ⟨before,failing,after,split,sound,failed⟩ := (extractEach_error fs (place :: rest) e).mp first
      exact .file (split ▸ scanned) sound failed
  · intro fails
    cases fails with
    | scan failed => rw [whole,failed]
    | none empty => rw [whole,empty]
    | @file before after place _ scanned sound failed =>
      have first := (extractEach_error fs (before ++ place :: after) e).mpr ⟨before,place,after,rfl,sound,failed⟩
      obtain ⟨head,tail,same⟩ := List.exists_cons_of_ne_nil (List.append_ne_nil_of_right_ne_nil before
        (List.cons_ne_nil place after))
      rw [same] at scanned first
      rw [whole,scanned]
      dsimp only
      rw [first]
      rfl

/-- Documentation that cannot be rendered is not written. -/
theorem save_of_unrendered {s : Snapshot} {config : Config} {e : RenderError}
    (failed : s.render config.output = .error e) (fs : Files) (directory : Option Path) :
    fs.save s config directory = (fs,⟨[],.error (.render e)⟩) := by
  rw [save,failed]

end Files

/-- A run fails without a trace. When no file matches, or a file of the scan cannot be read, registering and generating end
    with the error of that, and leave the registry and the tree as they were. When the documentation cannot be rendered,
    generating ends with the error of that, and leaves the tree as it was. And no other error ends a run before the
    documentation is written. -/
theorem run_fails (fs : Files) (root : Path) (config : Config) (directory : Option Path) (r : Registry) :
    (∀ e, fs.SourcesFail root config e → fs.LeavesNoTrace root config directory r e) ∧
    (∀ places found e, (fs.extractTree root config).result = .ok (places,found) →
      (r.load found).snapshot.render config.output = .error e →
      (fs.generate root config directory r).outcome.result = .error (.save (.render e)) ∧
      (fs.generate root config directory r).tree = fs) ∧
    ∀ e, (fs.generate root config directory r).outcome.result = .error e →
      fs.SourcesFail root config e ∨ ∃ f, e = .save f := by
  refine ⟨fun e fails => ?_,fun places found e read failed => ?_,fun e failed => ?_⟩
  · exact Files.leavesNoTrace ((Files.extractTree_error fs root config e).mpr fails) directory r
  · obtain ⟨tree,_,outcome⟩ := Files.generate_of_read read directory r
    rw [Files.save_of_unrendered failed] at tree outcome
    exact ⟨outcome,tree⟩
  · cases read : (fs.extractTree root config).result with
    | error f =>
      cases (Files.generate_of_error read directory r).2.2.symm.trans failed
      exact .inl ((Files.extractTree_error fs root config e).mp read)
    | ok pair =>
      obtain ⟨places,found⟩ := pair
      have outcome := (Files.generate_of_read read directory r).2.2.symm.trans failed
      cases saved : (fs.save (r.load found).snapshot config directory).2.result with
      | error f =>
        rw [saved] at outcome
        exact .inr ⟨f,(Except.error.inj outcome).symm⟩
      | ok path => rw [saved] at outcome; cases outcome

/-! The second of three files is not UTF-8, and documentation stands where a run would write it. -/

private def written : Text × Node := ("docs.gen.json",.file [0x7B,0x7D])

private def emptySource : Text × Node := ("a.py",.file [])

private def brokenTree : Files :=
  { root := .directory [written,("src",.directory [emptySource,("b.py",.file [0xFF]),("c.py",.file [0xFE])])] }

private def soundTree : Files := { root := .directory [written,("src",.directory [emptySource])] }

/-- A sample that cannot be rendered, for there is a surrogate in it. -/
private def unrenderable : Registry :=
  ⟨[(endpointKey "GET" "/a",{ method := "GET", path := "/a", responses := [⟨.obj [([0xD800],.null)],200⟩] })]⟩

private theorem extracted_empty {fs : Files} (stored : fs.read (Path.ofText (Place.toText ["src","a.py"])) = .ok []) :
    fs.extracted ["src","a.py"] = .ok [] := by
  have isModule : Source.IsModule (octetsOf []) [] := isModule_octets (by decide) (by decide) (by decide +kernel)
  exact (extractFile_module stored isModule (by simp)).trans rfl

private def brokenNames : List Text := ["a.py","b.py","c.py"]

private theorem sources_broken :
    brokenTree.sources ⟨1,["src"]⟩ {} = .ok [["src","a.py"],["src","b.py"],["src","c.py"]] := by
  show brokenTree.resolveSome none (Files.collect ["src"] (brokenNames.map fun name => (name,.file))) = _
  rw [Files.collect_files _ _ (by decide)]
  rfl

private def soundNames : List Text := ["a.py"]

private theorem read_sound : (soundTree.extractTree ⟨1,["src"]⟩ {}).result = .ok ([["src","a.py"]],[]) := by
  have scanned : soundTree.sources ⟨1,["src"]⟩ {} = .ok [["src","a.py"]] := by
    show soundTree.resolveSome none (Files.collect ["src"] (soundNames.map fun name => (name,.file))) = _
    rw [Files.collect_files _ _ (by decide)]
    rfl
  exact (Files.extractTree_ok ..).mpr ⟨scanned,by simp,_,.cons (extracted_empty rfl) .nil,rfl⟩

theorem run_fails_brokenFile :
    (∃ reason, brokenTree.SourcesFail ⟨1,["src"]⟩ {} (.unreadable "/src/b.py" reason) ∧
      brokenTree.LeavesNoTrace ⟨1,["src"]⟩ {} none unrenderable (.unreadable "/src/b.py" reason)) ∧
    ∃ e, (soundTree.generate ⟨1,["src"]⟩ {} none unrenderable).outcome.result = .error (.save (.render e)) ∧
      (soundTree.generate ⟨1,["src"]⟩ {} none unrenderable).tree = soundTree := by
  constructor
  · have failed : ∃ reason, brokenTree.extracted ["src","b.py"] = .error (.unreadable "/src/b.py" reason) :=
      ⟨_,extractFile_undecoded rfl rfl⟩
    obtain ⟨reason,failed⟩ := failed
    have sound : ∀ earlier ∈ [(["src","a.py"] : Place)], ∃ es, brokenTree.extracted earlier = .ok es := by
      intro earlier member
      rw [List.mem_singleton.mp member]
      exact ⟨[],extracted_empty rfl⟩
    have fails : brokenTree.SourcesFail ⟨1,["src"]⟩ {} (.unreadable "/src/b.py" reason) :=
      .file sources_broken sound failed
    exact ⟨reason,fails,(run_fails brokenTree ⟨1,["src"]⟩ {} none unrenderable).1 _ fails⟩
  · exact ⟨_,(run_fails soundTree ⟨1,["src"]⟩ {} none unrenderable).2.1 _ _ _ read_sound rfl⟩

end ApiDocs
