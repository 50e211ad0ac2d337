import ApiDocs.Proofs.Capture.Response
import ApiDocs.Proofs.Document.Check
import ApiDocs.Proofs.Files.Follow
import ApiDocs.Proofs.Files.Room
import ApiDocs.Proofs.Json.Equality
import ApiDocs.Proofs.Json.Roundtrip
import ApiDocs.Proofs.Render.Outcome

/-!
What was saved is read back. A registry that endpoints were loaded into and samples recorded in holds nothing that a JSON
file would lose (`Registry.Collected.isPersistable`), so the file that is written of it says exactly its snapshot, from
which the same registry is built again (`load_of_save`).
-/
namespace ApiDocs

open Value

/-- A sample that a JSON file keeps: the shape of a body that could be read, without surrogates, and a status that can be
    written. -/
structure Response.IsPersistable (r : Response) : Prop where
  shape : IsShape r.body
  writable : isWritableInt r.status = true
  scalar : ∀ t ∈ r.body.texts, t.IsScalar
  shallow : r.body.nesting ≤ Json.maxDepth

/-- An endpoint that a JSON file keeps. -/
structure Endpoint.IsPersistable (e : Endpoint) : Prop where
  static : ∀ t ∈ e.texts, t.IsScalar
  samples : ∀ r ∈ e.responses, r.IsPersistable

/-- A snapshot that a JSON file keeps, with each endpoint under its own key. -/
structure Snapshot.IsPersistable (s : Snapshot) : Prop where
  distinct : (s.map (·.1)).Nodup
  key : ∀ entry ∈ s, entry.2.key = entry.1
  endpoint : ∀ entry ∈ s, entry.2.IsPersistable

/-! ### The text of a file -/

theorem isScalar_key {e : Endpoint} (static : ∀ t ∈ e.texts, t.IsScalar) : e.key.IsScalar := by
  have method : e.method.IsScalar := static _ (by simp [Endpoint.texts])
  have path : e.path.IsScalar := static _ (by simp [Endpoint.texts])
  exact List.forall_mem_append.mpr ⟨method,List.forall_mem_cons.mpr ⟨rfl,path⟩⟩

/-- The samples of an endpoint are the deepest part of its document. -/
theorem Endpoint.nesting_document {e : Endpoint} {n : Nat} (samples : ∀ r ∈ e.responses, r.body.nesting ≤ n) :
    e.document.nesting ≤ n + 3 := by
  have parameters : (arr (e.parameters.map Parameter.document)).nesting ≤ n + 2 := by
    refine (nesting_arr_le _ _).mpr (List.forall_mem_map.mpr fun p _ => ?_)
    exact (nesting_obj_le _ _).mpr (by simp [nesting])
  have responses : (arr (e.responses.map Response.document)).nesting ≤ n + 2 := by
    refine (nesting_arr_le _ _).mpr (List.forall_mem_map.mpr fun r member => ?_)
    exact (nesting_obj_le _ _).mpr (by simp [samples r member,nesting])
  have leaf (t : Text) : (str t).nesting ≤ n + 2 := Nat.zero_le _
  refine (nesting_obj_le _ _).mpr ?_
  simp only [List.forall_mem_cons]
  exact ⟨leaf _,leaf _,leaf _,leaf _,leaf _,parameters,responses,by simp⟩

namespace Snapshot

theorem nesting_document {s : Snapshot} {n : Nat}
    (samples : ∀ entry ∈ s, ∀ r ∈ entry.2.responses, r.body.nesting ≤ n) : s.document.nesting ≤ n + 4 :=
  (nesting_obj_le _ _).mpr (List.forall_mem_map.mpr fun entry member => Endpoint.nesting_document (samples entry member))

namespace IsPersistable

variable {s : Snapshot}

theorem isSound (persistable : s.IsPersistable) : s.IsSound := by
  refine ⟨persistable.distinct,fun entry member => ?_,fun entry member r among => ?_⟩
  · have static := (persistable.endpoint entry member).static
    exact ⟨persistable.key entry member ▸ (isScalar_key static).isEncodable,fun t own => (static t own).isEncodable⟩
  · have sample := (persistable.endpoint entry member).samples r among
    exact ⟨sample.shape,sample.writable⟩

theorem hasEncodableSamples (persistable : s.IsPersistable) : s.HasEncodableSamples := fun entry member r among t own =>
  (((persistable.endpoint entry member).samples r among).scalar t own).isEncodable

/-- A file that holds the rendered snapshot is read as that snapshot. -/
theorem load_of_read (persistable : s.IsPersistable) {content : Bytes} (rendered : s.render .json = .ok content)
    {fs : Files} {p : Path} (file : fs.read p = .ok content) : fs.load p = .ok s := by
  have sound := persistable.isSound
  have exact := exact_document sound.distinct sound.exact
  have printable := Json.isPrintable_prettyAt exact 0
  have encoded := Utf8.decode_encode_ascii printable.isAscii
  have scalar : ∀ t ∈ s.document.texts, t.IsScalar := by
    refine texts_document Text.isScalar_ofString (fun entry member => ?_) fun entry member r among => ?_
    · have static := (persistable.endpoint entry member).static
      exact ⟨persistable.key entry member ▸ isScalar_key static,static⟩
    · exact ((persistable.endpoint entry member).samples r among).scalar
  have shallow : s.document.nesting ≤ maxFileDepth :=
    nesting_document fun entry member r among => ((persistable.endpoint entry member).samples r among).shallow
  have written : s.render .json = .ok ((Json.pretty s.document).flatMap Utf8.encodePoint) := by
    simp [render,renderText,documented_eq_self sound persistable.hasEncodableSamples,exact.intsWritable,text,Json.pretty,
      encoded.1]
  cases rendered.symm.trans written
  have read : Json.readWithin maxFileDepth (Json.pretty s.document) = .ok s.document :=
    Json.readWithin_pretty exact scalar shallow
  have noReturn : (Json.pretty s.document).withLineFeeds = Json.pretty s.document :=
    Text.withLineFeeds_eq_self printable.noReturn
  have decoded : Utf8.decode ((Json.pretty s.document).flatMap Utf8.encodePoint) = .ok (Json.pretty s.document) :=
    encoded.2
  rw [Files.load,file]
  simp only [decoded,noReturn,read]
  exact endpointsOfMembers_document s

theorem render (persistable : s.IsPersistable) (format : Format) : ∃ content, s.render format = .ok content :=
  (render_iff persistable.isSound format).mpr persistable.hasEncodableSamples

end IsPersistable

end Snapshot

/-! ### Registries -/

namespace Registry

theorem upsertIn_absent {e : Endpoint} {s : Snapshot} (absent : e.key ∉ s.map (·.1)) :
    upsertIn e s = s ++ [(e.key,e)] := by
  simpa [upsertIn] using upsertIn_append absent []

/-- Endpoints under their own keys are loaded behind those of other keys. -/
theorem load_entries {s : Snapshot} (r : Registry) (key : ∀ entry ∈ s, entry.2.key = entry.1)
    (distinct : ((r.entries ++ s).map (·.1)).Nodup) : r.load (s.map (·.2)) = ⟨r.entries ++ s⟩ := by
  induction s generalizing r with
  | nil => rw [List.append_nil]; rfl
  | cons entry rest ih =>
    obtain ⟨own,others⟩ := List.forall_mem_cons.mp key
    have absent : entry.2.key ∉ r.entries.map (·.1) := by
      intro member
      rw [List.map_append,List.nodup_append] at distinct
      exact distinct.2.2 _ member _ List.mem_cons_self own
    have step : r.upsert entry.2 = ⟨r.entries ++ [entry]⟩ := by
      rw [upsert,upsertIn_absent absent,own]
    show (r.upsert entry.2).load (rest.map (·.2)) = _
    rw [step,ih ⟨r.entries ++ [entry]⟩ others (by simpa using distinct),List.append_assoc]
    rfl

/-- The endpoints of a snapshot make the registry that it is of. -/
theorem ofList_snapshot {s : Snapshot} (distinct : (s.map (·.1)).Nodup) (key : ∀ entry ∈ s, entry.2.key = entry.1) :
    ofList (s.map (·.2)) = ⟨s⟩ := load_entries empty key distinct

/-- The greatest nesting of a body that is sure to be read. -/
def maxBodyNesting : Nat := 200

/-- Registries that come about when endpoints without samples are loaded and responses are recorded, in whatever order:
    their texts hold no surrogates, bodies are not nested too deeply, and statuses can be written. -/
inductive Collected : Registry → Prop
  | empty : Collected empty
  | load {r : Registry} (before : Collected r) {es : List Endpoint}
    (parsed : ∀ e ∈ es, e.responses = [] ∧ ∀ t ∈ e.texts, t.IsScalar) : Collected (r.load es)
  | record {r : Registry} (before : Collected r) (method path : Text) {status : Int}
    (writable : isWritableInt status = true) {body : Value}
    (plain : ∀ v, loaded? body = some v → v.nesting ≤ maxBodyNesting ∧ ∀ t ∈ v.texts, t.IsScalar) :
    Collected (r.record method path (.int status) body).registry

theorem isPersistable_of_get? {r : Registry} (distinct : r.keys.Nodup)
    (each : ∀ key e, r.get? key = some e → e.key = key ∧ e.IsPersistable) : r.snapshot.IsPersistable :=
  ⟨distinct,fun ⟨key,e⟩ member => (each key e ((mem_entries_iff distinct key e).mp member)).1,
    fun ⟨key,e⟩ member => (each key e ((mem_entries_iff distinct key e).mp member)).2⟩

theorem get?_isPersistable {r : Registry} (persistable : r.snapshot.IsPersistable) {key : Text} {e : Endpoint}
    (found : r.get? key = some e) : e.key = key ∧ e.IsPersistable := by
  have member := (mem_entries_iff persistable.distinct key e).mpr found
  exact ⟨persistable.key _ member,persistable.endpoint _ member⟩

theorem isPersistable_upsert {r : Registry} (persistable : r.snapshot.IsPersistable) {e : Endpoint}
    (own : e.IsPersistable) : (r.upsert e).snapshot.IsPersistable := by
  refine isPersistable_of_get? (nodup_upsert persistable.distinct e) fun key f found => ?_
  rw [get?_upsert] at found
  split at found
  · rename_i same
    cases found
    refine ⟨same,own.static,fun sample member => ?_⟩
    rcases List.mem_append.mp member with old | new
    · unfold samples at old
      cases stored : r.get? key with
      | none => simp [stored] at old
      | some before =>
        exact (get?_isPersistable persistable stored).2.samples sample (by simpa [stored] using old)
    · exact own.samples sample new
  · exact get?_isPersistable persistable found

theorem isPersistable_load {r : Registry} (persistable : r.snapshot.IsPersistable) {es : List Endpoint}
    (each : ∀ e ∈ es, e.IsPersistable) : (r.load es).snapshot.IsPersistable := by
  induction es generalizing r with
  | nil => exact persistable
  | cons e rest ih =>
    obtain ⟨own,others⟩ := List.forall_mem_cons.mp each
    exact ih (isPersistable_upsert persistable own) others

theorem isPersistable_offer {r : Registry} (persistable : r.snapshot.IsPersistable) (key : Text) {sample : Response}
    (own : sample.IsPersistable) : (r.offer key sample).snapshot.IsPersistable := by
  have distinct : (r.offer key sample).keys.Nodup := (keys_offer r key sample).symm ▸ persistable.distinct
  refine isPersistable_of_get? distinct fun other e found => ?_
  rw [get?_offer] at found
  split at found
  · obtain ⟨before,stored,rfl⟩ := Option.map_eq_some_iff.mp found
    obtain ⟨same,old⟩ := get?_isPersistable persistable stored
    exact ⟨same,old.static,List.forall_mem_append.mpr ⟨old.samples,by simpa using own⟩⟩
  · exact get?_isPersistable persistable found

/-- A sample that is recorded is the shape of what its body says. -/
theorem redact_of_sampleOf? {status body : Value} {sample : Response}
    (found : Capture.sampleOf? status body = some sample) : ∃ v, loaded? body = some v ∧ redact v = .ok sample.body := by
  unfold Capture.sampleOf? at found
  split at found
  · rename_i shape redacted
    obtain ⟨_,_,rfl⟩ : ∃ code : Int, _ ∧ Response.mk shape code = sample := by
      cases observed : Response.observed shape status with
      | error problems => rw [observed] at found; cases found
      | ok r =>
        rw [observed] at found
        cases found
        exact map_eq_ok observed
    cases loaded : loaded? body with
    | none => exact absurd redacted (redactBody_of_not_loaded loaded shape)
    | some v =>
      refine ⟨v,rfl,?_⟩
      have same := (redactBody_of_loaded loaded).symm.trans redacted
      cases run : redact v with
      | error kind => rw [run] at same; cases same
      | ok w => rw [run] at same; cases same; rfl
  · cases found

/-- A recorded sample is kept by a file when it has no surrogates and its status can be written. -/
theorem isPersistable_sampleOf? {status body : Value} {sample : Response}
    (found : Capture.sampleOf? status body = some sample) (writable : isWritableInt sample.status = true)
    (scalar : ∀ t ∈ sample.body.texts, t.IsScalar) : sample.IsPersistable := by
  obtain ⟨v,loaded,redacted⟩ := redact_of_sampleOf? found
  have decoded := decoded_of_loaded loaded
  exact ⟨isShape_of_redactWithin decoded redacted,writable,scalar,
    (nesting_le_of_redactWithin decoded redacted).trans (nesting_of_loaded loaded)⟩

/-- Whatever is loaded and recorded, a file keeps it. -/
theorem Collected.isPersistable {r : Registry} (collected : r.Collected) : r.snapshot.IsPersistable := by
  induction collected with
  | empty => exact ⟨List.nodup_nil,by simp [snapshot,Registry.empty],by simp [snapshot,Registry.empty]⟩
  | load _ parsed ih =>
    refine isPersistable_load ih fun e member => ?_
    obtain ⟨bare,static⟩ := parsed e member
    exact ⟨static,by simp [bare]⟩
  | @record r _ method path status writable body plain ih =>
    rw [Capture.record_registry]
    cases found : Capture.sampleOf? (.int status) body with
    | none => exact ih
    | some sample =>
      obtain ⟨v,loaded,redacted⟩ := redact_of_sampleOf? found
      obtain ⟨_,_,rfl⟩ := (Capture.sampleOf?_eq_some status body sample).mp found
      refine isPersistable_offer ih (endpointKey method path) (isPersistable_sampleOf? found writable fun t member => ?_)
      rcases mem_texts_of_redactWithin (decoded_of_loaded loaded) redacted member with rfl | inside
      · exact fun _ none => absurd none List.not_mem_nil
      · exact (plain v loaded).2 t inside

end Registry

/-! ### Files -/

open Registry

/-- A snapshot that a file keeps is saved where there is room for it, and fails to be saved only when the tree refuses the
    directory or the file; where it was saved, it is read back. -/
theorem Snapshot.IsPersistable.read_saved {s : Snapshot} (persistable : s.IsPersistable) {fs : Files}
    (grounded : fs.IsGrounded) {config : Config} (json : config.output = .json) (directory : Option Path) :
    let path := Format.json.outputPath config.filename directory
    let made := fs.ensureDirectory path.parent
    let saved := fs.save s config directory
    (fs.HasRoom path → saved.2.result = .ok path) ∧
    ((saved.2.result = .ok path ∧ saved.1.load path = .ok s) ∨
      ∃ e, saved.2.result = .error (.ofFile path.toText e) ∧
        (made.2 = .error e ∨ ∀ content, made.1.write path content = .error e)) := by
  obtain ⟨content,rendered⟩ := persistable.render .json
  dsimp only
  generalize written : Format.json.outputPath config.filename directory = path
  rw [Files.save,json,rendered,written]
  dsimp only
  constructor
  · intro room
    obtain ⟨later,taken⟩ := Files.write_of_hasRoom room content
    rw [Files.ensureDirectory_of_hasRoom room]
    dsimp only
    rw [taken]
  · have standing := grounded.ensureDirectory path.parent
    cases made : fs.ensureDirectory path.parent with
    | mk between outcome =>
      rw [made] at standing
      cases outcome with
      | error e => exact .inr ⟨e,rfl,.inl rfl⟩
      | ok _ =>
        dsimp only
        cases taken : between.write path content with
        | error e => exact .inr ⟨e,rfl,.inr (Files.write_refused taken)⟩
        | ok later => exact .inl ⟨rfl,persistable.load_of_read rendered (Files.read_of_write standing taken)⟩

/-- The documentation of a collected registry is saved where there is room for it, and fails to be saved only when the tree
    refuses the directory or the file. Where it was saved, reading gives its snapshot: the same keys and endpoints with
    their parameters and samples, all in the same order. The endpoints that were read make a registry with the same keys
    and the same snapshot. -/
theorem load_of_save {r : Registry} (collected : r.Collected) :
    (∀ fs : Files, fs.IsGrounded → ∀ config : Config, config.output = .json → ∀ directory : Option Path,
      let path := Format.json.outputPath config.filename directory
      let made := fs.ensureDirectory path.parent
      let saved := fs.save r.snapshot config directory
      (fs.HasRoom path → saved.2.result = .ok path) ∧
      ((saved.2.result = .ok path ∧ saved.1.load path = .ok r.snapshot) ∨
        ∃ e, saved.2.result = .error (.ofFile path.toText e) ∧
          (made.2 = .error e ∨ ∀ content, made.1.write path content = .error e))) ∧
    (ofList (r.snapshot.map (·.2))).keys = r.keys ∧ (ofList (r.snapshot.map (·.2))).snapshot = r.snapshot := by
  have persistable := collected.isPersistable
  have again := ofList_snapshot persistable.distinct persistable.key
  exact ⟨fun fs grounded config json directory => persistable.read_saved grounded json directory,
    by rw [again]; rfl,by rw [again]; rfl⟩

/-! Users are documented and served. One file is saved in the directory that stands, and the way to the other leads through
a link into one that does not exist yet. -/

private def usersBody : Value := .foreign (.bytes ("\x7b\"n\\u00e9\": [1, 2]\x7d".toList.map (·.toNat.toUInt8)))

private def usersRegistry : Registry :=
  ((Registry.empty.load [{ method := "GET", path := "/users", parameters := [⟨"page","int",false⟩] }]).record
    "GET" "/users" (.int 200) usersBody).registry

private def linkedTree : Files :=
  ⟨.directory [("srv",.directory []),("docs",.link "/srv"),("home",.directory [])],["home"]⟩

private def linkedDirectory : Path := ⟨0,[aroundName,"docs","api"]⟩

private def homeFile : Path := ⟨0,["docs.gen.json"]⟩

private def linkedFile : Path := ⟨0,[aroundName,"docs","api","docs.gen.json"]⟩

private theorem loaded_usersBody : loaded? usersBody = some (.obj [([0x6E,0xE9],.arr [.int 1,.int 2])]) := by
  decide +kernel

private theorem collected_users : usersRegistry.Collected := by
  refine .record (.load .empty fun e member => ?_) "GET" "/users" (isWritableInt_of_lt (by decide)) fun v loaded => ?_
  · rw [List.mem_singleton.mp member]
    exact ⟨rfl,by decide⟩
  · cases loaded_usersBody.symm.trans loaded
    decide

theorem load_of_save_linked :
    usersRegistry.Collected ∧ linkedTree.IsGrounded ∧
    (usersRegistry.samples (endpointKey "GET" "/users")).map (·.body) = [.obj [([0x6E,0xE9],.arr [])]] ∧
    linkedTree.HasRoom homeFile ∧ (linkedTree.save usersRegistry.snapshot {} none).2.result = .ok homeFile ∧
    (linkedTree.save usersRegistry.snapshot {} (some linkedDirectory)).2.result = .ok linkedFile ∧
    (linkedTree.save usersRegistry.snapshot {} (some linkedDirectory)).1.load linkedFile = .ok usersRegistry.snapshot := by
  have grounded : linkedTree.IsGrounded := rfl
  have room : linkedTree.HasRoom homeFile := ⟨by decide,by decide +kernel,.inr ⟨["home"],"docs.gen.json",rfl⟩⟩
  have home : Format.json.outputPath ({} : Config).filename none = homeFile := by decide +kernel
  have linked : Format.json.outputPath ({} : Config).filename (some linkedDirectory) = linkedFile := by decide +kernel
  have made : (linkedTree.ensureDirectory linkedFile.parent).2.toBool = true := by decide +kernel
  have taken : ((linkedTree.ensureDirectory linkedFile.parent).1.write linkedFile []).toBool = true := by decide +kernel
  have saves := (load_of_save collected_users).1 linkedTree grounded {} rfl
  have atHome := (saves none).1
  have behindLink := (saves (some linkedDirectory)).2
  dsimp only at atHome behindLink
  rw [home] at atHome
  rw [linked] at behindLink
  refine ⟨collected_users,grounded,by decide +kernel,room,atHome room,?_⟩
  rcases behindLink with done | ⟨e,_,refused | refused⟩
  · exact done
  · rw [refused] at made
    cases made
  · rw [refused []] at taken
    cases taken

end ApiDocs
