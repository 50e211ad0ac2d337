import ApiDocs.Proofs.Capture.Run
import ApiDocs.Proofs.Json.Equality
import ApiDocs.Proofs.Render.Outcome

/-!
What is captured can be rendered, but for one thing. After any attempts to record responses the documentation is rendered,
in every format, exactly when no sample that was kept has a name with a surrogate in it (`render_collected`): nothing
else in a body, in its status or in the way in which it was sent makes the documentation fail.
-/
namespace ApiDocs

theorem isEncodable_key {method path : Text} (first : method.IsEncodable) (second : path.IsEncodable) :
    (endpointKey method path).IsEncodable :=
  (Text.isEncodable_append _ _).mpr ⟨first,(Text.isEncodable_cons _ _).mpr ⟨rfl,second⟩⟩

namespace Registry

/-- A registry as it is before anything is captured: each endpoint stands once and under its own key, without samples, and
    its texts can be encoded. -/
structure IsFresh (r : Registry) : Prop where
  distinct : r.keys.Nodup
  key : ∀ key e, r.get? key = some e → e.key = key
  bare : ∀ key e, r.get? key = some e → e.responses = []
  static : ∀ key e, r.get? key = some e → ∀ t ∈ e.texts, t.IsEncodable

/-- Endpoints without samples make such a registry. -/
theorem isFresh_ofList {es : List Endpoint} (plain : ∀ e ∈ es, e.responses = [])
    (static : ∀ e ∈ es, ∀ t ∈ e.texts, t.IsEncodable) : (ofList es).IsFresh := by
  have log : Log.endpoints (es.map .registered) = es := Log.endpoints_map_registered es
  have once : Log.Plain (es.map .registered) := by
    rw [Log.Plain,log]
    exact List.pairwise_of_forall_mem_list fun _ _ f member _ => plain f member
  have replayed : empty.replay (es.map .registered) = ofList es := replay_registered empty es
  have refines : Refines (es.map .registered) (ofList es) := replayed ▸ replay_refines _ once
  have stored : ∀ key e, (ofList es).get? key = some e → ∃ f ∈ es, e = { f with responses := [] } := by
    intro key e found
    rw [refines.endpoint,Log.stored?,Option.map_eq_some_iff] at found
    obtain ⟨f,last,rfl⟩ := found
    refine ⟨f,?_,by rw [Log.samples_map_registered plain]⟩
    have member : f ∈ Log.endpoints (es.map .registered) := (List.mem_filter.mp (List.mem_of_getLast? last)).1
    rwa [log] at member
  refine ⟨?_,fun key e found => refines.key found,?_,?_⟩
  · exact replayed ▸ nodup_replay (r := empty) List.nodup_nil _
  · intro key e found
    obtain ⟨f,_,rfl⟩ := stored key e found
    rfl
  · intro key e found
    obtain ⟨f,member,rfl⟩ := stored key e found
    exact static f member

end Registry

namespace Capture

open Registry

/-- The registry after attempts in order. -/
def attemptAll (r : Registry) (attempts : List Attempt) : Registry := attempts.foldl Attempt.apply r

/-- A sample that attempts leave under a registered key. -/
def Kept (r : Registry) (attempts : List Attempt) (key : Text) (sample : Response) : Prop :=
  key ∈ r.keys ∧ ∃ a ∈ attempts, ∃ x, a.exchange? = some x ∧ x.key = key ∧ x.sample? = some sample

theorem attemptAll_eq (r : Registry) (attempts : List Attempt) :
    attemptAll r attempts = r.replay (attempts.flatMap Attempt.entries) :=
  foldl_eq_replay Attempt.apply_eq r attempts

theorem endpoints_attempts (attempts : List Attempt) : Log.endpoints (attempts.flatMap Attempt.entries) = [] := by
  induction attempts with
  | nil => rfl
  | cons a rest ih => rw [List.flatMap_cons,Log.endpoints_append,a.endpoints_entries,ih,List.append_nil]

/-- The samples that attempts leave are those that are kept. -/
theorem mem_samples_attemptAll {r : Registry} (fresh : r.IsFresh) {attempts : List Attempt}
    (conforms : ∀ a ∈ attempts, a.Conforms) (key : Text) (sample : Response) :
    sample ∈ (attemptAll r attempts).samples key ↔ Kept r attempts key sample := by
  have sampling := endpoints_attempts attempts
  rw [attemptAll_eq]
  by_cases present : key ∈ r.keys
  · have bare : r.samples key = [] := by
      unfold samples
      cases found : r.get? key with
      | none => rfl
      | some e => exact fresh.bare key e found
    have written : ∀ a ∈ attempts, (sample ∈ a.entries.filterMap (Entry.sample? key) ↔
        ∃ x, a.exchange? = some x ∧ x.key = key ∧ x.sample? = some sample) := by
      intro a member
      rw [Attempt.entries_of_conforms (conforms a member)]
      cases a.exchange? with
      | none => simp
      | some x =>
        simp only [Option.elim_some,x.filterMap_entries,Option.mem_toList,Option.ite_none_right_eq_some,
          Option.some.injEq,exists_eq_left']
    rw [samples_replay_of_endpoints r sampling present,bare,List.nil_append,List.filterMap_flatMap,List.mem_flatMap]
    refine ⟨fun ⟨a,member,own⟩ => ⟨present,a,member,(written a member).mp own⟩,?_⟩
    rintro ⟨_,a,member,own⟩
    exact ⟨a,member,(written a member).mpr own⟩
  · have absent : (r.replay (attempts.flatMap Attempt.entries)).get? key = none := by
      rw [← Option.not_isSome_iff_eq_none,get?_isSome,keys_replay_of_endpoints r sampling]
      exact present
    refine ⟨fun member => ?_,fun kept => absurd kept.1 present⟩
    simp [samples,absent] at member

/-- The status of an exchange can be written, and what its body says is nested at most two hundred levels deep. -/
structure Exchange.IsOrdinary (x : Exchange) : Prop where
  status : isWritableInt x.status = true
  shallow : ∀ v, loaded? (.foreign (.bytes x.body)) = some v → v.nesting ≤ 200

/-- A sample of an exchange is the shape of its body with its status. -/
theorem isShape_of_sample? {x : Exchange} {sample : Response} (found : x.sample? = some sample) :
    IsShape sample.body ∧ sample.status = x.status := by
  unfold Exchange.sample? at found
  split at found
  · cases found
  · obtain ⟨v,loaded,redacted⟩ := Option.bind_eq_some_iff.mp found
    obtain ⟨shape,own,rfl⟩ := Option.map_eq_some_iff.mp redacted
    cases run : redact v with
    | error kind => rw [run] at own; cases own
    | ok w =>
      rw [run] at own
      cases own
      exact ⟨isShape_of_redactWithin (decoded_of_loaded loaded) run,rfl⟩

/-- What attempts leave is sound, but perhaps for the names in samples. -/
theorem isSound_attemptAll {r : Registry} (fresh : r.IsFresh) {attempts : List Attempt}
    (conforms : ∀ a ∈ attempts, a.Conforms) (ordinary : ∀ a ∈ attempts, ∀ x, a.exchange? = some x → x.IsOrdinary) :
    (attemptAll r attempts).snapshot.IsSound := by
  have sampling := endpoints_attempts attempts
  have distinct : (attemptAll r attempts).keys.Nodup := by
    rw [attemptAll_eq,keys_replay_of_endpoints r sampling]
    exact fresh.distinct
  refine ⟨distinct,fun ⟨key,e⟩ member => ?_,fun ⟨key,e⟩ member sample among => ?_⟩
  · have found := (mem_entries_iff distinct key e).mp member
    have same := documentation_replay_of_endpoints r sampling key
    rw [← attemptAll_eq,found] at same
    obtain ⟨old,before,documentation⟩ := Option.map_eq_some_iff.mp same.symm
    have texts : e.texts = old.texts :=
      (congrArg Endpoint.texts documentation.symm : e.documentation.texts = old.documentation.texts)
    have static := fresh.static key old before
    have named : Text.IsEncodable old.key :=
      isEncodable_key (static old.method (by simp [Endpoint.texts])) (static old.path (by simp [Endpoint.texts]))
    exact ⟨fresh.key key old before ▸ named,texts ▸ static⟩
  · have found := (mem_entries_iff distinct key e).mp member
    have kept : sample ∈ (attemptAll r attempts).samples key := by
      simpa [samples,found] using among
    obtain ⟨_,a,known,x,exchange,_,own⟩ := (mem_samples_attemptAll fresh conforms key sample).mp kept
    obtain ⟨shape,status⟩ := isShape_of_sample? own
    exact ⟨shape,status ▸ (ordinary a known x exchange).status⟩

/-- The names in the samples of the snapshot are those in the samples that are kept. -/
theorem hasEncodableSamples_attemptAll {r : Registry} (fresh : r.IsFresh) {attempts : List Attempt}
    (conforms : ∀ a ∈ attempts, a.Conforms) (distinct : (attemptAll r attempts).keys.Nodup) :
    (attemptAll r attempts).snapshot.HasEncodableSamples ↔
      ∀ key sample, Kept r attempts key sample → ∀ t ∈ sample.body.texts, t.IsEncodable := by
  constructor
  · intro encodable key sample kept
    have member := (mem_samples_attemptAll fresh conforms key sample).mpr kept
    cases found : (attemptAll r attempts).get? key with
    | none => simp [samples,found] at member
    | some e =>
      have among : sample ∈ e.responses := by simpa [samples,found] using member
      exact encodable (key,e) ((mem_entries_iff distinct key e).mpr found) sample among
  · rintro encodable ⟨key,e⟩ member sample among
    have found := (mem_entries_iff distinct key e).mp member
    have own : sample ∈ (attemptAll r attempts).samples key := by simpa [samples,found] using among
    exact encodable key sample ((mem_samples_attemptAll fresh conforms key sample).mp own)

/-- After attempts to record ordinary responses the documentation is rendered, in whatever format, exactly when every name in the
    samples that are kept can be encoded. -/
theorem render_collected (r : Registry) (fresh : r.IsFresh) (attempts : List Attempt)
    (conforms : ∀ a ∈ attempts, a.Conforms) (ordinary : ∀ a ∈ attempts, ∀ x, a.exchange? = some x → x.IsOrdinary)
    (format : Format) :
    (∃ b, (attemptAll r attempts).snapshot.render format = .ok b) ↔
      ∀ key sample, Kept r attempts key sample → ∀ t ∈ sample.body.texts, t.IsEncodable := by
  have sound := isSound_attemptAll fresh conforms ordinary
  rw [Snapshot.render_iff sound format,hasEncodableSamples_attemptAll fresh conforms sound.distinct]

/-! The name in one body is a letter beyond ASCII, and the name in another is half of a pair. -/

private def documented : Registry := .ofList [{ method := "GET", path := "/a" }]

private def bodyOctets (body : String) : Bytes := body.toList.map (·.toNat.toUInt8)

private def letter : Bytes := bodyOctets "\x7b\"\\u00e9\":1\x7d"

private def half : Bytes := bodyOctets "\x7b\"\\ud800\":1\x7d"

private def recorded (body : Bytes) : List Attempt := [.call "GET" "/a" (.int 200) (.foreign (.bytes body))]

private theorem isFresh_documented : documented.IsFresh := isFresh_ofList (by simp) (by simp [Endpoint.texts])

private theorem conforms_recorded (body : Bytes) : ∀ a ∈ recorded body, a.Conforms := by
  simp [recorded,Attempt.Conforms]

private theorem exchange_recorded {body : Bytes} {a : Attempt} (member : a ∈ recorded body) {x : Exchange}
    (exchange : a.exchange? = some x) : x = ⟨"GET","/a",200,body⟩ := by
  rw [List.mem_singleton.mp member] at exchange
  exact (Option.some.inj exchange).symm

private theorem ordinary_recorded {body : Bytes} {name : Text}
    (loaded : loaded? (.foreign (.bytes body)) = some (.obj [(name,.int 1)])) :
    ∀ a ∈ recorded body, ∀ x, a.exchange? = some x → x.IsOrdinary := by
  intro a member x exchange
  rw [exchange_recorded member exchange]
  refine ⟨Value.isWritableInt_of_lt (by decide : (200 : Int).natAbs < 1000),fun v found => ?_⟩
  obtain rfl := Option.some.inj (loaded.symm.trans found)
  exact (by decide : 1 ≤ 200)

private theorem kept_recorded {body : Bytes} {name : Text}
    (loaded : loaded? (.foreign (.bytes body)) = some (.obj [(name,.int 1)])) (key : Text) (sample : Response) :
    Kept documented (recorded body) key sample ↔ key = endpointKey "GET" "/a" ∧ sample = ⟨.obj [(name,.int 0)],200⟩ := by
  have own : Exchange.sample? ⟨"GET","/a",200,body⟩ = some ⟨.obj [(name,.int 0)],200⟩ := by
    cases body with
    | nil => cases loaded
    | cons b rest =>
      rw [Exchange.sample?,loaded]
      rfl
  constructor
  · rintro ⟨_,a,member,x,exchange,rfl,found⟩
    rw [exchange_recorded member exchange,own] at found
    exact ⟨by rw [exchange_recorded member exchange]; rfl,(Option.some.inj found).symm⟩
  · rintro ⟨rfl,rfl⟩
    exact ⟨by decide,_,List.mem_singleton_self _,_,rfl,rfl,own⟩

theorem render_collected_letter :
    documented.IsFresh ∧ (∀ a ∈ recorded letter, a.Conforms) ∧
    Kept documented (recorded letter) (endpointKey "GET" "/a") ⟨.obj [([0xE9],.int 0)],200⟩ ∧
    ∀ format, ∃ b, (attemptAll documented (recorded letter)).snapshot.render format = .ok b := by
  have loaded : loaded? (.foreign (.bytes letter)) = some (.obj [([0xE9],.int 1)]) := by decide +kernel
  refine ⟨isFresh_documented,conforms_recorded _,(kept_recorded loaded _ _).mpr ⟨rfl,rfl⟩,fun format => ?_⟩
  have rendered := render_collected documented isFresh_documented (recorded letter) (conforms_recorded letter)
    (ordinary_recorded loaded) format
  refine rendered.mpr fun key sample kept t member => ?_
  rw [((kept_recorded loaded key sample).mp kept).2] at member
  rw [List.mem_singleton.mp member]
  decide

/-- A name with a surrogate in it is kept as it is, and with it the documentation is rendered in no format. -/
theorem render_collected_half :
    documented.IsFresh ∧ (∀ a ∈ recorded half, a.Conforms) ∧
    Kept documented (recorded half) (endpointKey "GET" "/a") ⟨.obj [([0xD800],.int 0)],200⟩ ∧
    ∀ format, ¬ ∃ b, (attemptAll documented (recorded half)).snapshot.render format = .ok b := by
  have loaded : loaded? (.foreign (.bytes half)) = some (.obj [([0xD800],.int 1)]) := by decide +kernel
  have kept := (kept_recorded loaded (endpointKey "GET" "/a") ⟨.obj [([0xD800],.int 0)],200⟩).mpr ⟨rfl,rfl⟩
  refine ⟨isFresh_documented,conforms_recorded _,kept,fun format rendered => ?_⟩
  have sound := isSound_attemptAll isFresh_documented (conforms_recorded half) (ordinary_recorded loaded)
  have encodable := (hasEncodableSamples_attemptAll isFresh_documented (conforms_recorded half) sound.distinct).mp
    ((Snapshot.render_iff sound format).mp rendered)
  have name := encodable _ _ kept [0xD800] (by simp [Value.texts,Value.memberTexts])
  exact absurd (name 0xD800 (by simp)) (by decide)

end Capture

end ApiDocs
