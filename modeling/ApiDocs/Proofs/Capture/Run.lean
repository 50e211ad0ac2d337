import ApiDocs.Proofs.Capture.Attempt
import ApiDocs.Proofs.Redaction.Compact

/-!
What is kept after a run of an application that is documented while it is served. The samples of a key are those of
the exchanges under it since it was first registered, in their order (`responses_run`): whatever else was loaded or
recorded in between, whichever way an exchange came, and however its body was split. An exchange has a sample exactly
when its body says a document that redaction has room for (`run_captures`).
-/
namespace ApiDocs.Capture

open Registry

/-- What happens while an application is served: endpoints are loaded, or a response is to be recorded. -/
inductive Action where
  | load (es : List Endpoint)
  | attempt (a : Attempt)

namespace Action

/-- The registry after an action. -/
def apply (r : Registry) : Action → Registry
  | load es => r.load es
  | attempt a => a.apply r

/-- What an action writes. -/
def entries : Action → List Entry
  | load es => es.map .registered
  | attempt a => a.entries

/-- An action is made as it should be: loaded endpoints bring no samples, and attempts conform. -/
def Conforms : Action → Prop
  | load es => ∀ e ∈ es, e.responses = []
  | attempt a => a.Conforms

/-- The endpoints that an action registers. -/
def loaded : Action → List Endpoint
  | load es => es
  | attempt _ => []

/-- An endpoint is registered under a key. -/
def registers (key : Text) (a : Action) : Bool := a.loaded.any (·.key = key)

/-- The sample of an exchange under a key. -/
def sample? (key : Text) : Action → Option Response
  | load _ => none
  | attempt a => a.exchange?.bind fun x => if x.key = key then x.sample? else none

end Action

/-- The registry after actions in order. -/
def run (r : Registry) (actions : List Action) : Registry := actions.foldl Action.apply r

/-- The actions from the first one on that registers a key. -/
def since (key : Text) (actions : List Action) : List Action := actions.dropWhile (!·.registers key)

/-- What actions write, in order. -/
def written (actions : List Action) : List Entry := actions.flatMap Action.entries

theorem Action.apply_eq (r : Registry) (a : Action) : a.apply r = r.replay a.entries := by
  cases a with
  | load es => exact (replay_registered r es).symm
  | attempt a => exact a.apply_eq r

theorem run_eq (r : Registry) (actions : List Action) : run r actions = r.replay (written actions) :=
  foldl_eq_replay Action.apply_eq r actions

theorem Action.endpoints_entries (a : Action) : Log.endpoints a.entries = a.loaded := by
  cases a with
  | load es => exact Log.endpoints_map_registered es
  | attempt a => exact a.endpoints_entries

theorem endpoints_written (actions : List Action) :
    Log.endpoints (written actions) = actions.flatMap Action.loaded := by
  induction actions with
  | nil => rfl
  | cons a rest ih =>
    unfold written at ih ⊢
    rw [List.flatMap_cons,Log.endpoints_append,a.endpoints_entries,ih,List.flatMap_cons]

theorem Action.mem_keys_entries (key : Text) (a : Action) : key ∈ Log.keys a.entries ↔ a.registers key = true := by
  simp [Log.mem_keys,a.endpoints_entries,registers]

/-- A key is in the log when an action registers it. -/
theorem mem_keys_written (key : Text) (actions : List Action) :
    key ∈ Log.keys (written actions) ↔ ∃ a ∈ actions, a.registers key = true := by
  simp only [Log.mem_keys,endpoints_written,List.mem_flatMap,Action.registers,List.any_eq_true,decide_eq_true_eq]
  constructor
  · rintro ⟨e,⟨a,member,loaded⟩,own⟩
    exact ⟨a,member,e,loaded,own⟩
  · rintro ⟨a,member,e,loaded,own⟩
    exact ⟨e,⟨a,member,loaded⟩,own⟩

theorem plain_written {actions : List Action} (conforms : ∀ a ∈ actions, a.Conforms) :
    Log.Plain (written actions) := by
  unfold Log.Plain
  rw [endpoints_written]
  refine List.pairwise_of_forall_mem_list (fun e _ f member _ => ?_)
  obtain ⟨a,known,loaded⟩ := List.mem_flatMap.mp member
  cases a with
  | load es => exact conforms (.load es) known f loaded
  | attempt a => cases loaded

theorem Exchange.filterMap_entries (x : Exchange) (key : Text) :
    x.entries.filterMap (Entry.sample? key) = (if x.key = key then x.sample? else none).toList := by
  unfold Exchange.entries sampled Exchange.key
  cases x.sample? with
  | none => simp
  | some sample => by_cases own : endpointKey x.method x.path = key <;> simp [own,Entry.sample?]

/-- The samples that an action hands in under a key: the one of its exchange, if that is under the key. -/
theorem Action.filterMap_entries {a : Action} (conforms : a.Conforms) (key : Text) :
    a.entries.filterMap (Entry.sample? key) = (a.sample? key).toList := by
  cases a with
  | load es => simp [entries,sample?,List.filterMap_map,Function.comp_def,Entry.sample?]
  | attempt a =>
    simp only [entries,sample?,Attempt.entries_of_conforms conforms]
    cases a.exchange? with
    | none => rfl
    | some x => exact x.filterMap_entries key

theorem filterMap_written {actions : List Action} (conforms : ∀ a ∈ actions, a.Conforms) (key : Text) :
    (written actions).filterMap (Entry.sample? key) = actions.filterMap (Action.sample? key) := by
  induction actions with
  | nil => rfl
  | cons a rest ih =>
    have later := ih (fun b member => conforms b (List.mem_cons_of_mem a member))
    have first := Action.filterMap_entries (conforms a List.mem_cons_self) key
    unfold written at later ⊢
    rw [List.flatMap_cons,List.filterMap_append,first,later]
    cases found : a.sample? key <;> simp [found]

/-- An action that registers endpoints hands in no samples. -/
theorem Action.samples_entries {a : Action} (conforms : a.Conforms) (key : Text) : Log.samples key a.entries = [] := by
  cases a with
  | load es => exact Log.samples_map_registered conforms key
  | attempt a =>
    have absent : key ∉ Log.keys a.entries := fun member => by
      simp [Log.mem_keys,a.endpoints_entries] at member
    exact Log.samples_absent absent

theorem samples_written {actions : List Action} (conforms : ∀ a ∈ actions, a.Conforms) (key : Text) :
    Log.samples key (written actions) = (since key actions).filterMap (Action.sample? key) := by
  induction actions with
  | nil => rfl
  | cons a rest ih =>
    have later : ∀ b ∈ rest, b.Conforms := fun b member => conforms b (List.mem_cons_of_mem a member)
    have first : a.Conforms := conforms a List.mem_cons_self
    have split : written (a :: rest) = a.entries ++ written rest := List.flatMap_cons
    by_cases registers : a.registers key = true
    · have present : key ∈ Log.keys a.entries := (a.mem_keys_entries key).mpr registers
      have none : a.sample? key = none := by
        cases a with
        | load es => rfl
        | attempt a => simp [Action.registers,Action.loaded] at registers
      rw [split,Log.samples_append present,Action.samples_entries first,filterMap_written later,List.nil_append]
      simp [since,registers,none]
    · have absent : key ∉ Log.keys a.entries := fun member => registers ((a.mem_keys_entries key).mp member)
      rw [split,Log.samples_append_absent absent,ih later]
      simp [since,registers]

/-- After a run, the samples of a key are those of the exchanges under it since it was first registered. -/
theorem responses_run {actions : List Action} (conforms : ∀ a ∈ actions, a.Conforms) (key : Text) :
    ((run empty actions).get? key).map (·.responses) =
      if ∃ a ∈ actions, a.registers key = true then some ((since key actions).filterMap (Action.sample? key))
      else none := by
  have refines := replay_refines (written actions) (plain_written conforms)
  rw [run_eq,refines.endpoint,Log.stored?]
  by_cases registered : ∃ a ∈ actions, a.registers key = true
  · have present := (mem_keys_written key actions).mpr registered
    cases found : Log.last? key (written actions) with
    | none => exact absurd present ((Log.last?_eq_none key _).mp found)
    | some e => simp [registered,samples_written conforms]
  · have absent := fun member => registered ((mem_keys_written key actions).mp member)
    rw [(Log.last?_eq_none key _).mpr absent,if_neg registered]
    rfl

/-- After any run that conforms, a key is registered exactly when one of the actions registers it, and its samples are
    those of the exchanges under it since then, in the order in which they came to their end. An exchange has a sample
    exactly when its body is not empty and says a document which there is room for, as there is for two hundred levels: the
    shape of the document, with the status. The way of an exchange and the parts of its body are of no account, and no
    attempt to record one touches the keys, their order, or what is documented about them. -/
theorem run_captures (actions : List Action) (conforms : ∀ a ∈ actions, a.Conforms) :
    (∀ key, ((run empty actions).get? key).map (·.responses) =
      if ∃ a ∈ actions, a.registers key = true then some ((since key actions).filterMap (Action.sample? key))
      else none) ∧
    (∀ x : Exchange, ∀ v, x.body ≠ [] → loaded? (.foreign (.bytes x.body)) = some v → v.objects ≤ maxObjects →
      ∃ shape, redact v = .ok shape ∧ x.sample? = some ⟨shape,x.status⟩) ∧
    (∀ x : Exchange, (x.body = [] ∨ loaded? (.foreign (.bytes x.body)) = none ∨
      ∃ v, loaded? (.foreign (.bytes x.body)) = some v ∧ maxObjects < v.objects) → x.sample? = none) ∧
    (∀ v : Value, v.nesting ≤ 200 → v.objects ≤ maxObjects) ∧
    (∀ r (a b : Attempt), a.Conforms → b.Conforms → a.exchange? = b.exchange? → a.apply r = b.apply r) ∧
    ∀ r (a : Attempt), (a.apply r).keys = r.keys ∧
      ∀ key, ((a.apply r).get? key).map Endpoint.documentation = (r.get? key).map Endpoint.documentation :=
  ⟨responses_run conforms,fun _ _ full found fits => sample?_of_loaded full found fits,
    fun _ silent => sample?_eq_none silent,fun _ shallow => objects_le_of_nesting shallow,
    fun r _ _ first second same => Attempt.apply_eq_of_exchange first second same r,fun r a => a.keeps r⟩

private def octets (s : String) : Value := .foreign (.bytes (s.toList.map (·.toNat.toUInt8)))

private def users : Value := .obj [("type",.str "http"),("method",.str "GET"),("path",.str "/users")]

private def startOf (code : Int) : Value := .obj [("type",Asgi.startKind),("status",.int code)]

private def bodyOf (s : String) : Value := .obj [("type",Asgi.bodyKind),("body",octets s)]

/-- A call that comes too early, and one exchange in each way: null in one piece, false in two, and a list that is
    partly written before the rest is returned. Endpoints are loaded again in between, and one application fails. -/
private def mixed : List Action :=
  [.attempt (.call "GET" "/users" (.int 200) (octets "true")),
    .load [{ method := "GET", path := "/users" }],
    .attempt (.call "GET" "/users" (.int 200) (octets "null")),
    .attempt (.asgi users [.send (startOf 201),.send (bodyOf "fal"),.send (bodyOf "se")]),
    .load [{ method := "GET", path := "/users", description := "again" }],
    .attempt (.wsgi { scriptName := some "/users" } ⟨[.start (.str "404 Not Found") (.arr []) none,.write (octets "[")],
      [.chunk (octets "]")],true⟩ (some 2)),
    .attempt (.asgi users [.send (bodyOf "true"),.fail "down"])]

theorem run_captures_mixed :
    (∀ a ∈ mixed, a.Conforms) ∧
    ((run empty mixed).get? (endpointKey "GET" "/users")).map (·.responses) =
      some [⟨.null,200⟩,⟨.bool false,201⟩,⟨.arr [],404⟩] := by
  have starts (code : Int) : Asgi.Conforms (startOf code) := Asgi.conforms_start rfl rfl
  have brings (s : String) : Asgi.Conforms (bodyOf s) := Asgi.conforms_body rfl rfl
  have calls (s : String) : (Attempt.call "GET" "/users" (.int 200) (octets s)).Conforms := ⟨⟨200,rfl⟩,_,rfl⟩
  have line : statusOfLine (.str "404 Not Found") = .ok 404 := rfl
  have conforms : ∀ a ∈ mixed, a.Conforms := by
    simp only [mixed,List.forall_mem_cons,Action.Conforms]
    refine ⟨calls _,by simp,calls _,?_,by simp,?_,?_,by simp⟩
    · simp [Attempt.Conforms,Asgi.sends,starts,brings]
    · simp [Attempt.Conforms,Wsgi.App.steps,Wsgi.Item.Conforms,line,octets]
    · simp [Attempt.Conforms,Asgi.sends,brings]
  have registered : ∃ a ∈ mixed, a.registers (endpointKey "GET" "/users") = true :=
    ⟨_,.tail _ (.head _),by decide⟩
  refine ⟨conforms,((run_captures mixed conforms).1 _).trans ?_⟩
  rw [if_pos registered]
  rfl

/-! A request whose body says a document of six hundred objects, one inside the other, is answered like any other one, but
no sample is kept. -/

def deepBody : Bytes := compactOctets (Value.nested 600)

theorem deepBody_ne_nil : deepBody ≠ [] := fun empty => by
  obtain ⟨⟨v,found,_⟩,_⟩ := redactBody_nested (n := 600) (by decide) (by decide)
  rw [show compactOctets (Value.nested 600) = [] from empty] at found
  cases found

theorem loaded_deepBody : ∃ v, loaded? (.foreign (.bytes deepBody)) = some v ∧ maxObjects < v.objects :=
  (redactBody_nested (by decide) (by decide)).1

private def inOnePiece (body : Bytes) : List Action :=
  [.load [{ method := "GET", path := "/users" }],
    .attempt (.asgi users [.send (startOf 200),.send (.obj [("type",Asgi.bodyKind),("body",.foreign (.bytes body))])])]

theorem conforms_inOnePiece (body : Bytes) : ∀ a ∈ inOnePiece body, a.Conforms := by
  have starts : Asgi.Conforms (startOf 200) := Asgi.conforms_start rfl rfl
  have brings : Asgi.Conforms (.obj [("type",Asgi.bodyKind),("body",.foreign (.bytes body))]) := Asgi.conforms_body rfl rfl
  simp only [inOnePiece,List.forall_mem_cons,Action.Conforms]
  exact ⟨by simp,by simp [Attempt.Conforms,Asgi.sends,starts,brings],by simp⟩

theorem exchange?_inOnePiece (body : Bytes) : Asgi.exchange? users [.send (startOf 200),
    .send (.obj [("type",Asgi.bodyKind),("body",.foreign (.bytes body))])] = some ⟨"GET","/users",200,body⟩ := by
  have requested : Asgi.request? users = some (("GET" : Text),("/users" : Text)) := rfl
  have parts : List.filterMap Asgi.part? [startOf 200,.obj [("type",Asgi.bodyKind),("body",.foreign (.bytes body))]] =
      [.status 200,.data body] := rfl
  have last : lastStatus [.status 200,.data body] = 200 := rfl
  have octets : joined [.status 200,.data body] = body := by simp [joined,Part.octets]
  simp [Asgi.exchange?,Asgi.fails,Asgi.ownFault?,Asgi.sends,requested,parts,last,octets]

theorem responses_inOnePiece {body : Bytes} (lost : Exchange.sample? ⟨"GET","/users",200,body⟩ = none) :
    ((run empty (inOnePiece body)).get? (endpointKey "GET" "/users")).map (·.responses) = some [] := by
  have registered : ∃ a ∈ inOnePiece body, a.registers (endpointKey "GET" "/users") = true := ⟨_,.head _,by decide⟩
  have silent : ∀ a ∈ inOnePiece body, a.sample? (endpointKey "GET" "/users") = none := by
    simp only [inOnePiece,List.forall_mem_cons,Action.sample?,Attempt.exchange?,exchange?_inOnePiece,Option.bind_some,lost]
    simp
  rw [responses_run (conforms_inOnePiece body),if_pos registered]
  exact congrArg some (List.filterMap_eq_nil_iff.mpr fun a member => silent a (List.dropWhile_subset _ member))

theorem run_captures_deep :
    (∀ a ∈ inOnePiece deepBody, a.Conforms) ∧ deepBody ≠ [] ∧ (∃ v, loaded? (.foreign (.bytes deepBody)) = some v) ∧
    ((run empty (inOnePiece deepBody)).get? (endpointKey "GET" "/users")).map (·.responses) = some [] := by
  have lost := sample?_eq_none (x := ⟨"GET","/users",200,deepBody⟩) (.inr (.inr loaded_deepBody))
  exact ⟨conforms_inOnePiece deepBody,deepBody_ne_nil,loaded_deepBody.imp fun _ => And.left,responses_inOnePiece lost⟩

end ApiDocs.Capture
