import ApiDocs.Proofs.Capture.Asgi

/-!
A call over ASGI as a whole. Whatever an application sends reaches the client, and the call ends as the application
does. The registry gains one sample when a documented request was answered by a body that has a shape, and is the same
otherwise (`serve_call`).
-/
namespace ApiDocs.Asgi

open Capture Registry

/-- A scope is made as it should be: it has a kind, and that of a request over HTTP a method and a path, which are
    texts. -/
structure ScopeConforms (scope : Value) : Prop where
  kind : ∃ kind, scope.member? "type" = some kind
  request : scope.member? "type" = some (.str "http") →
    ∃ method path, scope.member? "method" = some (.str method) ∧ scope.member? "path" = some (.str path)

/-- The status of the last message that starts the response, and 200 when there is none. -/
def statusOf (acts : List Act) : Int := lastStatus ((sends acts).filterMap part?)

/-- The octets of all messages that bring a part of the body, in order. -/
def bodyOf (acts : List Act) : Bytes := joined ((sends acts).filterMap part?)

/-- A call is captured with a shape: it is a request over HTTP, its method and path are documented, the application
    returns, and the whole body has that shape. -/
structure Captured (r : Registry) (scope : Value) (acts : List Act) (method path : Text) (shape : Value) : Prop where
  isHttp : scope.member? "type" = some (.str "http")
  hasMethod : scope.member? "method" = some (.str method)
  hasPath : scope.member? "path" = some (.str path)
  documented : r.isDocumented method path = true
  returns : fails acts = false
  hasShape : redactBody (.foreign (.bytes (bodyOf acts))) = .ok (some shape)

/-- Messages are sent on whatever is copied of them, as long as each of them can be copied. -/
theorem relay_sends {copy : Draft → Value → Except Fault Draft} {acts : List Act}
    (copies : ∀ message ∈ sends acts, ∀ d, ∃ e, copy d message = .ok e) (d : Draft) (before : List Value) :
    ∃ e, relay copy d before acts =
      (before.reverse ++ sends acts,(ownFault? acts).elim (.ok e) .error) := by
  induction acts generalizing d before with
  | nil => exact ⟨d,by simp [relay,sends,ownFault?]⟩
  | cons act rest ih =>
    cases act with
    | fail message => exact ⟨d,by simp [relay,sends,ownFault?]⟩
    | send message =>
      obtain ⟨next,first⟩ := copies message List.mem_cons_self d
      obtain ⟨last,later⟩ := ih (fun other member => copies other (List.mem_cons_of_mem message member)) next
        (message :: before)
      refine ⟨last,?_⟩
      have step : relay copy d before (.send message :: rest) = relay copy next (message :: before) rest := by
        simp only [relay,first]
      have ending : ownFault? (.send message :: rest) = ownFault? rest := rfl
      rw [step,later,ending]
      simp [sends]

theorem route_of_conforms (r : Registry) {scope : Value} (conforms : ScopeConforms scope) :
    ∃ target, route r scope = .ok target := by
  obtain ⟨kind,hasKind⟩ := conforms.kind
  unfold route
  rw [entry_eq_ok hasKind]
  by_cases http : kind.beq (.str "http") = true
  · have isHttp : kind = .str "http" := (Value.beq_iff kind _).mp http
    obtain ⟨method,path,hasMethod,hasPath⟩ := conforms.request (isHttp ▸ hasKind)
    simp only [bind,Except.bind,http,↓reduceIte,entry_eq_ok hasMethod,entry_eq_ok hasPath]
    exact ⟨_,rfl⟩
  · simp only [bind,Except.bind,http]
    exact ⟨none,rfl⟩

/-- The application is called, its messages are sent on, and the call fails when it does. -/
theorem serve_relays (r : Registry) {scope : Value} (addressed : ScopeConforms scope) {acts : List Act}
    (conforms : ∀ message ∈ sends acts, Conforms message) :
    (serve r scope acts).isCalled = true ∧ (serve r scope acts).sent = sends acts ∧
    (serve r scope acts).fault = ownFault? acts := by
  obtain ⟨target,routed⟩ := route_of_conforms r addressed
  unfold serve
  rw [routed]
  cases target with
  | none =>
    obtain ⟨d,relayed⟩ := @relay_sends (fun d _ => .ok d) acts (fun _ _ d => ⟨d,rfl⟩) {} []
    dsimp only
    rw [relayed]
    cases ownFault? acts <;> simp
  | some request =>
    obtain ⟨d,relayed⟩ := relay_sends (fun message member d => ⟨_,copy_eq (conforms message member) d⟩) {} []
    dsimp only
    rw [relayed]
    cases ownFault? acts <;> simp

/-- The request of a scope that conforms is over HTTP. -/
theorem request?_eq_some {scope : Value} (conforms : ScopeConforms scope) {method path : Text}
    (asked : request? scope = some (method,path)) :
    scope.member? "type" = some (.str "http") ∧ scope.member? "method" = some (.str method) ∧
    scope.member? "path" = some (.str path) := by
  obtain ⟨kind,hasKind⟩ := conforms.kind
  unfold request? at asked
  rw [hasKind,Option.bind_some] at asked
  by_cases http : kind.beq (.str "http") = true
  · have isHttp : kind = .str "http" := (Value.beq_iff kind _).mp http
    obtain ⟨givenMethod,givenPath,hasMethod,hasPath⟩ := conforms.request (isHttp ▸ hasKind)
    simp only [http,↓reduceIte,hasMethod,hasPath,Option.bind_some,Option.map_some,Value.plain,Option.some.injEq,
      Prod.mk.injEq] at asked
    obtain ⟨rfl,rfl⟩ := asked
    exact ⟨isHttp ▸ hasKind,hasMethod,hasPath⟩
  · simp [http] at asked

theorem Captured.request {r : Registry} {scope : Value} {acts : List Act} {method path : Text} {shape : Value}
    (captured : Captured r scope acts method path shape) : request? scope = some (method,path) := by
  have http : (Value.str "http").beq (.str "http") = true := (Value.beq_iff _ _).mpr rfl
  simp only [request?,captured.isHttp,captured.hasMethod,captured.hasPath,http,Option.bind_some,↓reduceIte,Option.map_some]
  rfl

/-- A call that is captured adds the sample of its response. -/
theorem Captured.registry {r : Registry} {scope : Value} {acts : List Act}
    (conforms : ∀ message ∈ sends acts, Conforms message) {method path : Text} {shape : Value}
    (captured : Captured r scope acts method path shape) :
    (serve r scope acts).registry = r.offer (endpointKey method path) ⟨shape,statusOf acts⟩ := by
  have sample : Exchange.sample? ⟨method,path,statusOf acts,bodyOf acts⟩ = some ⟨shape,statusOf acts⟩ := by
    rw [← sampleOf?_eq,sampleOf?_eq_some]
    exact ⟨shape,captured.hasShape,rfl⟩
  have exchanged : exchange? scope acts = some ⟨method,path,statusOf acts,bodyOf acts⟩ := by
    rw [exchange?,captured.returns,captured.request]
    rfl
  rw [serve_registry,entries_of_conforms conforms,exchanged,Option.elim_some,Exchange.entries,sample]
  rfl

/-- A call that is not captured leaves the registry as it was. -/
theorem registry_of_not_captured {r : Registry} {scope : Value} (addressed : ScopeConforms scope) {acts : List Act}
    (conforms : ∀ message ∈ sends acts, Conforms message)
    (passed : ¬ ∃ method path shape, Captured r scope acts method path shape) : (serve r scope acts).registry = r := by
  rw [serve_registry,entries_of_conforms conforms,exchange?]
  by_cases returns : fails acts = false
  · cases asked : request? scope with
    | none => simp [returns,replay]
    | some request =>
      obtain ⟨method,path⟩ := request
      by_cases documented : r.isDocumented method path = true
      · obtain ⟨kind,hasMethod,hasPath⟩ := request?_eq_some addressed asked
        have silent : Exchange.sample? ⟨method,path,statusOf acts,bodyOf acts⟩ = none := by
          rw [← sampleOf?_eq,Option.eq_none_iff_forall_not_mem]
          intro sample found
          obtain ⟨shape,hasShape,_⟩ := (sampleOf?_eq_some _ _ sample).mp found
          exact passed ⟨method,path,shape,kind,hasMethod,hasPath,documented,returns,hasShape⟩
        have exchanged : ∀ x : Exchange, x = ⟨method,path,statusOf acts,bodyOf acts⟩ → r.replay x.entries = r := by
          rintro x rfl
          rw [Exchange.entries,silent]
          rfl
        simp only [returns,Bool.false_eq_true,↓reduceIte,Option.map_some,Option.elim_some]
        exact exchanged _ rfl
      · simp only [returns,Bool.false_eq_true,↓reduceIte,Option.map_some,Option.elim_some]
        exact replay_sampled_undocumented documented _
  · simp [returns,replay]

/-- What comes of a call. The application is called, its messages are sent on unchanged and in order, and the call fails
    exactly when the application does, and as it does. The registry changes exactly when the call is captured, and then by one sample:
    the shape of the whole body with the status of the last start, behind the samples that its key has. -/
theorem serve_call (r : Registry) (scope : Value) (acts : List Act) (addressed : ScopeConforms scope)
    (conforms : ∀ message ∈ sends acts, Conforms message) :
    (serve r scope acts).isCalled = true ∧
    (serve r scope acts).sent = sends acts ∧
    (serve r scope acts).fault = ownFault? acts ∧
    ((serve r scope acts).registry ≠ r ↔ ∃ method path shape, Captured r scope acts method path shape) ∧
    ∀ method path shape, Captured r scope acts method path shape →
      r.append? (endpointKey method path) ⟨shape,statusOf acts⟩ = some (serve r scope acts).registry ∧
      ∀ key, (serve r scope acts).registry.samples key =
        r.samples key ++ if endpointKey method path = key then [⟨shape,statusOf acts⟩] else [] := by
  obtain ⟨called,sent,fault⟩ := serve_relays r addressed conforms
  have adds : ∀ method path shape, Captured r scope acts method path shape →
      ∀ key, (serve r scope acts).registry.samples key =
        r.samples key ++ if endpointKey method path = key then [⟨shape,statusOf acts⟩] else [] := by
    intro method path shape captured key
    rw [captured.registry conforms]
    exact samples_offer ((contains_iff r _).mp captured.documented) _ key
  refine ⟨called,sent,fault,⟨?_,?_⟩,fun method path shape captured => ⟨?_,adds method path shape captured⟩⟩
  · intro changed
    by_contra passed
    exact changed (registry_of_not_captured addressed conforms passed)
  · rintro ⟨method,path,shape,captured⟩ same
    have more := adds method path shape captured (endpointKey method path)
    rw [same,if_pos rfl] at more
    exact absurd (congrArg List.length more) (by simp)
  · rw [captured.registry conforms]
    exact append?_eq_offer ((contains_iff r _).mp captured.documented) _

private def asked : Value := .obj [("type",.str "http"),("method",.str "GET"),("path",.str "/a")]

private def message (kind : Text) (more : List (Text × Value)) : Value := .obj (("type",.str kind) :: more)

/-- The response is started late and again, and its body, which is false, comes in parts with others between them. -/
private def scattered : List Act :=
  [.send (message "http.response.body" [("body",.foreign (.bytes [0x66,0x61,0x6C]))]),
    .send (message "http.response.start" [("status",.int 201)]),
    .send (message "http.response.push" [("path",.str "/style")]),
    .send (message "http.response.body" []),
    .send (message "http.response.body" [("body",.foreign (.bytes [0x73,0x65]))]),
    .send (message "http.response.start" [("status",.int 404)])]

theorem serve_call_scattered :
    ScopeConforms asked ∧ (∀ message ∈ sends scattered, Conforms message) ∧
    (serve (.ofList [{ method := "GET", path := "/a" }]) asked scattered).sent.length = 6 ∧
    (serve (.ofList [{ method := "GET", path := "/a" }]) asked scattered).registry.samples (endpointKey "GET" "/a") =
      [⟨.bool false,404⟩] := by
  have addressed : ScopeConforms asked := ⟨⟨_,rfl⟩,fun _ => ⟨_,_,rfl,rfl⟩⟩
  have starts (code : Int) : Conforms (message "http.response.start" [("status",.int code)]) := conforms_start rfl rfl
  have brings (octets : Bytes) : Conforms (message "http.response.body" [("body",.foreign (.bytes octets))]) :=
    conforms_body rfl rfl
  have bare : Conforms (message "http.response.body" []) :=
    ⟨⟨_,rfl⟩,fun kind => absurd (Value.str.inj (Option.some.inj kind)) (by decide),fun _ _ found => by cases found⟩
  have other : Conforms (message "http.response.push" [("path",.str "/style")]) :=
    ⟨⟨_,rfl⟩,fun kind => absurd (Value.str.inj (Option.some.inj kind)) (by decide),
      fun kind => absurd (Value.str.inj (Option.some.inj kind)) (by decide)⟩
  have conforms : ∀ message ∈ sends scattered, Conforms message := by
    simp [scattered,sends,starts,brings,bare,other]
  obtain ⟨_,sent,_,_,adds⟩ := serve_call (.ofList [{ method := "GET", path := "/a" }]) asked scattered addressed conforms
  have captured : Captured (.ofList [{ method := "GET", path := "/a" }]) asked scattered "GET" "/a" (.bool false) :=
    ⟨rfl,rfl,rfl,by decide,rfl,rfl⟩
  exact ⟨addressed,conforms,by rw [sent]; rfl,((adds _ _ _ captured).2 _).trans rfl⟩

end ApiDocs.Asgi
