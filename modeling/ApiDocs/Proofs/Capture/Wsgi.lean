import ApiDocs.Capture.Wsgi
import ApiDocs.Proofs.Capture.Response

/-!
What a request over WSGI records. The application is called at the first pull, so what it does then and what its
iterable does are one sequence of steps (`pull_acts`). The copy of a response follows these steps part by part
(`completed_pull`), and a request whose steps run and whose chunks are all pulled is recorded as the exchange of its
last status and all its octets; any other is not recorded at all (`entries_of_conforms`).
-/
namespace ApiDocs.Wsgi

open Capture Registry

/-- The octets that data of a response bring. -/
def dataPart? : Value → Option Part
  | .foreign (.bytes octets) => some (.data octets)
  | _ => none

/-- The part of a response that a step carries. -/
def Item.part? : Item → Option Part
  | .act (.start status _ _) => (statusOfLine status).toOption.map .status
  | .act (.write data) => dataPart? data
  | .act (.fail _) => none
  | .chunk data => dataPart? data

/-- A step is made as it should be: a status line starts with an integer, and data are octets. -/
def Item.Conforms : Item → Prop
  | .act (.start status _ _) => ∃ code, statusOfLine status = .ok code
  | .act (.write data) => ∃ octets, data = .foreign (.bytes octets)
  | .act (.fail _) => True
  | .chunk data => ∃ octets, data = .foreign (.bytes octets)

/-- The steps can be gone to their end: none of them fails, and nothing is written before the response is started. -/
def runs : Bool → List Item → Bool
  | _,[] => true
  | _,.act (.start ..) :: rest => runs true rest
  | isStarted,.act (.write _) :: rest => isStarted && runs isStarted rest
  | _,.act (.fail _) :: _ => false
  | isStarted,.chunk _ :: rest => runs isStarted rest

/-- The number of chunks among steps. -/
def chunks : List Item → Nat
  | [] => 0
  | .act _ :: rest => chunks rest
  | .chunk _ :: rest => chunks rest + 1

/-- A server that pulls at most so many chunks comes past the last of them. -/
def consumes (pulls : Option Nat) (steps : List Item) : Bool := pulls.all (chunks steps < ·)

theorem consumes_act (pulls : Option Nat) (a : Act) (rest : List Item) :
    consumes pulls (.act a :: rest) = consumes pulls rest := rfl

/-- A chunk takes one pull. -/
theorem consumes_chunk (pulls : Option Nat) (data : Value) (rest : List Item) :
    consumes pulls (.chunk data :: rest) = consumes (pulls.map (· - 1)) rest := by
  cases pulls with
  | none => rfl
  | some n =>
    have fewer : chunks rest + 1 < n ↔ chunks rest < n - 1 := by omega
    simp only [consumes,chunks,Option.map_some,Option.all_some,fewer]

theorem consumes_nil {pulls : Option Nat} (begun : pulls ≠ some 0) : consumes pulls [] = true := by
  cases pulls with
  | none => rfl
  | some n =>
    have positive : 0 < n := Nat.pos_of_ne_zero (fun zero => begun (zero ▸ rfl))
    simp [consumes,chunks,positive]

/-- A server that has not pulled its last chunk pulls one more. -/
theorem further_pulls {pulls : Option Nat} (begun : pulls ≠ some 0) (further : pulls ≠ some 1) :
    pulls.map (· - 1) ≠ some 0 := by
  cases pulls with
  | none => simp
  | some n =>
    simp only [ne_eq,Option.some.injEq,Option.map_some] at begun further ⊢
    omega

/-- What an application does from its first pull on. -/
def App.steps (app : App) : List Item := app.pre.map .act ++ app.items

/-- What the application does when it is called is done like what its iterable does. -/
theorem pull_acts (isCopied : Bool) (left : Option Nat) (f : Flight) (acts : List Act) (items : List Item) :
    f.pull isCopied left (acts.map .act ++ items) =
      match f.acts isCopied acts with
      | (f,some fault) => (f,.failed fault)
      | (f,none) => f.pull isCopied left items := by
  induction acts generalizing f with
  | nil => rfl
  | cons act rest ih =>
    simp only [List.map_cons,List.cons_append,Flight.pull,Flight.acts]
    cases f.act isCopied act with
    | error fault => rfl
    | ok f => exact ih f

/-- The copy of a response that was pulled to its end. -/
def completed? : Flight × Finish → Option Draft
  | (f,.complete) => some f.draft
  | _ => none

/-- Steps that conform are copied part by part when they run and are consumed, and else nothing is left of them. -/
theorem completed_pull {steps : List Item} (conforms : ∀ step ∈ steps, step.Conforms) (left : Option Nat)
    (begun : left ≠ some 0) (f : Flight) (parts : List Part) (copied : f.draft = .ofParts parts) :
    completed? (f.pull true left steps) =
      if runs f.isStarted steps && consumes left steps then some (.ofParts (parts ++ steps.filterMap Item.part?))
      else none := by
  induction steps generalizing left f parts with
  | nil => simp [Flight.pull,completed?,runs,consumes_nil begun,copied]
  | cons step rest ih =>
    have first : step.Conforms := conforms step List.mem_cons_self
    have later : ∀ other ∈ rest, other.Conforms := fun other member =>
      conforms other (List.mem_cons_of_mem step member)
    have taken : ∀ part, f.draft.take part = .ofParts (parts ++ [part]) := fun part => by
      rw [copied,Draft.take_ofParts]
    cases step with
    | act a =>
      cases a with
      | start status headers cause =>
        obtain ⟨code,line⟩ := first
        simp only [Flight.pull,Flight.act,↓reduceIte,line]
        rw [ih later left begun _ (parts ++ [.status code]) (taken (.status code))]
        simp [Flight.see,runs,consumes_act,Item.part?,line,Except.toOption]
      | write data =>
        obtain ⟨octets,rfl⟩ := first
        by_cases started : f.isStarted = true
        · simp only [Flight.pull,Flight.act,started,↓reduceIte]
          rw [ih later left begun _ (parts ++ [.data octets]) (taken (.data octets))]
          simp [Flight.see,runs,consumes_act,Item.part?,dataPart?]
        · simp [Flight.pull,Flight.act,started,completed?,runs]
      | fail => rfl
    | chunk data =>
      obtain ⟨octets,rfl⟩ := first
      by_cases last : left = some 1
      · simp [Flight.pull,last,completed?,consumes,chunks]
      · simp only [Flight.pull,last,↓reduceIte]
        rw [ih later _ (further_pulls begun last) _ (parts ++ [.data octets]) (taken (.data octets))]
        simp [Flight.see,runs,consumes_chunk,Item.part?,dataPart?]

/-- The copy of a response that is served to its end. -/
def draft? (app : App) (pulls : Option Nat) : Option Draft :=
  if pulls = some 0 then none
  else completed? (((({} : Flight).see .returned).see .called).pull true pulls app.steps)

/-- What a call writes: the sample of its response, if it is served to its end. -/
def entries (method path : Text) (app : App) (pulls : Option Nat) : List Entry :=
  (draft? app pulls).elim [] fun d => sampled method path d.sample?

theorem serveOther_registry (r : Registry) (app : App) (pulls : Option Nat) :
    (serveOther r app pulls).registry = r := by
  unfold serveOther
  split
  · rfl
  · dsimp only
    split
    · rfl
    · split <;> rfl

theorem serveDocumented_registry (r : Registry) (method path : Text) (app : App) (pulls : Option Nat) :
    (serveDocumented r method path app pulls).registry = r.replay (entries method path app pulls) := by
  unfold serveDocumented entries draft? App.steps
  by_cases unpulled : pulls = some 0
  · simp only [unpulled,↓reduceIte]
    rfl
  · simp only [unpulled,↓reduceIte,pull_acts]
    cases called : (({} : Flight).see .returned |>.see .called).acts true app.pre with
    | mk f stop =>
      cases stop with
      | some fault => rfl
      | none =>
        simp only
        cases f.pull true pulls app.items with
        | mk g finish =>
          cases finish with
          | complete => exact finish_registry g.draft (.wsgiFailed method path) method path r
          | abandoned => rfl
          | failed fault => rfl

/-- A call changes the registry by what it writes, whatever the application does. -/
theorem serve_registry (r : Registry) (method path : Text) (app : App) (pulls : Option Nat) :
    (serve r method path app pulls).registry = r.replay (entries method path app pulls) := by
  unfold serve
  split
  · exact serveDocumented_registry r method path app pulls
  · rename_i undocumented
    rw [serveOther_registry,entries]
    cases draft? app pulls with
    | none => rfl
    | some d => exact (replay_sampled_undocumented undocumented d.sample?).symm

/-- A request that runs and is consumed, as an exchange of its last status and all its octets. -/
def exchange? (method path : Text) (app : App) (pulls : Option Nat) : Option Exchange :=
  if runs false app.steps && consumes pulls app.steps then
    some ⟨method,path,lastStatus (app.steps.filterMap Item.part?),joined (app.steps.filterMap Item.part?)⟩
  else none

/-- A request that conforms writes the sample of its exchange. -/
theorem entries_of_conforms {app : App} (conforms : ∀ step ∈ app.steps, step.Conforms) (method path : Text)
    (pulls : Option Nat) :
    entries method path app pulls = (exchange? method path app pulls).elim [] Exchange.entries := by
  unfold entries draft? exchange?
  by_cases unpulled : pulls = some 0
  · have kept : consumes pulls app.steps = false := by simp [unpulled,consumes]
    simp only [unpulled,↓reduceIte] at kept ⊢
    simp [kept]
  · rw [if_neg unpulled,completed_pull conforms pulls unpulled _ [] Draft.ofParts_nil.symm,List.nil_append]
    show Option.elim (if runs false app.steps && consumes pulls app.steps then _ else _) _ _ = _
    split
    · simp only [Option.elim_some,sample?_ofParts method path]
      rfl
    · rfl

end ApiDocs.Wsgi
