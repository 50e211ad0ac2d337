import ApiDocs.Proofs.Capture.Wsgi
import Mathlib.Logic.Function.Iterate

/-!
A documented request over WSGI, turn by turn. What it comes to is settled by how far it has come, and no turn changes it
(`outcome_next`), so a request that takes its turns ends as it is served (`turns_ended`). The registry is that before the
request up to the turn that records the response (`registry_turns`), and by then the server has seen everything
(`seen_of_recorded`).
-/
namespace ApiDocs.Wsgi

open Capture Registry

/-- How far a documented request has come. -/
inductive Stage where
  /-- The server was given an iterable, and has pulled nothing yet. -/
  | waiting
  /-- The application was called; it does these acts before it returns its own iterable. -/
  | calling (acts : List Act)
  /-- The server pulls, at most so many chunks more, and these items remain. -/
  | pulling (left : Option Nat) (items : List Item)
  /-- The iteration has ended, and the iterable of the application is to be closed. -/
  | closing (finish : Finish)
  /-- The response was sent completely, and is to be recorded. -/
  | recording
  | ended (finish : Finish)

/-- A documented request under way. -/
structure Course where
  stage : Stage := .waiting
  flight : Flight := ({} : Flight).see .returned

namespace Course

/-- The request after its next turn. -/
def next (app : App) (pulls : Option Nat) (c : Course) : Course :=
  match c.stage with
  | .waiting =>
    if pulls = some 0 then { c with stage := .ended .abandoned } else ⟨.calling app.pre,c.flight.see .called⟩
  | .calling [] => { c with stage := .pulling pulls app.items }
  | .calling (a :: rest) =>
    match c.flight.act true a with
    | .error fault => { c with stage := .ended (.failed fault) }
    | .ok f => ⟨.calling rest,f⟩
  | .pulling _ [] => { c with stage := .closing .complete }
  | .pulling left (.act a :: rest) =>
    match c.flight.act true a with
    | .error fault => { c with stage := .closing (.failed fault) }
    | .ok f => ⟨.pulling left rest,f⟩
  | .pulling left (.chunk data :: rest) =>
    let f := { c.flight with draft := c.flight.draft.add data }.see (.chunk data)
    if left = some 1 then ⟨.closing .abandoned,f⟩ else ⟨.pulling (left.map (· - 1)) rest,f⟩
  | .closing .complete => ⟨.recording,c.flight.close app⟩
  | .closing finish => ⟨.ended finish,c.flight.close app⟩
  | .recording => { c with stage := .ended .complete }
  | .ended _ => c

/-- The registry after the next turn: a complete response is recorded. -/
def write (method path : Text) (r : Registry) (c : Course) : Registry :=
  match c.stage with
  | .recording => (c.flight.draft.finish (.wsgiFailed method path) method path r).1
  | _ => r

/-- The registry and the request after the next turn. -/
def turn (method path : Text) (app : App) (pulls : Option Nat) : Registry × Course → Registry × Course
  | (r,c) => (c.write method path r,c.next app pulls)

/-- The registry and the request after so many turns from the beginning. -/
def turns (method path : Text) (app : App) (pulls : Option Nat) (r : Registry) (n : Nat) : Registry × Course :=
  (turn method path app pulls)^[n] (r,{})

end Course

/-- A request whose items are iterated to the end, and its iterable closed. -/
def Flight.iterate (app : App) (left : Option Nat) (f : Flight) (items : List Item) : Flight × Finish :=
  match f.pull true left items with
  | (f,finish) => (f.close app,finish)

/-- A request whose application does what it does before it returns, and is iterated. -/
def Flight.call (app : App) (pulls : Option Nat) (f : Flight) (acts : List Act) : Flight × Finish :=
  match f.acts true acts with
  | (f,some fault) => (f,.failed fault)
  | (f,none) => f.iterate app pulls app.items

namespace Course

/-- What a request comes to when it goes on to its end. -/
def outcome (app : App) (pulls : Option Nat) (c : Course) : Flight × Finish :=
  match c.stage with
  | .waiting => if pulls = some 0 then (c.flight,.abandoned) else (c.flight.see .called).call app pulls app.pre
  | .calling acts => c.flight.call app pulls acts
  | .pulling left items => c.flight.iterate app left items
  | .closing finish => (c.flight.close app,finish)
  | .recording => (c.flight,.complete)
  | .ended finish => (c.flight,finish)

/-- No turn changes what a request comes to. -/
theorem outcome_next (app : App) (pulls : Option Nat) (c : Course) :
    (c.next app pulls).outcome app pulls = c.outcome app pulls := by
  obtain ⟨stage,f⟩ := c
  cases stage with
  | waiting =>
    by_cases unpulled : pulls = some 0
    · simp [next,outcome,unpulled]
    · simp [next,outcome,unpulled]
  | calling acts =>
    cases acts with
    | nil => rfl
    | cons a rest =>
      cases act : f.act true a with
      | error fault => simp [next,outcome,Flight.call,Flight.acts,act]
      | ok g => simp [next,outcome,Flight.call,Flight.acts,act]
  | pulling left items =>
    cases items with
    | nil => rfl
    | cons item rest =>
      cases item with
      | act a =>
        cases act : f.act true a with
        | error fault => simp [next,outcome,Flight.iterate,Flight.pull,act]
        | ok g => simp [next,outcome,Flight.iterate,Flight.pull,act]
      | chunk data =>
        by_cases last : left = some 1
        · simp [next,outcome,Flight.iterate,Flight.pull,last]
        · simp [next,outcome,Flight.iterate,Flight.pull,last]
  | closing finish => cases finish <;> rfl
  | recording => rfl
  | ended finish => rfl

end Course

@[simp] theorem Flight.draft_close (f : Flight) (app : App) : (f.close app).draft = f.draft := by
  unfold Flight.close
  split <;> rfl

/-- A documented request is served as its course comes out. -/
theorem serveDocumented_eq (r : Registry) (method path : Text) (app : App) (pulls : Option Nat) :
    serveDocumented r method path app pulls =
      match ({} : Course).outcome app pulls with
      | (f,.failed fault) => ⟨r,[],f.seen.reverse,some fault⟩
      | (f,.abandoned) => ⟨r,[],f.seen.reverse,none⟩
      | (f,.complete) =>
        let (r,events) := f.draft.finish (.wsgiFailed method path) method path r
        ⟨r,events,f.seen.reverse,none⟩ := by
  unfold serveDocumented Course.outcome Flight.call Flight.iterate
  by_cases unpulled : pulls = some 0
  · simp [unpulled]
  · simp only [unpulled,↓reduceIte]
    cases (({} : Flight).see .returned |>.see .called).acts true app.pre with
    | mk f stop =>
      cases stop with
      | some fault => rfl
      | none =>
        dsimp only
        cases f.pull true pulls app.items with
        | mk g finish => cases finish <;> simp

namespace Course

variable (method path : Text) (app : App) (pulls : Option Nat) (r : Registry)

/-- A request ends complete by recording its response, and in no other way. -/
theorem stage_of_next_complete {c : Course} (ended : (c.next app pulls).stage = .ended .complete) :
    c.stage = .recording ∨ c.stage = .ended .complete := by
  obtain ⟨stage,f⟩ := c
  cases stage with
  | waiting => by_cases unpulled : pulls = some 0 <;> simp [next,unpulled] at ended
  | calling acts =>
    cases acts with
    | nil => simp [next] at ended
    | cons a rest => cases act : f.act true a <;> simp [next,act] at ended
  | pulling bound items =>
    cases items with
    | nil => simp [next] at ended
    | cons item rest =>
      cases item with
      | act a => cases act : f.act true a <;> simp [next,act] at ended
      | chunk data => by_cases last : bound = some 1 <;> simp [next,last] at ended
  | closing finish => cases finish <;> simp [next] at ended
  | recording => exact .inl rfl
  | ended finish => exact .inr ended

theorem next_of_ended {c : Course} {finish : Finish} (ended : c.stage = .ended finish) : c.next app pulls = c := by
  obtain ⟨stage,f⟩ := c
  cases ended
  rfl

/-! ### The registry -/

/-- The registry at some point of a course: the one before, until a complete response was recorded. -/
def left (r served : Registry) (c : Course) : Registry :=
  match c.stage with
  | .ended .complete => served
  | _ => r

theorem left_of_stage {c : Course} {r served : Registry} (unended : c.stage ≠ .ended .complete) :
    c.left r served = r := by
  obtain ⟨stage,f⟩ := c
  cases stage with
  | ended finish =>
    cases finish with
    | complete => exact absurd rfl unended
    | _ => rfl
  | _ => rfl

theorem write_of_stage {c : Course} {method path : Text} {r : Registry} (unrecorded : c.stage ≠ .recording) :
    c.write method path r = r := by
  obtain ⟨stage,f⟩ := c
  cases stage with
  | recording => exact absurd rfl unrecorded
  | _ => rfl

/-- The registry is changed by the turn that records a complete response, and by no other. -/
theorem write_left {c : Course} (settled : c.outcome app pulls = ({} : Course).outcome app pulls) :
    c.write method path (c.left r (serveDocumented r method path app pulls).registry) =
      (c.next app pulls).left r (serveDocumented r method path app pulls).registry := by
  by_cases recording : c.stage = .recording
  · obtain ⟨stage,f⟩ := c
    cases recording
    have complete : ({} : Course).outcome app pulls = (f,.complete) := settled.symm
    rw [serveDocumented_eq,complete]
    rfl
  · rw [write_of_stage recording]
    by_cases ended : c.stage = .ended .complete
    · rw [next_of_ended app pulls ended]
    · have unended : (c.next app pulls).stage ≠ .ended .complete := fun reached =>
        (stage_of_next_complete app pulls reached).elim recording ended
      rw [left_of_stage ended,left_of_stage unended]

theorem turns_succ (n : Nat) :
    turns method path app pulls r (n+1) = turn method path app pulls (turns method path app pulls r n) :=
  Function.iterate_succ_apply' _ _ _

/-- Throughout its turns a request comes to the same. -/
theorem outcome_turns (n : Nat) :
    (turns method path app pulls r n).2.outcome app pulls = ({} : Course).outcome app pulls := by
  induction n with
  | zero => rfl
  | succ n ih =>
    rw [turns_succ]
    exact (outcome_next app pulls _).trans ih

/-- Up to the turn that records the response, the registry is that before the request. -/
theorem registry_turns (n : Nat) :
    (turns method path app pulls r n).1 =
      (turns method path app pulls r n).2.left r (serveDocumented r method path app pulls).registry := by
  induction n with
  | zero => rfl
  | succ n ih =>
    have kept := write_left method path app pulls r (outcome_turns method path app pulls r n)
    rw [← ih] at kept
    rw [turns_succ]
    exact kept

/-- When the registry changes, the server has seen everything that there is to see of the request. -/
theorem seen_of_recorded {n : Nat}
    (changes : (turns method path app pulls r (n+1)).1 ≠ (turns method path app pulls r n).1) :
    (turns method path app pulls r n).2.flight.seen.reverse = (serveDocumented r method path app pulls).seen := by
  have settled := outcome_turns method path app pulls r n
  rw [turns_succ] at changes
  rw [serveDocumented_eq,← settled]
  generalize turns method path app pulls r n = reached at *
  obtain ⟨now,stage,f⟩ := reached
  cases stage with
  | recording => rfl
  | _ => exact absurd rfl changes

/-! ### The end -/

/-- The number of turns after which a request has ended at the latest. -/
def remaining (c : Course) : Nat :=
  match c.stage with
  | .waiting => app.pre.length + app.items.length + 5
  | .calling acts => acts.length + app.items.length + 4
  | .pulling _ items => items.length + 3
  | .closing _ => 2
  | .recording => 1
  | .ended _ => 0

theorem remaining_next (c : Course) : (c.next app pulls).remaining app ≤ c.remaining app - 1 := by
  obtain ⟨stage,f⟩ := c
  cases stage with
  | waiting => by_cases unpulled : pulls = some 0 <;> simp [next,remaining,unpulled]
  | calling acts =>
    cases acts with
    | nil => simp [next,remaining]
    | cons a rest =>
      cases act : f.act true a with
      | error fault => simp [next,remaining,act]
      | ok g =>
        simp only [next,remaining,act,List.length_cons]
        omega
  | pulling bound items =>
    cases items with
    | nil => simp [next,remaining]
    | cons item rest =>
      cases item with
      | act a => cases act : f.act true a <;> simp [next,remaining,act]
      | chunk data => by_cases last : bound = some 1 <;> simp [next,remaining,last]
  | closing finish => cases finish <;> simp [next,remaining]
  | recording => simp [next,remaining]
  | ended finish => simp [next,remaining]

theorem remaining_turns (n : Nat) :
    (turns method path app pulls r n).2.remaining app ≤ (app.pre.length + app.items.length + 5) - n := by
  induction n with
  | zero => exact Nat.le_refl _
  | succ n ih =>
    have step := remaining_next app pulls (turns method path app pulls r n).2
    rw [turns_succ]
    exact Nat.le_trans step (by omega)

/-- A request that takes its turns ends as it is served. -/
theorem turns_ended {n : Nat} (enough : app.pre.length + app.items.length + 5 ≤ n) :
    (turns method path app pulls r n).1 = (serveDocumented r method path app pulls).registry ∧
    (turns method path app pulls r n).2.flight.seen.reverse = (serveDocumented r method path app pulls).seen := by
  have settled := outcome_turns method path app pulls r n
  have registry := registry_turns method path app pulls r n
  have ended : (turns method path app pulls r n).2.remaining app = 0 := by
    have size := remaining_turns method path app pulls r n
    omega
  generalize turns method path app pulls r n = reached at *
  obtain ⟨now,stage,f⟩ := reached
  cases stage with
  | ended finish =>
    have out : ({} : Course).outcome app pulls = (f,finish) := settled.symm
    rw [serveDocumented_eq,out] at registry ⊢
    cases finish <;> exact ⟨registry,rfl⟩
  | _ => simp [remaining] at ended

/-! ### What is to record -/

/-- The copy that a request has still to record, if it comes to that. -/
def toRecord? (c : Course) : Option Draft :=
  match c.stage with
  | .ended _ => none
  | _ => completed? (c.outcome app pulls)

/-- A request that has not ended complete has to record the copy that it comes to. -/
theorem toRecord?_eq {c : Course} (unended : c.stage ≠ .ended .complete) :
    c.toRecord? app pulls = completed? (c.outcome app pulls) := by
  obtain ⟨stage,f⟩ := c
  cases stage with
  | ended finish =>
    cases finish with
    | complete => exact absurd rfl unended
    | _ => rfl
  | _ => rfl

/-- What a request has to record is settled, until it is recorded. -/
theorem toRecord?_next {c : Course} (kept : c.stage ≠ .recording) :
    (c.next app pulls).toRecord? app pulls = c.toRecord? app pulls := by
  by_cases ended : c.stage = .ended .complete
  · rw [next_of_ended app pulls ended]
  · have unended : (c.next app pulls).stage ≠ .ended .complete := fun reached =>
      (stage_of_next_complete app pulls reached).elim kept ended
    rw [toRecord?_eq app pulls ended,toRecord?_eq app pulls unended,outcome_next]

/-- At its beginning a request has to record the copy of its whole response. -/
theorem toRecord?_start : ({} : Course).toRecord? app pulls = draft? app pulls := by
  have same (f : Flight) : completed? (f.call app pulls app.pre) = completed? (f.pull true pulls app.steps) := by
    rw [App.steps,pull_acts]
    unfold Flight.call Flight.iterate
    cases f.acts true app.pre with
    | mk g stop =>
      cases stop with
      | some fault => rfl
      | none =>
        dsimp only
        cases g.pull true pulls app.items with
        | mk h finish => cases finish <;> simp [completed?]
  unfold toRecord? outcome draft?
  dsimp only
  split
  · rfl
  · exact same _

end Course

end ApiDocs.Wsgi
