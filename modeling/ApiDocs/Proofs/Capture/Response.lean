import ApiDocs.Capture.Sample
import ApiDocs.Proofs.Redaction.Shape
import ApiDocs.Proofs.Registry.Log

/-!
What recording a response writes into a registry. However a response was sent, its copy is the last status and the
joined octets of its parts (`Draft.take_ofParts`), and recording it writes at most one sample under the key of its
request (`record_registry`, `finish_registry`): the redaction of the document that its body says, if it says one
(`sampleOf?_eq`).
-/
namespace ApiDocs

open Registry (Entry)

/-- A body that says no document has no shape. -/
theorem redactBody_of_not_loaded {body : Value} (silent : loaded? body = none) (shape : Value) :
    redactBody body ≠ .ok (some shape) := by
  have ofText : ∀ t : Text, (Json.read t).toOption = none → redactText t ≠ .ok (some shape) := by
    intro t silent
    unfold redactText
    cases run : Json.read t with
    | ok v => rw [run] at silent; cases silent
    | error e => cases e <;> simp
  unfold redactBody
  split
  · rename_i b
    unfold redactBytes
    split
    · simp
    · split
      · rename_i t decoded
        rw [loaded?,decoded] at silent
        exact ofText t silent
      · simp
  · split
    · simp
    · exact ofText _ silent
  · simp
  · split <;> simp

namespace Capture

/-- The sample that a status and a body give, if they give one. -/
def sampleOf? (status body : Value) : Option Response :=
  match redactBody body with
  | .ok (some shape) => (Response.observed shape status).toOption
  | _ => none

/-- The sample of a body that has a shape is the shape with the status. -/
theorem sampleOf?_eq_some (status : Int) (body : Value) (sample : Response) :
    sampleOf? (.int status) body = some sample ↔
      ∃ shape, redactBody body = .ok (some shape) ∧ sample = ⟨shape,status⟩ := by
  have observed : ∀ shape, (Response.observed shape (.int status)).toOption = some ⟨shape,status⟩ := fun _ => rfl
  unfold sampleOf?
  cases redactBody body with
  | error e => simp
  | ok found =>
    cases found with
    | none => simp
    | some shape => simp [observed,eq_comm]

/-- What is written for a sample of a request: nothing without a sample. -/
def sampled (method path : Text) (sample : Option Response) : List Entry :=
  (sample.map (.sampled (endpointKey method path))).toList

theorem endpoints_sampled_option (method path : Text) (sample : Option Response) :
    Registry.Log.endpoints (sampled method path sample) = [] := by
  cases sample <;> rfl

/-- What is written under a key that is not registered is lost. -/
theorem replay_sampled_undocumented {r : Registry} {method path : Text}
    (undocumented : ¬ r.isDocumented method path = true) (sample : Option Response) :
    r.replay (sampled method path sample) = r := by
  cases sample with
  | none => rfl
  | some sample =>
    have absent : endpointKey method path ∉ r.keys := fun member => undocumented ((r.contains_iff _).mpr member)
    exact r.offer_absent sample absent

/-- Recording writes the sample of the call, whatever its answer. -/
theorem record_registry (r : Registry) (method path : Text) (status body : Value) :
    (r.record method path status body).registry = r.replay (sampled method path (sampleOf? status body)) := by
  unfold Registry.record sampleOf?
  cases redactBody body with
  | error e => rfl
  | ok shape =>
    cases shape with
    | none => rfl
    | some shape =>
      cases observed : Response.observed shape status with
      | error problems =>
        simp only [observed]
        rfl
      | ok sample =>
        simp only [observed]
        show _ = r.offer (endpointKey method path) sample
        unfold Registry.offer
        cases taken : r.append? (endpointKey method path) sample <;> rfl

/-- The sample of a copied response. -/
def Draft.sample? (d : Draft) : Option Response :=
  d.body.bind fun body => sampleOf? (.int d.status) (.foreign (.bytes body))

/-- A response that was sent completely is recorded with its sample. -/
theorem finish_registry (d : Draft) (failed : Text → Event) (method path : Text) (r : Registry) :
    (d.finish failed method path r).1 = r.replay (sampled method path d.sample?) := by
  unfold Draft.finish Draft.sample?
  cases d.body with
  | none => rfl
  | some body =>
    have written := record_registry r method path (.int d.status) (.foreign (.bytes body))
    -- A call that fails leaves the registry that it was given.
    have failing : ∀ e, (r.record method path (.int d.status) (.foreign (.bytes body))).result = .error e →
        (r.record method path (.int d.status) (.foreign (.bytes body))).registry = r := by
      intro e
      unfold Registry.record
      split
      · intro _; rfl
      · intro _; rfl
      · split
        · intro _; rfl
        · dsimp only
          split <;> (intro stop; cases stop)
    dsimp only [Option.bind_some]
    split
    · exact written
    all_goals
      rename_i stop
      exact (failing _ stop).symm.trans written

/-! ### Parts of a response -/

/-- What a response consists of while it is sent: statuses and octets. -/
inductive Part where
  | status (code : Int)
  | data (octets : Bytes)

/-- The status that a part gives. -/
def Part.code? : Part → Option Int
  | .status code => some code
  | .data _ => none

/-- The octets that a part brings. -/
def Part.octets : Part → Bytes
  | .status _ => []
  | .data octets => octets

/-- The status of a response: the last one given, and 200 when none is. -/
def lastStatus (parts : List Part) : Int := (parts.filterMap Part.code?).getLast?.getD 200

/-- The body of a response: its octets in order, however they were split. -/
def joined (parts : List Part) : Bytes := parts.flatMap Part.octets

/-- The copy of a response with given parts. -/
def Draft.ofParts (parts : List Part) : Draft := ⟨lastStatus parts,some (joined parts)⟩

/-- The copy with one more part. -/
def Draft.take (d : Draft) : Part → Draft
  | .status code => { d with status := code }
  | .data octets => d.add (.foreign (.bytes octets))

theorem Draft.ofParts_nil : Draft.ofParts [] = {} := rfl

/-- A copy keeps the last status and all octets in order. -/
theorem Draft.take_ofParts (parts : List Part) (part : Part) :
    (Draft.ofParts parts).take part = Draft.ofParts (parts ++ [part]) := by
  cases part with
  | status code => simp [ofParts,take,lastStatus,joined,Part.code?,Part.octets]
  | data octets => simp [ofParts,take,Draft.add,lastStatus,joined,Part.code?,Part.octets]

/-! ### Exchanges -/

/-- A request that was answered: its method and path, and the status and body of the answer. -/
structure Exchange where
  method : Text
  path : Text
  status : Int
  body : Bytes

/-- The key of a request. -/
def Exchange.key (x : Exchange) : Text := endpointKey x.method x.path

/-- The sample of an exchange: the redacted document that its body says, with its status. A body that is empty or
    says no document gives none, and neither does one whose document is too deep to be redacted. -/
def Exchange.sample? (x : Exchange) : Option Response :=
  if x.body.isEmpty then none
  else (loaded? (.foreign (.bytes x.body))).bind fun v => (redact v).toOption.map fun shape => ⟨shape,x.status⟩

/-- What an exchange writes: its sample under its key, if it has one. -/
def Exchange.entries (x : Exchange) : List Entry := sampled x.method x.path x.sample?

/-- What is recorded of an integer status and octets is the sample of their exchange. -/
theorem sampleOf?_eq (x : Exchange) : sampleOf? (.int x.status) (.foreign (.bytes x.body)) = x.sample? := by
  unfold Exchange.sample? sampleOf?
  by_cases empty : x.body.isEmpty = true
  · simp [redactBody,redactBytes,empty]
  · rw [if_neg empty]
    cases found : loaded? (.foreign (.bytes x.body)) with
    | some v =>
      rw [redactBody_of_loaded found]
      cases run : redact v <;> simp only [Option.bind_some,run] <;> rfl
    | none =>
      split
      · rename_i shape run
        exact absurd run (redactBody_of_not_loaded found shape)
      · rfl

/-- The copy of a response is recorded as the exchange of its last status and all its octets. -/
theorem sample?_ofParts (method path : Text) (parts : List Part) :
    (Draft.ofParts parts).sample? = (Exchange.sample? ⟨method,path,lastStatus parts,joined parts⟩) :=
  sampleOf?_eq ⟨method,path,lastStatus parts,joined parts⟩

/-- A body that is not empty and says a document gives a sample, whatever the document, when there is room for it. -/
theorem sample?_of_loaded {x : Exchange} {v : Value} (full : x.body ≠ [])
    (found : loaded? (.foreign (.bytes x.body)) = some v) (fits : v.objects ≤ maxObjects) :
    ∃ shape, redact v = .ok shape ∧ x.sample? = some ⟨shape,x.status⟩ := by
  obtain ⟨shape,run⟩ := (redact_ok_iff (decoded_of_loaded found).isJson).mpr fits
  refine ⟨shape,run,?_⟩
  simp [Exchange.sample?,full,found,run,Except.toOption]

/-- A body that is empty, says no document, or says one that there is no room for gives none. -/
theorem sample?_eq_none {x : Exchange} (silent : x.body = [] ∨ loaded? (.foreign (.bytes x.body)) = none ∨
    ∃ v, loaded? (.foreign (.bytes x.body)) = some v ∧ maxObjects < v.objects) : x.sample? = none := by
  rcases silent with empty | none | ⟨v,found,deep⟩
  · simp [Exchange.sample?,empty]
  · simp [Exchange.sample?,none]
  · have run : redact v = .error .tooDeep := redactWithin_tooDeep v (decoded_of_loaded found).isJson deep
    simp [Exchange.sample?,found,run,Except.toOption]

end Capture

end ApiDocs
