import ApiDocs.Proofs.Capture.Asgi
import ApiDocs.Proofs.Capture.Wsgi

/-!
The three ways in which a response comes to be recorded, as one. Each writes at most one sample into the registry
(`Attempt.apply_eq`), and when it conforms that sample is the one of its exchange, whichever way it went
(`Attempt.entries_of_conforms`). No attempt touches the keys or what is documented about them.
-/
namespace ApiDocs.Capture

open Registry

/-- An attempt to record a response: by a call, in a request over ASGI, or in one over WSGI. -/
inductive Attempt where
  | call (method path : Text) (status body : Value)
  | asgi (scope : Value) (acts : List Asgi.Act)
  | wsgi (environ : Wsgi.Environ) (app : Wsgi.App) (pulls : Option Nat)

namespace Attempt

/-- The registry after an attempt. -/
def apply (r : Registry) : Attempt → Registry
  | call method path status body => (r.record method path status body).registry
  | asgi scope acts => (Asgi.serve r scope acts).registry
  | wsgi environ app pulls => (Wsgi.serveIn r environ app pulls).registry

/-- What an attempt writes. -/
def entries : Attempt → List Entry
  | call method path status body => sampled method path (sampleOf? status body)
  | asgi scope acts => Asgi.entries scope acts
  | wsgi environ app pulls => Wsgi.entries environ.method environ.path app pulls

/-- An attempt changes the registry by what it writes, which does not depend on the registry. -/
theorem apply_eq (r : Registry) (a : Attempt) : a.apply r = r.replay a.entries := by
  cases a with
  | call method path status body => exact record_registry r method path status body
  | asgi scope acts => exact Asgi.serve_registry r scope acts
  | wsgi environ app pulls => exact Wsgi.serve_registry r environ.method environ.path app pulls

/-- An attempt registers nothing. -/
theorem endpoints_entries (a : Attempt) : Log.endpoints a.entries = [] := by
  cases a with
  | call method path status body => exact endpoints_sampled_option method path _
  | asgi scope acts =>
    show Log.endpoints (Asgi.entries scope acts) = []
    unfold Asgi.entries
    split
    · exact endpoints_sampled_option _ _ _
    · rfl
  | wsgi environ app pulls =>
    show Log.endpoints (Wsgi.entries environ.method environ.path app pulls) = []
    unfold Wsgi.entries
    cases Wsgi.draft? app pulls with
    | none => rfl
    | some d => exact endpoints_sampled_option _ _ _

/-- An attempt leaves the keys in their order, and what is documented about each of them. -/
theorem keeps (r : Registry) (a : Attempt) :
    (a.apply r).keys = r.keys ∧
    ∀ key, ((a.apply r).get? key).map Endpoint.documentation = (r.get? key).map Endpoint.documentation := by
  rw [apply_eq]
  exact ⟨r.keys_replay_of_endpoints a.endpoints_entries,r.documentation_replay_of_endpoints a.endpoints_entries⟩

/-- The exchange of an attempt that comes to its end. -/
def exchange? : Attempt → Option Exchange
  | call method path (.int status) (.foreign (.bytes body)) => some ⟨method,path,status,body⟩
  | call .. => none
  | asgi scope acts => Asgi.exchange? scope acts
  | wsgi environ app pulls => Wsgi.exchange? environ.method environ.path app pulls

/-- An attempt is made as it should be: every status in it is an integer, and all data are octets. -/
def Conforms : Attempt → Prop
  | call _ _ status body => (∃ n, status = .int n) ∧ ∃ octets, body = .foreign (.bytes octets)
  | asgi _ acts => ∀ message ∈ Asgi.sends acts, Asgi.Conforms message
  | wsgi _ app _ => ∀ step ∈ app.steps, step.Conforms

/-- An attempt that conforms writes the sample of its exchange. -/
theorem entries_of_conforms {a : Attempt} (conforms : a.Conforms) :
    a.entries = a.exchange?.elim [] Exchange.entries := by
  cases a with
  | call method path status body =>
    obtain ⟨⟨n,rfl⟩,octets,rfl⟩ := conforms
    exact congrArg (sampled method path) (sampleOf?_eq ⟨method,path,n,octets⟩)
  | asgi scope acts => exact Asgi.entries_of_conforms conforms
  | wsgi environ app pulls => exact Wsgi.entries_of_conforms conforms environ.method environ.path pulls

/-- Attempts of one exchange do the same to every registry, in whatever way and in however many parts it came. -/
theorem apply_eq_of_exchange {a b : Attempt} (first : a.Conforms) (second : b.Conforms)
    (same : a.exchange? = b.exchange?) (r : Registry) : a.apply r = b.apply r := by
  rw [apply_eq,apply_eq,entries_of_conforms first,entries_of_conforms second,same]

end Attempt

end ApiDocs.Capture
