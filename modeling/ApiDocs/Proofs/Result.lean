/-!
What a run that succeeded says of the runs that it was made from.
-/
namespace ApiDocs

variable {ε α β : Type} {outcome : Except ε α}

theorem map_eq_ok {f : α → β} {b : β} (run : outcome.map f = .ok b) : ∃ a, outcome = .ok a ∧ f a = b := by
  cases outcome with
  | error e => cases run
  | ok a => exact ⟨a,rfl,Except.ok.inj run⟩

theorem eq_ok_of_toOption {a : α} (found : outcome.toOption = some a) : outcome = .ok a := by
  cases outcome with
  | error e => cases found
  | ok b => exact congrArg Except.ok (Option.some.inj found)

end ApiDocs
