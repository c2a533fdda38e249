import Mathlib.Init

/-!
Contract: calls that return a value or an error.

Owns: what holds however a call ends, as one predicate, and its rules for sequences of calls and for
a call on each element of a list.
-/

namespace Magnetar.Library

universe u v

variable {ε : Type u} {α β : Type v}

/-- However the call ends: `post` holds of its value, or `fails` of its error. -/
def Ends (fails : ε → Prop) (post : α → Prop) : Except ε α → Prop
  | .ok value => post value
  | .error error => fails error

namespace Ends

variable {fails : ε → Prop} {middle : α → Prop} {post : β → Prop}

theorem bind {call : Except ε α} {next : α → Except ε β} (first : Ends fails middle call)
    (second : ∀ value, middle value → Ends fails post (next value)) :
    Ends fails post (call >>= next) := by
  cases call with
  | ok value => exact second value first
  | error => exact first

theorem mono {call : Except ε α} {stronger weaker : α → Prop} (ends : Ends fails stronger call)
    (implies : ∀ value, stronger value → weaker value) : Ends fails weaker call := by
  cases call with
  | ok value => exact implies value ends
  | error => exact ends

theorem mapM_length {call : α → Except ε β} {values : List α}
    (each : ∀ value ∈ values, Ends fails (fun _ => True) (call value)) :
    Ends fails (fun results => results.length = values.length) (values.mapM call) := by
  induction values with
  | nil => rfl
  | cons _ _ ih =>
    obtain ⟨here, later⟩ := List.forall_mem_cons.mp each
    rw [List.mapM_cons]
    apply bind here
    intro result _
    apply bind (ih later)
    intro results length
    exact congrArg Nat.succ length

end Ends

end Magnetar.Library
