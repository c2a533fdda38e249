import Mathlib.Data.List.Basic

/-!
Contract: cutting a byte stream into units, piece by piece.

A receiver appends what arrives to a buffer, asks what the front of the buffer holds, and hands
each complete unit to a handler until the front is incomplete or an error stops it.

Owns: that loop, the law under which later symbols never change what the front holds, and that a
receiver under this law cannot tell how the stream was cut into pieces.

Does not own: any unit format or handler.
-/

namespace Magnetar.Library.Stream

inductive Front (ε : Type*) where
  | incomplete
  | refused (error : ε)
  | complete (length : Nat)

/-- Where a receiver stops: its state, the symbols it has not consumed, and the error if any. -/
structure Outcome (σ β ε : Type*) where
  state : σ
  buffer : List β
  error : Option ε

variable {σ β ε : Type*} (front : List β → Front ε) (accept : σ → List β → σ × Option ε)

/-- More symbols at the back leave a verdict on the front as it is, and a unit is not empty. -/
structure Stable : Prop where
  complete : ∀ {buffer length} (more : List β), front buffer = .complete length →
    front (buffer ++ more) = .complete length
  refused : ∀ {buffer error} (more : List β), front buffer = .refused error →
    front (buffer ++ more) = .refused error
  bounds : ∀ {buffer length}, front buffer = .complete length → 0 < length ∧ length ≤ buffer.length

/-- The receiver's loop, for at most `fuel` rounds. -/
def drainFor : Nat → σ → List β → Outcome σ β ε
  | 0, state, buffer => { state, buffer, error := none }
  | fuel + 1, state, buffer =>
    match front buffer with
    | .incomplete => { state, buffer, error := none }
    | .refused error => { state, buffer, error := some error }
    | .complete length =>
      match accept state (buffer.take length) with
      | (state, some error) => { state, buffer := buffer.drop length, error := some error }
      | (state, none) => drainFor fuel state (buffer.drop length)

/-- The receiver's loop.  A round consumes a symbol, so the rounds never run out. -/
def drain (state : σ) (buffer : List β) : Outcome σ β ε :=
  drainFor front accept (buffer.length + 1) state buffer

variable {front}

/-- Two fuels that both outlast the buffer stop at the same place. -/
theorem drainFor_congr (stable : Stable front) {first second : Nat} (state : σ) {buffer : List β}
    (firstEnough : buffer.length < first) (secondEnough : buffer.length < second) :
    drainFor front accept first state buffer = drainFor front accept second state buffer := by
  induction first generalizing second state buffer with
  | zero => exact absurd firstEnough (Nat.not_lt_zero _)
  | succ _ ih =>
    obtain ⟨second, rfl⟩ : ∃ fewer, second = fewer + 1 :=
      Nat.exists_eq_add_one_of_ne_zero (by omega)
    unfold drainFor
    cases shown : front buffer with
    | incomplete | refused => rfl
    | complete length =>
      obtain ⟨positive, bounded⟩ := stable.bounds shown
      have shorter : (buffer.drop length).length < buffer.length := by
        rw [List.length_drop]
        omega
      dsimp only
      rcases accept state (buffer.take length) with ⟨next, _ | error⟩
      · exact ih next (by omega) (by omega)
      · rfl

theorem drain_eq (stable : Stable front) (state : σ) (buffer : List β) :
    drain front accept state buffer =
      match front buffer with
      | .incomplete => { state, buffer, error := none }
      | .refused error => { state, buffer, error := some error }
      | .complete length =>
        match accept state (buffer.take length) with
        | (state, some error) => { state, buffer := buffer.drop length, error := some error }
        | (state, none) => drain front accept state (buffer.drop length) := by
  rw [drain, drainFor]
  cases shown : front buffer with
  | incomplete | refused => rfl
  | complete length =>
    obtain ⟨positive, bounded⟩ := stable.bounds shown
    dsimp only
    rcases accept state (buffer.take length) with ⟨next, _ | error⟩
    · apply drainFor_congr accept stable
      · rw [List.length_drop]
        omega
      · exact Nat.lt_succ_self _
    · rfl

variable (front) in
/-- What a receiver does with further symbols, once it has stopped. -/
def Outcome.resume (outcome : Outcome σ β ε) (more : List β) : Outcome σ β ε :=
  match outcome.error with
  | none => drain front accept outcome.state (outcome.buffer ++ more)
  | some _ => { outcome with buffer := outcome.buffer ++ more }

/-- Symbols that arrive later do what they would have done at once. -/
theorem drain_append (stable : Stable front) (state : σ) (buffer more : List β) :
    drain front accept state (buffer ++ more) =
      (drain front accept state buffer).resume front accept more := by
  -- On the length of what is there already: a round of both loops consumes the same unit.
  induction size : buffer.length using Nat.strongRecOn generalizing state buffer with
  | _ size ih =>
    rw [drain_eq accept stable state buffer]
    cases shown : front buffer with
    | incomplete => rfl
    | refused =>
      rw [drain_eq accept stable, stable.refused more shown]
      rfl
    | complete length =>
      obtain ⟨positive, bounded⟩ := stable.bounds shown
      rw [drain_eq accept stable, stable.complete more shown]
      dsimp only
      rw [List.take_append_of_le_length bounded, List.drop_append_of_le_length bounded]
      rcases accept state (buffer.take length) with ⟨next, _ | error⟩
      · exact ih (buffer.drop length).length
          (by rw [List.length_drop]; omega) next (buffer.drop length) rfl
      · rfl

variable (front) in
/-- Feed the pieces one by one until an error; what was not fed comes second. -/
def feed : σ → List β → List (List β) → Outcome σ β ε × List β
  | state, buffer, [] => ({ state, buffer, error := none }, [])
  | state, buffer, piece :: rest =>
    let outcome := drain front accept state (buffer ++ piece)
    match outcome.error with
    | none => feed outcome.state outcome.buffer rest
    | some _ => (outcome, rest.flatten)

/-- Feeding a stream in pieces, the receiver stops in the state, and with the error, in which it
stops on the whole stream. -/
theorem drain_flatten (stable : Stable front) (state : σ) (buffer piece : List β)
    (rest : List (List β)) :
    drain front accept state (buffer ++ (piece :: rest).flatten) =
      { (feed front accept state buffer (piece :: rest)).1 with
        buffer := (feed front accept state buffer (piece :: rest)).1.buffer ++
          (feed front accept state buffer (piece :: rest)).2 } := by
  induction rest generalizing state buffer piece with
  | nil =>
    have whole : buffer ++ [piece].flatten = buffer ++ piece := by simp
    rw [whole, feed]
    generalize drain front accept state (buffer ++ piece) = outcome
    rcases outcome with ⟨stopState, left, _ | error⟩ <;> simp [feed]
  | cons next rest ih =>
    have whole : buffer ++ (piece :: next :: rest).flatten =
        (buffer ++ piece) ++ (next :: rest).flatten := by simp
    rw [whole, drain_append accept stable, feed]
    generalize drain front accept state (buffer ++ piece) = outcome
    rcases outcome with ⟨stopState, left, _ | error⟩
    · exact ih stopState left next
    · rfl

theorem feed_unfed (state : σ) (buffer : List β) (pieces : List (List β))
    (finished : (feed front accept state buffer pieces).1.error = none) :
    (feed front accept state buffer pieces).2 = [] := by
  induction pieces generalizing state buffer with
  | nil => rfl
  | cons piece _ ih =>
    rw [feed] at finished ⊢
    generalize drain front accept state (buffer ++ piece) = outcome at finished ⊢
    rcases outcome with ⟨stopState, left, _ | error⟩
    · exact ih stopState left finished
    · cases finished

end Magnetar.Library.Stream
