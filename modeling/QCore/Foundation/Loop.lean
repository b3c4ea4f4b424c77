import QCore.Foundation.Outcome

/-!
# Loops

A loop of the source may run forever, so it is given a number of rounds, and
what has not ended by then has no outcome.  `Returns` is what can be said of a
computation without deciding whether it ends: if it does, it neither fails nor
panics, and its value meets a condition.
-/

namespace QCore
namespace Foundation

variable {ε α β σ : Type}

/-- `none` is a computation whose loops have not ended within their rounds. -/
def Fueled (ε α : Type) : Type :=
  Option (Outcome ε α)

inductive Round (σ α : Type) where
  | again (s : σ)
  | leave (a : α)

namespace Fueled

def pure (a : α) : Fueled ε α :=
  some (Outcome.ok a)

def bind (x : Fueled ε α) (f : α -> Fueled ε β) : Fueled ε β :=
  match x with
  | none => none
  | some (Outcome.ok a) => f a
  | some (Outcome.err e) => some (Outcome.err e)
  | some Outcome.panic => some Outcome.panic

instance : Monad (Fueled ε) where
  pure := Fueled.pure
  bind := Fueled.bind

def lift (x : Outcome ε α) : Fueled ε α :=
  some x

/-- `while`, for at most `fuel` rounds. -/
def loop (body : σ -> Outcome ε (Round σ α)) : Nat -> σ -> Fueled ε α
  | 0, _ => none
  | fuel + 1, s =>
      match body s with
      | Outcome.ok (Round.again s') => loop body fuel s'
      | Outcome.ok (Round.leave a) => some (Outcome.ok a)
      | Outcome.err e => some (Outcome.err e)
      | Outcome.panic => some Outcome.panic

/-!
## Computations that return
-/

def Returns (x : Fueled ε α) (Q : α -> Prop) : Prop :=
  forall out, x = some out -> exists a, out = Outcome.ok a ∧ Q a

theorem returns_pure {a : α} {Q : α -> Prop} (h : Q a) :
    Returns (Pure.pure a : Fueled ε α) Q := by
  intro out hout
  cases hout
  exact ⟨a, rfl, h⟩

theorem returns_lift {x : Outcome ε α} {a : α} {Q : α -> Prop}
    (hx : x = Outcome.ok a) (h : Q a) : Returns (lift x) Q := by
  intro out hout
  cases hout
  exact ⟨a, hx, h⟩

theorem returns_bind {x : Fueled ε α} {f : α -> Fueled ε β} {Q : α -> Prop}
    {R : β -> Prop} (hx : Returns x Q) (hf : forall a, Q a -> Returns (f a) R) :
    Returns (x >>= f) R := by
  intro out hout
  cases x with
  | none => cases hout
  | some first =>
      rcases hx first rfl with ⟨a, hfirst, ha⟩
      rw [hfirst] at hout
      exact hf a ha out hout

theorem bind_congr {x : Fueled ε α} {f g : α -> Fueled ε β} {Q : α -> Prop}
    (hx : Returns x Q) (h : forall a, Q a -> f a = g a) :
    (x >>= f) = x >>= g := by
  cases x with
  | none => rfl
  | some out =>
      rcases hx out rfl with ⟨a, hout, ha⟩
      rw [hout]
      exact h a ha

def RoundMeets (I : σ -> Prop) (Q : α -> Prop) : Round σ α -> Prop
  | Round.again s => I s
  | Round.leave a => Q a

/-- The invariant rule: rounds that return make a loop that returns, if it
ends. -/
theorem returns_loop {body : σ -> Outcome ε (Round σ α)} {I : σ -> Prop}
    {Q : α -> Prop}
    (hbody : forall s, I s -> exists round, body s = Outcome.ok round ∧
      RoundMeets I Q round)
    (fuel : Nat) {s : σ} (hs : I s) : Returns (loop body fuel s) Q := by
  induction fuel generalizing s with
  | zero =>
      intro out hout
      cases hout
  | succ fuel ih =>
      rcases hbody s hs with ⟨round, hround, hmeets⟩
      unfold loop
      rw [hround]
      cases round with
      | again s' => exact ih hmeets
      | leave a => exact returns_pure hmeets

/-!
## Loops that end
-/

def Finished (x : Fueled ε α) : Prop :=
  exists out, x = some out

theorem finished_pure (a : α) : Finished (Pure.pure a : Fueled ε α) :=
  ⟨Outcome.ok a, rfl⟩

theorem finished_lift (x : Outcome ε α) : Finished (lift x) :=
  ⟨x, rfl⟩

theorem finished_bind_iff {x : Fueled ε α} {f : α -> Fueled ε β}
    (hf : forall a, Finished (f a)) : Finished (x >>= f) <-> Finished x := by
  constructor
  · intro h
    cases x with
    | none =>
        rcases h with ⟨out, hout⟩
        cases hout
    | some first => exact ⟨first, rfl⟩
  · intro h
    rcases h with ⟨first, hfirst⟩
    rw [hfirst]
    cases first with
    | ok a => exact hf a
    | err e => exact ⟨Outcome.err e, rfl⟩
    | panic => exact ⟨Outcome.panic, rfl⟩

/-- The loop leaves, fails or panics after some number of rounds. -/
def Ends (body : σ -> Outcome ε (Round σ α)) (s : σ) : Prop :=
  exists fuel, Finished (loop body fuel s)

theorem loop_again {body : σ -> Outcome ε (Round σ α)} {s s' : σ}
    (h : body s = Outcome.ok (Round.again s')) (fuel : Nat) :
    loop body (fuel + 1) s = loop body fuel s' := by
  rw [loop, h]

theorem loop_leave {body : σ -> Outcome ε (Round σ α)} {s : σ} {a : α}
    (h : body s = Outcome.ok (Round.leave a)) (fuel : Nat) :
    loop body (fuel + 1) s = some (Outcome.ok a) := by
  rw [loop, h]

theorem loop_mono {body : σ -> Outcome ε (Round σ α)} {fuel more : Nat} {s : σ}
    {out : Outcome ε α} (hle : fuel <= more)
    (h : loop body fuel s = some out) : loop body more s = some out := by
  induction fuel generalizing s more with
  | zero => cases h
  | succ fuel ih =>
      cases more with
      | zero => exact absurd hle (Nat.not_succ_le_zero fuel)
      | succ more =>
          unfold loop at h ⊢
          cases hround : body s with
          | ok round =>
              rw [hround] at h
              cases round with
              | again s' => exact ih (Nat.le_of_succ_le_succ hle) h
              | leave a => exact h
          | err e =>
              rw [hround] at h
              exact h
          | panic =>
              rw [hround] at h
              exact h

theorem ends_again {body : σ -> Outcome ε (Round σ α)} {s s' : σ}
    (h : body s = Outcome.ok (Round.again s')) :
    Ends body s <-> Ends body s' := by
  constructor
  · intro hends
    rcases hends with ⟨fuel, hfinished⟩
    cases fuel with
    | zero =>
        rcases hfinished with ⟨out, hout⟩
        cases hout
    | succ fuel =>
        rw [loop_again h] at hfinished
        exact ⟨fuel, hfinished⟩
  · intro hends
    rcases hends with ⟨fuel, hfinished⟩
    rw [← loop_again h] at hfinished
    exact ⟨fuel + 1, hfinished⟩

theorem not_ends_of_same {body : σ -> Outcome ε (Round σ α)} {s : σ}
    (h : body s = Outcome.ok (Round.again s)) : ¬ Ends body s := by
  intro hends
  rcases hends with ⟨fuel, hfinished⟩
  induction fuel with
  | zero =>
      rcases hfinished with ⟨out, hout⟩
      cases hout
  | succ fuel ih =>
      rw [loop_again h] at hfinished
      exact ih hfinished

/-- The termination rule: rounds that keep an invariant and come down in a
measure make a loop that ends. -/
theorem ends_of_measure {body : σ -> Outcome ε (Round σ α)} {I : σ -> Prop}
    (measure : σ -> Nat)
    (hbody : forall s s', I s -> body s = Outcome.ok (Round.again s') ->
      I s' ∧ measure s' < measure s)
    {s : σ} (hs : I s) : Ends body s := by
  generalize hn : measure s = n
  induction n using Nat.strongRecOn generalizing s with
  | ind n ih =>
      cases hround : body s with
      | ok round =>
          cases round with
          | again s' =>
              rcases hbody s s' hs hround with ⟨hs', hless⟩
              rw [ends_again hround]
              exact ih (measure s') (hn ▸ hless) hs' rfl
          | leave a => exact ⟨1, Outcome.ok a, loop_leave hround 0⟩
      | err e =>
          refine ⟨1, Outcome.err e, ?_⟩
          rw [loop, hround]
      | panic =>
          refine ⟨1, Outcome.panic, ?_⟩
          rw [loop, hround]

theorem loop_congr {body body' : σ -> Outcome ε (Round σ α)} {I : σ -> Prop}
    (hsame : forall s, I s -> body s = body' s)
    (hkeep : forall s s', I s -> body s = Outcome.ok (Round.again s') -> I s')
    (fuel : Nat) {s : σ} (hs : I s) :
    loop body fuel s = loop body' fuel s := by
  induction fuel generalizing s with
  | zero => rfl
  | succ fuel ih =>
      unfold loop
      rw [← hsame s hs]
      cases hround : body s with
      | ok round =>
          cases round with
          | again s' => exact ih (hkeep s s' hs hround)
          | leave a => rfl
      | err e => rfl
      | panic => rfl

end Fueled
end Foundation
end QCore
