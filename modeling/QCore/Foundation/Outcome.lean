/-!
# Outcomes and stateful commands

A call of the modelled code returns a value, returns an error, or panics.  A
panic ends the whole process, so no code runs after it and it is kept apart
from an error, which the caller may handle.

`Cmd` is a call that also updates a state.  An error or a panic keeps the
updates made before it, as a call through a mutable reference does.  The
second half gives the rules of pre- and postconditions for commands.
-/

namespace QCore
namespace Foundation

instance decidableEqExcept {ε α : Type} [DecidableEq ε] [DecidableEq α] :
    DecidableEq (Except ε α)
  | Except.ok a, Except.ok b => decidable_of_iff (a = b) (by simp)
  | Except.error e, Except.error f => decidable_of_iff (e = f) (by simp)
  | Except.ok _, Except.error _ => Decidable.isFalse (by simp)
  | Except.error _, Except.ok _ => Decidable.isFalse (by simp)

inductive Outcome (ε α : Type) where
  | ok (value : α)
  | err (error : ε)
  | panic
deriving DecidableEq, Repr

namespace Outcome

variable {ε α β : Type}

def bind (x : Outcome ε α) (f : α -> Outcome ε β) : Outcome ε β :=
  match x with
  | ok a => f a
  | err e => err e
  | panic => panic

instance : Monad (Outcome ε) where
  pure := Outcome.ok
  bind := Outcome.bind

@[simp] theorem pure_eq (a : α) : (pure a : Outcome ε α) = ok a := rfl

@[simp] theorem ok_bind (a : α) (f : α -> Outcome ε β) :
    (ok a >>= f) = f a := rfl

@[simp] theorem err_bind (e : ε) (f : α -> Outcome ε β) :
    ((err e : Outcome ε α) >>= f) = err e := rfl

@[simp] theorem panic_bind (f : α -> Outcome ε β) :
    ((panic : Outcome ε α) >>= f) = panic := rfl

theorem ok_ne_panic {a : α} : (ok a : Outcome ε α) ≠ panic := by
  intro h
  cases h

theorem err_ne_panic {e : ε} : (err e : Outcome ε α) ≠ panic := by
  intro h
  cases h

theorem bind_eq_ok {x : Outcome ε α} {f : α -> Outcome ε β} {b : β} :
    (x >>= f) = ok b <-> exists a, x = ok a ∧ f a = ok b := by
  cases x with
  | ok a => simp
  | err e => simp
  | panic => simp

/-- `ensure!`: go on when the condition holds, else return the error. -/
def ensure (c : Prop) [Decidable c] (e : ε) : Outcome ε Unit :=
  if c then ok () else err e

def ofOption (e : ε) : Option α -> Outcome ε α
  | some a => ok a
  | none => err e

def ofExcept : Except ε α -> Outcome ε α
  | Except.ok a => ok a
  | Except.error e => err e

/-- `map_err`, as `?` does when it converts an error. -/
def mapErr {ε' : Type} (f : ε -> ε') : Outcome ε α -> Outcome ε' α
  | ok a => ok a
  | err e => err (f e)
  | panic => panic

@[simp] theorem ofOption_eq_ok {e : ε} {x : Option α} {a : α} :
    ofOption e x = ok a <-> x = some a := by
  cases x with
  | none => simp [ofOption]
  | some b => simp [ofOption]

@[simp] theorem mapErr_eq_ok {ε' : Type} {f : ε -> ε'} {x : Outcome ε α}
    {a : α} : mapErr f x = ok a <-> x = ok a := by
  cases x with
  | ok b => simp [mapErr]
  | err e => simp [mapErr]
  | panic => simp [mapErr]

end Outcome

/-- A call that updates a state of type `σ`. -/
def Cmd (σ ε α : Type) : Type :=
  σ -> Outcome ε α × σ

namespace Cmd

variable {σ ε α β : Type}

def pure (a : α) : Cmd σ ε α :=
  fun s => (Outcome.ok a, s)

def bind (m : Cmd σ ε α) (f : α -> Cmd σ ε β) : Cmd σ ε β :=
  fun s =>
    match m s with
    | (Outcome.ok a, s') => f a s'
    | (Outcome.err e, s') => (Outcome.err e, s')
    | (Outcome.panic, s') => (Outcome.panic, s')

instance : Monad (Cmd σ ε) where
  pure := Cmd.pure
  bind := Cmd.bind

/-- `bail!`: return an error. -/
def bail (e : ε) : Cmd σ ε α :=
  fun s => (Outcome.err e, s)

def get : Cmd σ ε σ :=
  fun s => (Outcome.ok s, s)

def modify (f : σ -> σ) : Cmd σ ε Unit :=
  fun s => (Outcome.ok (), f s)

/-- Lift a call that does not touch the state; `?` on its result. -/
def lift (x : Outcome ε α) : Cmd σ ε α :=
  fun s => (x, s)

/-- Run a call and keep its result as a value instead of returning early. -/
def attempt (m : Cmd σ ε α) : Cmd σ ε (Except ε α) :=
  fun s =>
    match m s with
    | (Outcome.ok a, s') => (Outcome.ok (Except.ok a), s')
    | (Outcome.err e, s') => (Outcome.ok (Except.error e), s')
    | (Outcome.panic, s') => (Outcome.panic, s')

def zoom {τ ε' : Type} (field : σ -> τ) (set : τ -> σ -> σ) (f : ε' -> ε)
    (m : Cmd τ ε' α) : Cmd σ ε α :=
  fun s => ((m (field s)).1.mapErr f, set (m (field s)).2 s)

@[simp] theorem pure_run (a : α) (s : σ) :
    (Pure.pure a : Cmd σ ε α) s = (Outcome.ok a, s) := rfl

@[simp] theorem get_run (s : σ) :
    (get : Cmd σ ε σ) s = (Outcome.ok s, s) := rfl

@[simp] theorem modify_run (f : σ -> σ) (s : σ) :
    (modify f : Cmd σ ε Unit) s = (Outcome.ok (), f s) := rfl

@[simp] theorem lift_run (x : Outcome ε α) (s : σ) :
    (lift x : Cmd σ ε α) s = (x, s) := rfl

theorem bind_run (m : Cmd σ ε α) (f : α -> Cmd σ ε β) (s : σ) :
    (m >>= f) s =
      match m s with
      | (Outcome.ok a, s') => f a s'
      | (Outcome.err e, s') => (Outcome.err e, s')
      | (Outcome.panic, s') => (Outcome.panic, s') := rfl

theorem bind_ok {m : Cmd σ ε α} {f : α -> Cmd σ ε β} {s t : σ} {b : β} :
    (m >>= f) s = (Outcome.ok b, t) <->
      exists a s', m s = (Outcome.ok a, s') ∧ f a s' = (Outcome.ok b, t) := by
  rw [bind_run]
  cases hm : m s with
  | mk out s' =>
      cases out with
      | ok a =>
          constructor
          · intro h
            exact ⟨a, s', rfl, h⟩
          · intro h
            rcases h with ⟨a', s'', heq, hf⟩
            cases heq
            exact hf
      | err e => simp
      | panic => simp

theorem bind_panic {m : Cmd σ ε α} {f : α -> Cmd σ ε β} {s : σ} :
    ((m >>= f) s).1 = Outcome.panic <->
      (m s).1 = Outcome.panic ∨
        exists a s', m s = (Outcome.ok a, s') ∧ (f a s').1 = Outcome.panic := by
  rw [bind_run]
  cases hm : m s with
  | mk out s' =>
      cases out with
      | ok a =>
          constructor
          · intro h
            exact Or.inr ⟨a, s', rfl, h⟩
          · rintro (h | ⟨a', s'', heq, hf⟩)
            · cases h
            · cases heq
              exact hf
      | err e => simp
      | panic => simp

theorem bind_assoc {γ : Type} (m : Cmd σ ε α) (f : α -> Cmd σ ε β)
    (g : β -> Cmd σ ε γ) :
    (m >>= f) >>= g = m >>= fun a => f a >>= g := by
  funext s
  rw [bind_run, bind_run, bind_run]
  cases m s with
  | mk out s' =>
      cases out with
      | ok a => rfl
      | err e => rfl
      | panic => rfl

theorem lift_ok {x : Outcome ε α} {s t : σ} {a : α} :
    (lift x : Cmd σ ε α) s = (Outcome.ok a, t) <->
      x = Outcome.ok a ∧ t = s := by
  rw [lift_run, Prod.mk.injEq, eq_comm (a := t)]

theorem attempt_returned {m : Cmd σ ε α} {s t : σ} {result : Except ε α}
    (h : attempt m s = (Outcome.ok result, t)) :
    (m s).1 ≠ Outcome.panic ∧ t = (m s).2 := by
  unfold attempt at h
  revert h
  cases m s with
  | mk out s' =>
      intro h
      cases out with
      | ok a =>
          cases h
          exact ⟨by simp, rfl⟩
      | err e =>
          cases h
          exact ⟨by simp, rfl⟩
      | panic => cases h

/-!
## Pre- and postconditions

`Triple P m Q E`: from a state that meets `P`, a value is returned in a state
that meets `Q`, and an error or a panic happens in a state that meets `E`.
-/

def Triple (P : σ -> Prop) (m : Cmd σ ε α) (Q : α -> σ -> Prop)
    (E : σ -> Prop) : Prop :=
  forall s, P s ->
    match m s with
    | (Outcome.ok a, s') => Q a s'
    | (Outcome.err _, s') => E s'
    | (Outcome.panic, s') => E s'

theorem Triple.conseq {P P' : σ -> Prop} {m : Cmd σ ε α}
    {Q Q' : α -> σ -> Prop} {E E' : σ -> Prop} (h : Triple P m Q E)
    (hP : forall s, P' s -> P s) (hQ : forall a s, Q a s -> Q' a s)
    (hE : forall s, E s -> E' s) : Triple P' m Q' E' := by
  intro s hs
  have hm := h s (hP s hs)
  revert hm
  cases m s with
  | mk out s' =>
      cases out with
      | ok a => exact hQ a s'
      | err e => exact hE s'
      | panic => exact hE s'

theorem Triple.after {P I : σ -> Prop} {m : Cmd σ ε α}
    (h : Triple P m (fun _ => I) I) {s : σ} (hs : P s) : I (m s).2 := by
  have hm := h s hs
  revert hm
  cases m s with
  | mk out s' =>
      cases out with
      | ok a => exact id
      | err e => exact id
      | panic => exact id

theorem triple_pure {P : σ -> Prop} {a : α} {Q : α -> σ -> Prop}
    {E : σ -> Prop} (h : forall s, P s -> Q a s) :
    Triple P (Pure.pure a : Cmd σ ε α) Q E := by
  intro s hs
  exact h s hs

theorem triple_bail {P : σ -> Prop} {e : ε} {Q : α -> σ -> Prop}
    {E : σ -> Prop} (h : forall s, P s -> E s) :
    Triple P (bail e : Cmd σ ε α) Q E := by
  intro s hs
  exact h s hs

theorem triple_modify {P : σ -> Prop} {f : σ -> σ} {Q : Unit -> σ -> Prop}
    {E : σ -> Prop} (h : forall s, P s -> Q () (f s)) :
    Triple P (modify f : Cmd σ ε Unit) Q E := by
  intro s hs
  exact h s hs

theorem triple_get {P : σ -> Prop} {Q : σ -> σ -> Prop} {E : σ -> Prop}
    (h : forall s, P s -> Q s s) : Triple P (get : Cmd σ ε σ) Q E := by
  intro s hs
  exact h s hs

theorem triple_lift {P : σ -> Prop} {x : Outcome ε α} {Q : α -> σ -> Prop}
    {E : σ -> Prop} (hok : forall a s, x = Outcome.ok a -> P s -> Q a s)
    (herr : forall s, P s -> E s) :
    Triple P (lift x : Cmd σ ε α) Q E := by
  intro s hs
  cases x with
  | ok a => exact hok a s rfl hs
  | err e => exact herr s hs
  | panic => exact herr s hs

theorem triple_bind {P : σ -> Prop} {m : Cmd σ ε α} {f : α -> Cmd σ ε β}
    {R : α -> σ -> Prop} {Q : β -> σ -> Prop} {E : σ -> Prop}
    (hm : Triple P m R E) (hf : forall a, Triple (R a) (f a) Q E) :
    Triple P (m >>= f) Q E := by
  intro s hs
  have h := hm s hs
  rw [bind_run]
  revert h
  cases m s with
  | mk out s' =>
      cases out with
      | ok a => exact hf a s'
      | err e => exact id
      | panic => exact id

/-- The swallowed error: both exits of `m` go on with the same condition. -/
theorem triple_attempt {P : σ -> Prop} {m : Cmd σ ε α} {I : σ -> Prop}
    {E : σ -> Prop} (h : Triple P m (fun _ => I) I)
    (hE : forall s, I s -> E s) :
    Triple P (attempt m) (fun _ => I) E := by
  intro s hs
  have hm := h s hs
  unfold attempt
  revert hm
  cases m s with
  | mk out s' =>
      cases out with
      | ok a => exact id
      | err e => exact id
      | panic => exact hE s'

theorem triple_or {P P' : σ -> Prop} {m : Cmd σ ε α} {Q : α -> σ -> Prop}
    {E : σ -> Prop} (h : Triple P m Q E) (h' : Triple P' m Q E) :
    Triple (fun s => P s ∨ P' s) m Q E := by
  intro s hs
  rcases hs with hs | hs
  · exact h s hs
  · exact h' s hs

theorem triple_exists {ι : Type} {P : ι -> σ -> Prop} {m : Cmd σ ε α}
    {Q : α -> σ -> Prop} {E : σ -> Prop} (h : forall i, Triple (P i) m Q E) :
    Triple (fun s => exists i, P i s) m Q E := by
  intro s hs
  rcases hs with ⟨i, hi⟩
  exact h i s hi

def Keeps (I : σ -> Prop) (m : Cmd σ ε α) : Prop :=
  Triple I m (fun _ => I) I

theorem Keeps.after {I : σ -> Prop} {m : Cmd σ ε α} (h : Keeps I m) {s : σ}
    (hs : I s) : I (m s).2 :=
  Triple.after h hs

theorem Keeps.weaken {I E : σ -> Prop} {m : Cmd σ ε α} (h : Keeps I m)
    (hE : forall s, I s -> E s) : Triple I m (fun _ => I) E :=
  h.conseq (fun _ hs => hs) (fun _ _ hs => hs) hE

theorem Keeps.imp {I J : σ -> Prop} {m : Cmd σ ε α} (h : Keeps I m)
    (hJ : forall s, I s -> J s) : Triple I m (fun _ => J) J :=
  h.conseq (fun _ hs => hs) (fun _ => hJ) hJ

theorem Keeps.and_ok {P I : σ -> Prop} {m : Cmd σ ε α} {Q : α -> σ -> Prop}
    (h : Keeps I m)
    (hok : forall s a t, P s -> I s -> m s = (Outcome.ok a, t) -> Q a t) :
    Triple (fun s => P s ∧ I s) m (fun a s => Q a s ∧ I s) I := by
  intro s hs
  have hkept := h s hs.right
  have hvalue := hok s
  revert hkept hvalue
  cases m s with
  | mk out s' =>
      intro hkept hvalue
      cases out with
      | ok a => exact ⟨hvalue a s' hs.left hs.right rfl, hkept⟩
      | err e => exact hkept
      | panic => exact hkept

theorem keeps_bind {I : σ -> Prop} {m : Cmd σ ε α} {f : α -> Cmd σ ε β}
    (hm : Keeps I m) (hf : forall a, Keeps I (f a)) : Keeps I (m >>= f) :=
  triple_bind hm hf

theorem keeps_pure {I : σ -> Prop} (a : α) :
    Keeps I (Pure.pure a : Cmd σ ε α) :=
  triple_pure (fun _ h => h)

theorem keeps_bail {I : σ -> Prop} (e : ε) :
    Keeps I (bail e : Cmd σ ε α) :=
  triple_bail (fun _ h => h)

theorem keeps_lift {I : σ -> Prop} (x : Outcome ε α) :
    Keeps I (lift x : Cmd σ ε α) :=
  triple_lift (fun _ _ _ h => h) (fun _ h => h)

theorem keeps_get {I : σ -> Prop} : Keeps I (get : Cmd σ ε σ) :=
  triple_get (fun _ h => h)

theorem keeps_modify {I : σ -> Prop} {f : σ -> σ}
    (h : forall s, I s -> I (f s)) : Keeps I (modify f : Cmd σ ε Unit) :=
  triple_modify h

end Cmd
end Foundation
end QCore
