import QCore.Foundation.Outcome

/-!
# Conversations

A party sends requests and reads the answers from an inbox; its peer answers
each request from a state of its own.  `Transcript` says what such a peer
answers to a list of requests.  `Succeeds` says that a command of the party,
with the peer's answers to just the requests it sends in its inbox, takes all of
them and returns a value; its rules follow the ways in which a command is built.
-/

namespace QCore
namespace Foundation

namespace Cmd

variable {σ ε α β : Type} {m : Cmd σ ε α} {f : α -> Cmd σ ε β} {s t : σ}

theorem bind_of_ok {a : α} (h : m s = (Outcome.ok a, t)) :
    (m >>= f) s = f a t := by
  rw [bind_run, h]

theorem bind_of_err {e : ε} (h : m s = (Outcome.err e, t)) :
    (m >>= f) s = (Outcome.err e, t) := by
  rw [bind_run, h]

end Cmd

/-- A peer with a state of type `p`: the answer to a request, and the state
after it. -/
structure Peer (p req msg : Type) where
  answer : p -> req -> Option (p × msg)

inductive Peer.Transcript {p req msg : Type} (P : Peer p req msg) :
    p -> List req -> List msg -> p -> Prop where
  | done {a : p} : Transcript P a [] [] a
  | answered {a b c : p} {r : req} {m : msg} {rs : List req} {ms : List msg} :
      P.answer a r = some (b, m) -> Transcript P b rs ms c ->
      Transcript P a (r :: rs) (m :: ms) c

theorem Peer.Transcript.append {p req msg : Type} {P : Peer p req msg}
    {a b c : p} {rs rs' : List req} {ms ms' : List msg}
    (h : P.Transcript a rs ms b) (h' : P.Transcript b rs' ms' c) :
    P.Transcript a (rs ++ rs') (ms ++ ms') c := by
  induction h with
  | done => exact h'
  | answered hanswer _ ih => exact Transcript.answered hanswer (ih h')

structure Line (σ req msg : Type) where
  setInbox : List msg -> σ -> σ
  sent : σ -> List req

/-- With the peer at `a`, the command returns a value, in states that meet the
postcondition. -/
def Succeeds {σ ε α p req msg : Type} (L : Line σ req msg) (P : Peer p req msg)
    (m : Cmd σ ε α) (a : p) (s : σ) (Q : α -> p -> σ -> Prop) : Prop :=
  exists requests answers x b t, L.sent t = L.sent s ++ requests ∧
    P.Transcript a requests answers b ∧
    (forall rest,
      m (L.setInbox (answers ++ rest) s) = (Outcome.ok x, L.setInbox rest t)) ∧
    Q x b t

namespace Succeeds

variable {σ ε α β p req msg : Type} {L : Line σ req msg} {P : Peer p req msg}
variable {a b : p} {s t : σ}

theorem silent {m : Cmd σ ε α} {x : α} {Q : α -> p -> σ -> Prop}
    (hrun : forall rest,
      m (L.setInbox rest s) = (Outcome.ok x, L.setInbox rest t))
    (hsent : L.sent t = L.sent s) (hQ : Q x a t) : Succeeds L P m a s Q :=
  ⟨[], [], x, a, t, by rw [hsent, List.append_nil], Peer.Transcript.done, hrun,
    hQ⟩

theorem ask {m : Cmd σ ε α} {x : α} {r : req} {w : msg}
    {Q : α -> p -> σ -> Prop}
    (hrun : forall rest,
      m (L.setInbox (w :: rest) s) = (Outcome.ok x, L.setInbox rest t))
    (hsent : L.sent t = L.sent s ++ [r]) (hanswer : P.answer a r = some (b, w))
    (hQ : Q x b t) : Succeeds L P m a s Q :=
  ⟨[r], [w], x, b, t, hsent,
    Peer.Transcript.answered hanswer Peer.Transcript.done, hrun, hQ⟩

theorem lift {x : Outcome ε α} {y : α} {Q : α -> p -> σ -> Prop}
    (h : x = Outcome.ok y) (hQ : Q y a s) :
    Succeeds L P (Cmd.lift x : Cmd σ ε α) a s Q := by
  rw [h]
  exact silent (fun _ => rfl) rfl hQ

theorem pure {x : α} {Q : α -> p -> σ -> Prop} (hQ : Q x a s) :
    Succeeds L P (Pure.pure x : Cmd σ ε α) a s Q :=
  silent (fun _ => rfl) rfl hQ

theorem zoom {τ ε' : Type} {field : σ -> τ} {set : τ -> σ -> σ} {f : ε' -> ε}
    {m : Cmd τ ε' α} {x : α} {v : τ} {Q : α -> p -> σ -> Prop}
    (hm : m (field s) = (Outcome.ok x, v))
    (hfield : forall inbox, field (L.setInbox inbox s) = field s)
    (hset : forall inbox,
      set v (L.setInbox inbox s) = L.setInbox inbox (set v s))
    (hsent : L.sent (set v s) = L.sent s) (hQ : Q x a (set v s)) :
    Succeeds L P (Cmd.zoom field set f m) a s Q := by
  have hrun : forall rest, Cmd.zoom field set f m (L.setInbox rest s) =
      (Outcome.ok x, L.setInbox rest (set v s)) := by
    intro rest
    unfold Cmd.zoom
    rw [hfield, hm, hset]
    rfl
  exact silent hrun hsent hQ

theorem weaken {m : Cmd σ ε α} {R Q : α -> p -> σ -> Prop}
    (hm : Succeeds L P m a s R) (h : forall x b t, R x b t -> Q x b t) :
    Succeeds L P m a s Q := by
  rcases hm with ⟨requests, answers, x, b, t, hsent, hsaid, hrun, hR⟩
  exact ⟨requests, answers, x, b, t, hsent, hsaid, hrun, h x b t hR⟩

theorem bind {m : Cmd σ ε α} {f : α -> Cmd σ ε β} {R : α -> p -> σ -> Prop}
    {Q : β -> p -> σ -> Prop} (hm : Succeeds L P m a s R)
    (hf : forall x b t, R x b t -> Succeeds L P (f x) b t Q) :
    Succeeds L P (m >>= f) a s Q := by
  rcases hm with ⟨requests, answers, x, b, t, hsent, hsaid, hrun, hR⟩
  rcases hf x b t hR with
    ⟨requests', answers', y, c, u, hsent', hsaid', hrun', hQ⟩
  refine ⟨requests ++ requests', answers ++ answers', y, c, u, ?_,
    hsaid.append hsaid', ?_, hQ⟩
  · rw [hsent', hsent, List.append_assoc]
  · intro rest
    rw [List.append_assoc, Cmd.bind_of_ok (hrun _)]
    exact hrun' rest

theorem lift_bind {x : Outcome ε α} {y : α} {f : α -> Cmd σ ε β}
    {Q : β -> p -> σ -> Prop} (h : x = Outcome.ok y)
    (hf : Succeeds L P (f y) a s Q) :
    Succeeds L P ((Cmd.lift x : Cmd σ ε α) >>= f) a s Q := by
  rw [h]
  exact hf

theorem modify_bind {g : σ -> σ} {f : Unit -> Cmd σ ε β}
    {Q : β -> p -> σ -> Prop}
    (hinbox : forall inbox, g (L.setInbox inbox s) = L.setInbox inbox (g s))
    (hsent : L.sent (g s) = L.sent s) (hf : Succeeds L P (f ()) a (g s) Q) :
    Succeeds L P ((Cmd.modify g : Cmd σ ε Unit) >>= f) a s Q := by
  rcases hf with ⟨requests, answers, y, b, t, hsent', hsaid, hrun, hQ⟩
  refine ⟨requests, answers, y, b, t, hsent'.trans (by rw [hsent]), hsaid, ?_,
    hQ⟩
  intro rest
  rw [Cmd.bind_run, Cmd.modify_run, hinbox]
  exact hrun rest

theorem get {f : σ -> Cmd σ ε β} {Q : β -> p -> σ -> Prop}
    (hinbox : forall inbox, f (L.setInbox inbox s) = f s)
    (hf : Succeeds L P (f s) a s Q) : Succeeds L P (Cmd.get >>= f) a s Q := by
  rcases hf with ⟨requests, answers, y, b, t, hsent, hsaid, hrun, hQ⟩
  refine ⟨requests, answers, y, b, t, hsent, hsaid, ?_, hQ⟩
  intro rest
  rw [Cmd.bind_run, Cmd.get_run]
  change f (L.setInbox (answers ++ rest) s) (L.setInbox (answers ++ rest) s) = _
  rw [hinbox]
  exact hrun rest

theorem attempt {m : Cmd σ ε α} {R : α -> p -> σ -> Prop}
    (hm : Succeeds L P m a s R) :
    Succeeds L P (Cmd.attempt m) a s
      fun result b t => exists x, result = Except.ok x ∧ R x b t := by
  rcases hm with ⟨requests, answers, x, b, t, hsent, hsaid, hrun, hR⟩
  refine ⟨requests, answers, Except.ok x, b, t, hsent, hsaid, ?_, x, rfl, hR⟩
  intro rest
  rw [Cmd.attempt, hrun]

end Succeeds

end Foundation
end QCore
