import QCore.Foundation.Machine
import QCore.Stack.Transactions

/-!
# The receive loop of an association

`recv` reads one part of a user message into a buffer of 1500 bytes, and
`recv_msg_stream` yields the part as a message of its own.  `handle_assoc` hands
the messages of the stream to `handle_message` until the stream ends.

The socket is described by what `recvmsg` promises: it returns the next bytes of
the current user message, as many as the buffer holds, keeps the rest for the
next call and sets `MSG_EOR` with the last part.
-/

namespace QCore
namespace Stack

open Foundation

structure UserMessage where
  bytes : Bytes
  nonempty : bytes ≠ []

namespace UserMessage

def rest (m : UserMessage) (size : Nat) (h : size < m.bytes.length) :
    UserMessage where
  bytes := m.bytes.drop size
  nonempty := by
    intro hnil
    exact absurd (List.drop_eq_nil_iff.mp hnil) (Nat.not_le_of_lt h)

theorem rest_bytes (m : UserMessage) (size : Nat)
    (h : size < m.bytes.length) : (m.rest size h).bytes = m.bytes.drop size :=
  rfl

end UserMessage

structure SctpSocket where
  /-- What has not been read of the messages that arrived. -/
  unread : List UserMessage
  closed : Bool
  /-- Every user message that arrived. -/
  sent : List UserMessage

/-- What `recvmsg` returns: the bytes and the flag `MSG_EOR`. -/
structure RecvMsg where
  bytes : Bytes
  msgEor : Bool

namespace SctpSocket

def arrive (s : SctpSocket) (messages : List UserMessage) : SctpSocket :=
  { s with unread := s.unread ++ messages, sent := s.sent ++ messages }

/-- `recvmsg` into a buffer of this size; no bytes once the peer has closed, and
none at all while there is nothing to read. -/
def recvmsg (s : SctpSocket) (size : Nat) : Option (RecvMsg × SctpSocket) :=
  match s.unread with
  | [] => if s.closed then some (⟨[], false⟩, s) else none
  | m :: later =>
      if h : size < m.bytes.length then
        some (⟨m.bytes.take size, false⟩,
          { s with unread := m.rest size h :: later })
      else
        some (⟨m.bytes, true⟩, { s with unread := later })

end SctpSocket

/-- `vec![0; 1500]` -/
def recvBufferLen : Nat := 1500

/-- The part of `recv` after `recvmsg`; the flags are not looked at. -/
def recv (r : RecvMsg) : Option Message :=
  if 0 < r.bytes.length then some r.bytes else none

/-- An association with the loop of `handle_assoc` that serves it. -/
structure AssocLoop where
  socket : SctpSocket
  /-- The messages given to `handle_message`. -/
  handled : List Message
  /-- The loop has reported the end of the association. -/
  terminated : Bool

inductive AssocEvent where
  | arrive (message : UserMessage)
  | close
  | receive
  | receiveFails
  | stop

namespace AssocLoop

def start : AssocLoop where
  socket := ⟨[], false, []⟩
  handled := []
  terminated := false

def receive (s : AssocLoop) : Option AssocLoop :=
  match s.socket.recvmsg recvBufferLen with
  | none => none
  | some (r, socket) =>
      match recv r with
      | some message =>
          some { s with socket := socket, handled := s.handled ++ [message] }
      | none => some { s with socket := socket, terminated := true }

def step (s : AssocLoop) : AssocEvent -> Option AssocLoop
  | AssocEvent.arrive message =>
      if s.socket.closed then none
      else some { s with socket := s.socket.arrive [message] }
  | AssocEvent.close =>
      some { s with socket := { s.socket with closed := true } }
  | AssocEvent.receive => if s.terminated then none else s.receive
  | AssocEvent.receiveFails | AssocEvent.stop =>
      if s.terminated then none else some { s with terminated := true }

def assocMachine : Machine AssocLoop AssocEvent where
  step := step

/-!
## What one event can do
-/

def handedOn (s : AssocLoop) (message : Message) (unread : List UserMessage) :
    AssocLoop :=
  { s with
    socket := { s.socket with unread := unread }
    handled := s.handled ++ [message] }

inductive Effect (s : AssocLoop) : AssocLoop -> Prop where
  | arrived (message : UserMessage) :
      Effect s { s with socket := s.socket.arrive [message] }
  | closed : Effect s { s with socket := { s.socket with closed := true } }
  | whole {m : UserMessage} {later : List UserMessage} :
      s.socket.unread = m :: later -> m.bytes.length <= recvBufferLen ->
      Effect s (s.handedOn m.bytes later)
  | part {m : UserMessage} {later : List UserMessage}
      (h : recvBufferLen < m.bytes.length) :
      s.socket.unread = m :: later ->
      Effect s (s.handedOn (m.bytes.take recvBufferLen)
        (m.rest recvBufferLen h :: later))
  | terminated : Effect s { s with terminated := true }

theorem recv_of_ne_nil {r : RecvMsg} (h : r.bytes ≠ []) :
    recv r = some r.bytes :=
  if_pos (List.length_pos_iff.mpr h)

theorem take_ne_nil {bytes : Bytes} (h : recvBufferLen < bytes.length) :
    bytes.take recvBufferLen ≠ [] := by
  apply List.ne_nil_of_length_pos
  rw [List.length_take_of_le (Nat.le_of_lt h)]
  decide

theorem receive_whole {s : AssocLoop} {m : UserMessage}
    {later : List UserMessage} (hunread : s.socket.unread = m :: later)
    (hlen : m.bytes.length <= recvBufferLen) :
    s.receive = some (s.handedOn m.bytes later) := by
  unfold receive SctpSocket.recvmsg
  rw [hunread]
  simp only [dif_neg (Nat.not_lt_of_le hlen)]
  rw [recv_of_ne_nil m.nonempty]
  rfl

theorem receive_part {s : AssocLoop} {m : UserMessage}
    {later : List UserMessage} (hunread : s.socket.unread = m :: later)
    (hlen : recvBufferLen < m.bytes.length) :
    s.receive = some (s.handedOn (m.bytes.take recvBufferLen)
      (m.rest recvBufferLen hlen :: later)) := by
  unfold receive SctpSocket.recvmsg
  rw [hunread]
  simp only [dif_pos hlen]
  rw [recv_of_ne_nil (take_ne_nil hlen)]
  rfl

theorem receive_effect {s s' : AssocLoop} (h : s.receive = some s') :
    Effect s s' := by
  cases hunread : s.socket.unread with
  | nil =>
      unfold receive SctpSocket.recvmsg at h
      rw [hunread] at h
      cases hclosed : s.socket.closed with
      | false =>
          rw [hclosed] at h
          cases h
      | true =>
          rw [hclosed] at h
          cases h
          exact Effect.terminated
  | cons m later =>
      by_cases hlen : m.bytes.length <= recvBufferLen
      · rw [receive_whole hunread hlen] at h
        cases h
        exact Effect.whole hunread hlen
      · have hlong := Nat.lt_of_not_le hlen
        rw [receive_part hunread hlong] at h
        cases h
        exact Effect.part hlong hunread

theorem guard_some {b : Bool} {next : Option AssocLoop} {s' : AssocLoop}
    (h : (if b then none else next) = some s') : b = false ∧ next = some s' := by
  cases b with
  | true => cases h
  | false => exact ⟨rfl, h⟩

theorem step_effect {s s' : AssocLoop} {event : AssocEvent}
    (h : s.step event = some s') : Effect s s' := by
  cases event with
  | arrive message =>
      cases (guard_some h).right
      exact Effect.arrived message
  | close =>
      cases h
      exact Effect.closed
  | receive => exact receive_effect (guard_some h).right
  | receiveFails =>
      cases (guard_some h).right
      exact Effect.terminated
  | stop =>
      cases (guard_some h).right
      exact Effect.terminated

/-!
## Message boundaries
-/

def Bounded (s : AssocLoop) : Prop :=
  forall m, m ∈ s.handled -> m.length <= recvBufferLen

theorem bounded_step {s : AssocLoop} {event : AssocEvent} {s' : AssocLoop}
    (h : s.Bounded) (hstep : assocMachine.step s event = some s') :
    s'.Bounded := by
  cases step_effect hstep with
  | arrived _ => exact h
  | closed => exact h
  | terminated => exact h
  | whole _ hlen =>
      intro m hm
      rcases List.mem_append.mp hm with hold | hnew
      · exact h m hold
      · rw [List.mem_singleton.mp hnew]
        exact hlen
  | part _ _ =>
      intro m hm
      rcases List.mem_append.mp hm with hold | hnew
      · exact h m hold
      · rw [List.mem_singleton.mp hnew]
        exact List.length_take_le _ _

def Fit (messages : List UserMessage) : Prop :=
  forall m, m ∈ messages -> m.bytes.length <= recvBufferLen

def Whole (s : AssocLoop) : Prop :=
  Fit s.socket.sent ->
    s.handled ++ s.socket.unread.map UserMessage.bytes =
      s.socket.sent.map UserMessage.bytes

theorem whole_step {s : AssocLoop} {event : AssocEvent} {s' : AssocLoop}
    (h : s.Whole) (hstep : assocMachine.step s event = some s') : s'.Whole := by
  cases step_effect hstep with
  | arrived message =>
      intro hfit
      have hold : Fit s.socket.sent := by
        intro m hm
        exact hfit m (List.mem_append_left _ hm)
      change s.handled ++ (s.socket.unread ++ [message]).map UserMessage.bytes =
        (s.socket.sent ++ [message]).map UserMessage.bytes
      rw [List.map_append, List.map_append, ← List.append_assoc, h hold]
  | closed => exact h
  | terminated => exact h
  | whole hunread _ =>
      intro hfit
      have hall := h hfit
      rw [hunread] at hall
      exact (List.append_assoc _ _ _).trans hall
  | @part m later hlong hunread =>
      intro hfit
      have hall := h hfit
      -- the long message is unread, so it is one of those that arrived
      have hmem : m.bytes ∈ s.socket.sent.map UserMessage.bytes := by
        rw [← hall, hunread]
        exact List.mem_append_right _ List.mem_cons_self
      rcases List.mem_map.mp hmem with ⟨m', hm', heq⟩
      have hle := hfit m' hm'
      rw [heq] at hle
      exact absurd hle (Nat.not_le_of_lt hlong)

/-- What the receive loop is for: in every run in which these messages arrive,
what is handed on are the first of them, all of them once nothing is left
unread, and there is a run that leaves nothing unread. -/
structure Preserves (messages : List UserMessage) : Prop where
  inOrder : forall events s, assocMachine.run start events = some s ->
    s.socket.sent = messages ->
    s.handled <+: messages.map UserMessage.bytes
  complete : forall events s, assocMachine.run start events = some s ->
    s.socket.sent = messages -> s.socket.unread = [] ->
    s.handled = messages.map UserMessage.bytes
  readable : exists events s, assocMachine.run start events = some s ∧
    s.socket.sent = messages ∧ s.socket.unread = [] ∧ s.terminated = false

theorem run_arrivals {s : AssocLoop} (hopen : s.socket.closed = false)
    (messages : List UserMessage) :
    assocMachine.run s (messages.map AssocEvent.arrive) =
      some { s with socket := s.socket.arrive messages } := by
  induction messages generalizing s with
  | nil => simp [Machine.run, SctpSocket.arrive]
  | cons m later ih =>
      have hstep : assocMachine.step s (AssocEvent.arrive m) =
          some { s with socket := s.socket.arrive [m] } := by
        change (if s.socket.closed then none else _) = _
        rw [hopen]
        rfl
      have hrest := ih (s := { s with socket := s.socket.arrive [m] }) hopen
      rw [List.map_cons, Machine.run_cons_of_step _ hstep, hrest]
      simp [SctpSocket.arrive]

theorem step_receive {s : AssocLoop} (hopen : s.terminated = false) :
    assocMachine.step s AssocEvent.receive = s.receive := by
  change (if s.terminated then none else s.receive) = s.receive
  rw [hopen]
  rfl

theorem run_receives (messages : List UserMessage) {s : AssocLoop}
    (hunread : s.socket.unread = messages) (hopen : s.terminated = false)
    (hfit : Fit messages) :
    exists s', assocMachine.run s
        (List.replicate messages.length AssocEvent.receive) = some s' ∧
      s'.socket.unread = [] ∧ s'.socket.sent = s.socket.sent ∧
      s'.terminated = false := by
  induction messages generalizing s with
  | nil => exact ⟨s, rfl, hunread, rfl, hopen⟩
  | cons m later ih =>
      have hstep : assocMachine.step s AssocEvent.receive =
          some (s.handedOn m.bytes later) :=
        (step_receive hopen).trans
          (receive_whole hunread (hfit m List.mem_cons_self))
      rw [List.length_cons, List.replicate_succ,
        Machine.run_cons_of_step _ hstep]
      exact ih (s := s.handedOn m.bytes later) rfl hopen
        (fun m' hm' => hfit m' (List.mem_cons_of_mem m hm'))

theorem fit_of_preserves {messages : List UserMessage}
    (h : Preserves messages) : Fit messages := by
  intro m hm
  rcases h.readable with ⟨events, s, hrun, hsent, hunread, _⟩
  have hbounded : s.Bounded :=
    Machine.run_invariant (fun _ _ _ => bounded_step)
      (fun m hm => absurd hm List.not_mem_nil) hrun
  apply hbounded
  rw [h.complete events s hrun hsent hunread]
  exact List.mem_map_of_mem hm

/-- For every sequence of user messages: the boundaries are preserved exactly
when each message fits the buffer of one receive. -/
theorem preserves_iff (messages : List UserMessage) :
    Preserves messages <->
      forall m, m ∈ messages -> m.bytes.length <= 1500 := by
  constructor
  · exact fit_of_preserves
  · intro hfit
    have hwhole : forall events s, assocMachine.run start events = some s ->
        s.socket.sent = messages ->
        s.handled ++ s.socket.unread.map UserMessage.bytes =
          messages.map UserMessage.bytes := by
      intro events s hrun hsent
      have hinv : s.Whole :=
        Machine.run_invariant (fun _ _ _ => whole_step) (fun _ => rfl) hrun
      rw [← hsent] at hfit ⊢
      exact hinv hfit
    refine ⟨?_, ?_, ?_⟩
    · intro events s hrun hsent
      exact ⟨_, hwhole events s hrun hsent⟩
    · intro events s hrun hsent hunread
      have hall := hwhole events s hrun hsent
      rw [hunread, List.map_nil, List.append_nil] at hall
      exact hall
    · have harrived := run_arrivals (s := start) rfl messages
      rcases run_receives messages
          (s := { start with socket := ⟨messages, false, messages⟩ })
          rfl rfl hfit with ⟨s, hrun, hunread, hsent, hopen⟩
      exact ⟨_, s, (Machine.run_append harrived).trans hrun, hsent, hunread,
        hopen⟩

def longMessage : UserMessage where
  bytes := List.replicate 1500 0 ++ [0]
  nonempty := List.append_ne_nil_of_right_ne_nil _ (List.cons_ne_nil _ _)

theorem length_longMessage : longMessage.bytes.length = 1501 := by
  rw [longMessage, List.length_append, List.length_replicate]
  rfl

theorem run_long {m : UserMessage} (hlong : recvBufferLen < m.bytes.length)
    (hrest : (m.rest recvBufferLen hlong).bytes.length <= recvBufferLen) :
    exists s, assocMachine.run start
        [AssocEvent.arrive m, AssocEvent.receive, AssocEvent.receive] = some s ∧
      s.socket.sent = [m] ∧ s.socket.unread = [] ∧
      s.handled =
        [m.bytes.take recvBufferLen, m.bytes.drop recvBufferLen] := by
  have hpart := receive_part
    (s := { start with socket := start.socket.arrive [m] }) rfl hlong
  have hwhole := receive_whole
    (s := { start with socket := start.socket.arrive [m] }.handedOn
      (m.bytes.take recvBufferLen) [m.rest recvBufferLen hlong]) rfl hrest
  have hrun := (Machine.run_cons_of_step [AssocEvent.receive]
      ((step_receive rfl).trans hpart)).trans
    (Machine.run_cons_of_step [] ((step_receive rfl).trans hwhole))
  exact ⟨_, hrun, rfl, rfl, rfl⟩

/-- One message comes out as two. -/
theorem not_preserves_longMessage :
    (exists s, assocMachine.run start [AssocEvent.arrive longMessage,
        AssocEvent.receive, AssocEvent.receive] = some s ∧
      s.socket.sent = [longMessage] ∧ s.socket.unread = [] ∧
      s.handled = [List.replicate 1500 0, [0]]) ∧
    ¬ Preserves [longMessage] := by
  have hlong : recvBufferLen < longMessage.bytes.length := by
    rw [length_longMessage]
    decide
  have htake : longMessage.bytes.take recvBufferLen = List.replicate 1500 0 :=
    List.take_left' List.length_replicate
  have hdrop : longMessage.bytes.drop recvBufferLen = [0] :=
    List.drop_left' List.length_replicate
  constructor
  · have hrest : (longMessage.rest recvBufferLen hlong).bytes.length <=
        recvBufferLen := by
      rw [UserMessage.rest_bytes, hdrop]
      decide
    rcases run_long hlong hrest with ⟨s, hrun, hsent, hunread, hhandled⟩
    rw [htake, hdrop] at hhandled
    exact ⟨s, hrun, hsent, hunread, hhandled⟩
  · intro h
    exact absurd (fit_of_preserves h longMessage List.mem_cons_self)
      (Nat.not_le_of_lt hlong)

end AssocLoop
end Stack
end QCore
