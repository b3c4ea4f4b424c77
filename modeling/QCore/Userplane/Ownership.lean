import QCore.Userplane.Interleaving

/-!
# The sessions of one task

Of an interleaving of all tasks, one task sees its own calls and their answers.
From these calls alone it can be told which sessions the task still holds, and
for every session it ever reserved whether its slots are in use.
-/

namespace QCore
namespace Userplane

open Foundation

inductive SessionCall where
  | reserve (answer : Except UserplaneError UserplaneSession)
  | commit (session : UserplaneSession) (tunnel : GtpTunnel)
      (answer : Except UserplaneError Unit)
  | delete (session : UserplaneSession)
deriving DecidableEq

namespace SessionCall

def openAfter (sessions : List UserplaneSession) :
    SessionCall -> List UserplaneSession
  | reserve (Except.ok session) => sessions ++ [session]
  | delete session => sessions.erase session
  | _ => sessions

def uncommittedAfter (sessions : List UserplaneSession) :
    SessionCall -> List UserplaneSession
  | reserve (Except.ok session) => sessions ++ [session]
  | commit session _ (Except.ok ()) => sessions.erase session
  | _ => sessions

def reserved : SessionCall -> Bool
  | reserve (Except.ok _) => true
  | _ => false

end SessionCall

def openSessions (calls : List SessionCall) : List UserplaneSession :=
  calls.foldl SessionCall.openAfter []

def uncommittedSessions (calls : List SessionCall) : List UserplaneSession :=
  calls.foldl SessionCall.uncommittedAfter []

theorem openSessions_append (calls rest : List SessionCall) :
    openSessions (calls ++ rest) =
      rest.foldl SessionCall.openAfter (openSessions calls) :=
  List.foldl_append

theorem uncommittedSessions_append (calls rest : List SessionCall) :
    uncommittedSessions (calls ++ rest) =
      rest.foldl SessionCall.uncommittedAfter (uncommittedSessions calls) :=
  List.foldl_append

theorem reserved_of_open {calls : List SessionCall}
    {session : UserplaneSession} (h : session ∈ openSessions calls) :
    SessionCall.reserve (Except.ok session) ∈ calls := by
  have hfold : forall (calls : List SessionCall) sessions,
      session ∈ calls.foldl SessionCall.openAfter sessions ->
        session ∈ sessions ∨
          SessionCall.reserve (Except.ok session) ∈ calls := by
    intro calls
    induction calls with
    | nil =>
        intro sessions hmem
        exact Or.inl hmem
    | cons call rest ih =>
        intro sessions hmem
        rcases ih _ hmem with hafter | hrest
        · cases call with
          | commit session' tunnel answer => exact Or.inl hafter
          | delete session' => exact Or.inl (List.mem_of_mem_erase hafter)
          | reserve answer =>
              cases answer with
              | error e => exact Or.inl hafter
              | ok session' =>
                  rcases List.mem_append.mp hafter with hold | hnew
                  · exact Or.inl hold
                  · rw [List.mem_singleton.mp hnew]
                    exact Or.inr List.mem_cons_self
        · exact Or.inr (List.mem_cons_of_mem _ hrest)
  rcases hfold calls [] h with hnil | hmem
  · cases hnil
  · exact hmem

namespace Shared

open PacketProcessor

def completed (task : Nat) (s : Shared) : Move -> List SessionCall
  | Move.takeIndex t id =>
      if t = task ∧ ¬ id < maxUes then
        [SessionCall.reserve
          (Except.error UserplaneError.noMoreSlotsAvailable)]
      else
        []
  | Move.installUplink t rnd =>
      match s.progress t with
      | Progress.reserving idx =>
          if t = task then
            [SessionCall.reserve
              (Except.ok (sessionFor s.processor.ueSubnet rnd idx))]
          else
            []
      | _ => []
  | Move.commit t session tunnel =>
      if t = task then
        [SessionCall.commit session tunnel (Except.ok ())]
      else
        []
  | Move.removeUplink t =>
      match s.progress t with
      | Progress.deleting session =>
          if t = task then [SessionCall.delete session] else []
      | _ => []
  | _ => []

def callsOf (task : Nat) : Shared -> List Move -> List SessionCall
  | _, [] => []
  | s, m :: rest =>
      match s.step m with
      | none => []
      | some s' => s.completed task m ++ callsOf task s' rest

def ownedSessions (task : Nat) (s : Shared) : List UserplaneSession :=
  (s.live.filter fun e => e.owner = task).map LiveSession.session

theorem mem_ownedSessions {task : Nat} {s : Shared}
    {session : UserplaneSession} :
    session ∈ s.ownedSessions task <-> s.Owns task session := by
  unfold ownedSessions Owns
  simp [and_assoc]

theorem Owned.nodup_ownedSessions {subnet : Ipv4Addr} {s : Shared}
    (h : s.Owned subnet) (task : Nat) : (s.ownedSessions task).Nodup := by
  have hslots : ((s.ownedSessions task).map UserplaneSession.slot).Nodup := by
    unfold ownedSessions
    rw [List.map_map]
    exact h.live_distinct.sublist (List.filter_sublist.map _)
  exact hslots.of_map _

theorem ownedSessions_recordCommit (task : Nat) (live : List LiveSession)
    (session : UserplaneSession) (tunnel : GtpTunnel) :
    ((recordCommit live session tunnel).filter
        fun e => e.owner = task).map LiveSession.session =
      (live.filter fun e => e.owner = task).map LiveSession.session := by
  unfold recordCommit
  induction live with
  | nil => rfl
  | cons e rest ih =>
      rw [List.map_cons, List.filter_cons, List.filter_cons]
      by_cases hsession : e.session = session
      · by_cases howner : e.owner = task
        · simp only [hsession, howner, ↓reduceIte, decide_true, List.map_cons]
          rw [ih]
        · simp only [hsession, howner, ↓reduceIte, decide_false]
          exact ih
      · by_cases howner : e.owner = task
        · simp only [hsession, howner, ↓reduceIte, decide_true, List.map_cons]
          rw [ih]
        · simp only [hsession, howner, ↓reduceIte, decide_false]
          exact ih

theorem ownedSessions_remove {subnet : Ipv4Addr} {s : Shared}
    (hown : s.Owned subnet) {t : Nat} {session : UserplaneSession}
    (howns : s.Owns t session) (task : Nat) :
    ((s.live.filter fun e => e.session ≠ session).filter
        fun e => e.owner = task).map LiveSession.session =
      if t = task then (s.ownedSessions task).erase session
      else s.ownedSessions task := by
  have hcomm : ((s.live.filter fun e => e.session ≠ session).filter
      fun e => e.owner = task).map LiveSession.session =
        (s.ownedSessions task).filter fun x => x ≠ session := by
    unfold ownedSessions
    rw [List.filter_map, List.filter_comm]
    rfl
  rw [hcomm]
  by_cases ht : t = task
  · rw [if_pos ht, (hown.nodup_ownedSessions task).erase_eq_filter]
    apply List.filter_congr
    intro x _
    by_cases hx : x = session
    · simp [hx]
    · simp [hx]
  · rw [if_neg ht]
    apply List.filter_eq_self.mpr
    intro x hx
    rw [decide_eq_true_eq]
    intro heq
    rw [heq] at hx
    rcases mem_ownedSessions.mp hx with ⟨e, he, howner, hsession⟩
    rcases howns with ⟨e', he', howner', hsession'⟩
    have hsame : e = e' := by
      apply hown.eq_of_slot_eq he he'
      rw [hsession, hsession']
    rw [hsame, howner'] at howner
    exact ht howner

theorem ownedSessions_effect {subnet : Ipv4Addr} {s s' : Shared} {m : Move}
    (hown : s.Owned subnet) (heffect : Effect s m s') (task : Nat) :
    s'.ownedSessions task =
      (s.completed task m).foldl SessionCall.openAfter
        (s.ownedSessions task) := by
  cases heffect with
  | indexTaken _ _ hid =>
      rw [completed, if_neg fun h => h.right hid]
      rfl
  | @indexRefused t id _ hid =>
      by_cases ht : t = task
      · rw [completed, if_pos ⟨ht, hid⟩]
        rfl
      · rw [completed, if_neg fun h => ht h.left]
        rfl
  | @uplinkInstalled t rnd idx hprog =>
      simp only [completed, hprog]
      unfold ownedSessions
      rw [List.filter_append, List.map_append]
      by_cases ht : t = task
      · simp [ht, SessionCall.openAfter]
      · simp [ht]
  | @committed t session tunnel _ _ =>
      rw [completed]
      unfold ownedSessions
      rw [ownedSessions_recordCommit]
      by_cases ht : t = task
      · rw [if_pos ht]
        rfl
      · rw [if_neg ht]
        rfl
  | downlinkRemoved _ _ => rfl
  | @uplinkRemoved t session hprog =>
      simp only [completed, hprog]
      refine (ownedSessions_remove hown
        (hown.deleting_owns t session hprog) task).trans ?_
      by_cases ht : t = task
      · rw [if_pos ht, if_pos ht]
        rfl
      · rw [if_neg ht, if_neg ht]
        rfl
  | forwarded _ => rfl

/-!
## Slots that were used
-/

structure Retired (s : Shared) (i : Nat) : Prop where
  used : i ∈ s.processor.indexPool.inUse
  not_live : i ∉ s.liveSlots
  not_reserving : forall task idx,
    s.progress task = Progress.reserving idx -> idx.toNat ≠ i

theorem retired_effect {s s' : Shared} {m : Move} (heffect : Effect s m s')
    {i : Nat} (h : s.Retired i) : s'.Retired i := by
  have hother : forall {task : Nat} {p : Progress} {t : Nat} {idx : UInt8},
      (forall idx, p = Progress.reserving idx -> idx.toNat ≠ i) ->
      Function.update s.progress task p t = Progress.reserving idx ->
        idx.toNat ≠ i := by
    intro task p t idx hp ht
    rcases progress_update ht with ⟨_, hnew⟩ | ⟨_, hold⟩
    · exact hp idx hnew
    · exact h.not_reserving t idx hold
  cases heffect with
  | @indexTaken task id _ hfree hid =>
      refine ⟨Finset.mem_insert_of_mem h.used, h.not_live, ?_⟩
      intro t idx ht
      refine hother ?_ ht
      intro idx' heq hi
      cases heq
      have hnat : (UInt8.ofNat id).toNat = id := by
        apply UInt8.toNat_ofNat_of_lt'
        unfold maxUes at hid
        change id < 256
        lia
      rw [hnat] at hi
      rw [hi] at hfree
      exact hfree h.used
  | indexRefused _ _ =>
      exact ⟨Finset.mem_insert_of_mem h.used, h.not_live, h.not_reserving⟩
  | @uplinkInstalled task rnd idx hprog =>
      refine ⟨h.used, ?_, ?_⟩
      · intro hmem
        unfold liveSlots at hmem
        rw [List.map_append, List.mem_append] at hmem
        rcases hmem with hold | hnew
        · exact h.not_live hold
        · rw [List.mem_singleton.mp hnew] at h
          exact h.not_reserving task idx hprog rfl
      · intro t idx' ht
        exact hother (p := Progress.idle) (fun _ heq => nomatch heq) ht
  | committed _ _ =>
      refine ⟨h.used, ?_, h.not_reserving⟩
      unfold liveSlots
      rw [recordCommit_slots]
      exact h.not_live
  | @downlinkRemoved task session _ _ =>
      refine ⟨h.used, h.not_live, ?_⟩
      intro t idx ht
      exact hother (p := Progress.deleting session) (fun _ heq => nomatch heq) ht
  | uplinkRemoved _ =>
      refine ⟨h.used, ?_, ?_⟩
      · intro hmem
        exact h.not_live ((List.filter_sublist.map _).subset hmem)
      · intro t idx ht
        exact hother (p := Progress.idle) (fun _ heq => nomatch heq) ht
  | forwarded _ => exact ⟨h.used, h.not_live, h.not_reserving⟩

/-!
## What the calls tell
-/

/-- The calls of `task` so far account for its sessions: it holds the open ones,
and the slots of the others are retired. -/
structure Traced (task : Nat) (calls : List SessionCall) (s : Shared) :
    Prop where
  owned : s.ownedSessions task = openSessions calls
  ended : forall session,
    SessionCall.reserve (Except.ok session) ∈ calls ->
      session ∈ s.ownedSessions task ∨ s.Retired session.slot

theorem owned_or_retired {subnet : Ipv4Addr} {s s' : Shared} {m : Move}
    (hown : s.Owned subnet) (heffect : Effect s m s') {task : Nat}
    {session : UserplaneSession} (h : session ∈ s.ownedSessions task) :
    session ∈ s'.ownedSessions task ∨ s'.Retired session.slot := by
  have howns := mem_ownedSessions.mp h
  cases heffect with
  | @uplinkRemoved t session' hprog =>
      by_cases hsame : session = session'
      · apply Or.inr
        rw [← hsame]
        rcases howns with ⟨e, he, _, hsession⟩
        have hslot := mem_liveSlots he
        rw [hsession] at hslot
        refine ⟨hown.live_used _ hslot, ?_, ?_⟩
        · intro hmem
          rcases List.mem_map.mp hmem with ⟨e', he', hslot'⟩
          rcases List.mem_filter.mp he' with ⟨hlive, hne⟩
          rw [decide_eq_true_eq] at hne
          have heq : e' = e := by
            apply hown.eq_of_slot_eq hlive he
            rw [hslot', hsession]
          rw [heq] at hne
          exact hne hsession
        · intro t' idx ht heq
          rcases progress_update ht with ⟨_, hp⟩ | ⟨_, hold⟩
          · cases hp
          · rw [← heq] at hslot
            exact hown.reserving_fresh t' idx hold hslot
      · refine Or.inl (mem_ownedSessions.mpr ?_)
        rcases howns with ⟨e, he, howner, hsession⟩
        refine ⟨e, List.mem_filter.mpr ⟨he, ?_⟩, howner, hsession⟩
        rw [decide_eq_true_eq, hsession]
        exact hsame
  | indexTaken _ _ _ => exact Or.inl h
  | indexRefused _ _ => exact Or.inl h
  | downlinkRemoved _ _ => exact Or.inl h
  | forwarded _ => exact Or.inl h
  | uplinkInstalled _ =>
      refine Or.inl (mem_ownedSessions.mpr ?_)
      rcases howns with ⟨e, he, hrest⟩
      exact ⟨e, List.mem_append_left _ he, hrest⟩
  | committed _ _ =>
      exact Or.inl (mem_ownedSessions.mpr (owns_recordCommit _ howns))

theorem traced_step {subnet : Ipv4Addr} {s s' : Shared} {m : Move}
    (hown : s.Owned subnet) (heffect : Effect s m s') {task : Nat}
    {calls : List SessionCall} (h : s.Traced task calls) :
    s'.Traced task (calls ++ s.completed task m) := by
  have hfold := ownedSessions_effect hown heffect task
  constructor
  · rw [hfold, openSessions_append, h.owned]
  · intro session hmem
    rcases List.mem_append.mp hmem with hold | hnew
    · rcases h.ended session hold with howned | hretired
      · exact owned_or_retired hown heffect howned
      · exact Or.inr (retired_effect heffect hretired)
    · -- The only move that completes a reservation installs the session.
      apply Or.inl
      rw [hfold]
      cases heffect with
      | @uplinkInstalled t rnd idx hprog =>
          simp only [completed, hprog] at hnew ⊢
          by_cases ht : t = task
          · rw [if_pos ht] at hnew ⊢
            cases List.mem_singleton.mp hnew
            exact List.mem_append_right _ List.mem_cons_self
          · rw [if_neg ht] at hnew
            cases hnew
      | indexTaken _ _ hid =>
          rw [completed, if_neg fun h => h.right hid] at hnew
          cases hnew
      | @indexRefused t id _ hid =>
          by_cases ht : t = task
          · rw [completed, if_pos ⟨ht, hid⟩] at hnew
            cases List.mem_singleton.mp hnew
          · rw [completed, if_neg fun h => ht h.left] at hnew
            cases hnew
      | @committed t session' tunnel _ _ =>
          by_cases ht : t = task
          · rw [completed, if_pos ht] at hnew
            cases List.mem_singleton.mp hnew
          · rw [completed, if_neg ht] at hnew
            cases hnew
      | downlinkRemoved _ _ => cases hnew
      | @uplinkRemoved t session' hprog =>
          simp only [completed, hprog] at hnew
          by_cases ht : t = task
          · rw [if_pos ht] at hnew
            cases List.mem_singleton.mp hnew
          · rw [if_neg ht] at hnew
            cases hnew
      | forwarded _ => cases hnew

theorem callsOf_invariant {I : List SessionCall -> Shared -> Prop}
    {subnet : Ipv4Addr} {task : Nat}
    (hstep : forall calls s m s', s.Owned subnet -> Effect s m s' ->
      I calls s -> I (calls ++ s.completed task m) s')
    {s s' : Shared} {ms : List Move} (hconsistent : s.Consistent subnet)
    {calls : List SessionCall} (h : I calls s)
    (hrun : sessionMachine.run s ms = some s') :
    I (calls ++ callsOf task s ms) s' := by
  induction ms generalizing s calls with
  | nil =>
      cases hrun
      rw [callsOf, List.append_nil]
      exact h
  | cons m rest ih =>
      rcases Machine.run_cons_some hrun with ⟨t, hl, hrest⟩
      have hnext := hstep calls s m t hconsistent.owned
        (step_effect hconsistent.owned hl) h
      have hend := ih (consistent_step hconsistent hl) hnext hrest
      change s.step m = some t at hl
      rw [List.append_assoc] at hend
      rw [callsOf, hl]
      exact hend

theorem traced_run {subnet : Ipv4Addr} {s s' : Shared} {ms : List Move}
    (hconsistent : s.Consistent subnet) {task : Nat}
    {calls : List SessionCall} (h : s.Traced task calls)
    (hrun : sessionMachine.run s ms = some s') :
    s'.Traced task (calls ++ callsOf task s ms) :=
  callsOf_invariant (I := fun calls s => s.Traced task calls)
    (fun _ _ _ _ hown heffect htraced => traced_step hown heffect htraced)
    hconsistent h hrun

theorem traced_start (subnet : Ipv4Addr) (task : Nat) :
    (start subnet).Traced task [] where
  owned := rfl
  ended _ hmem := nomatch hmem

theorem tables_clear_iff {subnet : Ipv4Addr} {s : Shared}
    (hconsistent : s.Consistent subnet) {task : Nat}
    {calls : List SessionCall} (h : s.Traced task calls) :
    (forall session, SessionCall.reserve (Except.ok session) ∈ calls ->
        s.processor.uplinkForwardingTable.lookup session.slot = none ∧
          s.processor.downlinkForwardingTable.lookup session.slot = none) <->
      openSessions calls = [] := by
  constructor
  · intro hclear
    apply List.eq_nil_iff_forall_not_mem.mpr
    intro session hopen
    have huplink := (hclear session (reserved_of_open hopen)).left
    rw [← h.owned] at hopen
    rcases mem_ownedSessions.mp hopen with ⟨e, he, _, hsession⟩
    have hrule := (hconsistent.uplinkExact session.slot
      ⟨session.uplinkGtpTeid⟩).mpr ⟨e, he, by rw [hsession], by rw [hsession]⟩
    rw [huplink] at hrule
    cases hrule
  · intro hopen session hmem
    rcases h.ended session hmem with howned | hretired
    · rw [h.owned, hopen] at howned
      cases howned
    · constructor
      · apply Option.eq_none_iff_forall_ne_some.mpr
        intro rule hrule
        rcases (hconsistent.uplinkExact _ rule).mp hrule with ⟨e, he, hslot, _⟩
        have hlive := mem_liveSlots he
        rw [hslot] at hlive
        exact hretired.not_live hlive
      · apply Option.eq_none_iff_forall_ne_some.mpr
        intro rule hrule
        rcases hconsistent.downlinkSound _ rule hrule with ⟨e, he, hslot, _⟩
        have hlive := mem_liveSlots he
        rw [hslot] at hlive
        exact hretired.not_live hlive

/-!
## How many sessions a task can reserve

Numbers are not given back, so every reservation takes another slot of the
tables, and slot 0 is never handed out.
-/

def takenSlots (s : Shared) : Finset Nat :=
  s.processor.indexPool.inUse.filter fun i => i < maxUes

theorem takenSlots_card_le (s : Shared) : s.takenSlots.card <= maxUes := by
  have hsubset : s.takenSlots ⊆ Finset.range maxUes := by
    intro i hi
    exact Finset.mem_range.mpr (Finset.mem_filter.mp hi).right
  have hcard := Finset.card_le_card hsubset
  rw [Finset.card_range] at hcard
  exact hcard

def pending : Progress -> Nat
  | Progress.reserving _ => 1
  | _ => 0

def Slotted (task : Nat) (calls : List SessionCall) (s : Shared) : Prop :=
  calls.countP SessionCall.reserved + pending (s.progress task) <
    s.takenSlots.card

theorem slotted_start (subnet : Ipv4Addr) (task : Nat) :
    (start subnet).Slotted task [] := by
  have hstart : (start subnet).takenSlots = {0} := rfl
  unfold Slotted
  rw [hstart]
  exact Nat.zero_lt_one

theorem pending_le_one (p : Progress) : pending p <= 1 := by
  cases p with
  | reserving idx => exact Nat.le_refl 1
  | _ => exact Nat.zero_le 1

theorem pending_update_le {progress : Nat -> Progress} {task t : Nat}
    {p : Progress} (h : pending p = 0) :
    pending (Function.update progress t p task) <= pending (progress task) := by
  cases decEq task t with
  | isTrue heq =>
      rw [heq, Function.update_self, h]
      exact Nat.zero_le _
  | isFalse hne => rw [Function.update_of_ne hne]

theorem takenSlots_insert {s : Shared} {id : Nat}
    (hfree : id ∉ s.processor.indexPool.inUse) (hid : id < maxUes) :
    ((insert id s.processor.indexPool.inUse).filter
      fun i => i < maxUes).card = s.takenSlots.card + 1 := by
  rw [Finset.filter_insert, if_pos hid, Finset.card_insert_of_notMem]
  · rfl
  · exact fun hmem => hfree (Finset.mem_filter.mp hmem).left

theorem not_reserved_of_completed {s : Shared} {task : Nat} {m : Move}
    (h : forall t rnd, m ≠ Move.installUplink t rnd) :
    (s.completed task m).countP SessionCall.reserved = 0 := by
  cases m with
  | installUplink t rnd => exact absurd rfl (h t rnd)
  | takeIndex t id =>
      rw [completed]
      split <;> rfl
  | commit t session tunnel =>
      rw [completed]
      split <;> rfl
  | removeUplink t =>
      simp only [completed]
      cases s.progress t with
      | deleting session =>
          show (if t = task then [SessionCall.delete session]
            else []).countP _ = 0
          split <;> rfl
      | _ => rfl
  | _ => rfl

theorem slotted_step {s s' : Shared} {m : Move} (heffect : Effect s m s')
    {task : Nat} {calls : List SessionCall} (h : s.Slotted task calls) :
    s'.Slotted task (calls ++ s.completed task m) := by
  unfold Slotted at h ⊢
  rw [List.countP_append]
  cases heffect with
  | @indexTaken t id _ hfree hid =>
      have hpending := pending_le_one (Function.update s.progress t
        (Progress.reserving (UInt8.ofNat id)) task)
      show _ + pending (Function.update s.progress t _ task) <
        ((insert id s.processor.indexPool.inUse).filter _).card
      rw [takenSlots_insert hfree hid, not_reserved_of_completed (by simp)]
      lia
  | @indexRefused t id _ hid =>
      show _ < ((insert id s.processor.indexPool.inUse).filter _).card
      rw [not_reserved_of_completed (by simp), Finset.filter_insert,
        if_neg hid]
      exact h
  | @uplinkInstalled t rnd idx hprog =>
      show _ + pending (Function.update s.progress t _ task) <
        s.takenSlots.card
      simp only [completed, hprog]
      cases decEq t task with
      | isTrue heq =>
          rw [if_pos heq, heq, Function.update_self]
          rw [← heq, hprog] at h
          exact h
      | isFalse hne =>
          rw [if_neg hne, Function.update_of_ne (Ne.symm hne)]
          exact h
  | committed _ _ =>
      rw [not_reserved_of_completed (by simp)]
      exact h
  | @downlinkRemoved t session _ _ =>
      have hpending : pending (Function.update s.progress t
          (Progress.deleting session) task) <= pending (s.progress task) :=
        pending_update_le rfl
      exact Nat.lt_of_le_of_lt (Nat.add_le_add_left hpending _) h
  | @uplinkRemoved t session hprog =>
      have hpending : pending (Function.update s.progress t
          Progress.idle task) <= pending (s.progress task) :=
        pending_update_le rfl
      rw [not_reserved_of_completed (by simp)]
      exact Nat.lt_of_le_of_lt (Nat.add_le_add_left hpending _) h
  | forwarded _ => exact h

theorem reserved_lt {subnet : Ipv4Addr} (task : Nat) {ms : List Move}
    {s : Shared} (hrun : sessionMachine.run (start subnet) ms = some s) :
    (callsOf task (start subnet) ms).countP SessionCall.reserved < maxUes := by
  have hslotted : s.Slotted task ([] ++ callsOf task (start subnet) ms) :=
    callsOf_invariant (I := fun calls s => s.Slotted task calls)
      (fun _ _ _ _ _ heffect h => slotted_step heffect h)
      (consistent_start subnet) (slotted_start subnet task) hrun
  have hle := takenSlots_card_le s
  unfold Slotted at hslotted
  rw [List.nil_append] at hslotted
  lia

end Shared

end Userplane
end QCore
