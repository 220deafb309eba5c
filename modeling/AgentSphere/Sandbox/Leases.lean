import AgentSphere.Lib.Machine
import AgentSphere.Sandbox.Basic

/-!
# Leases on sandboxes

`InMemoryExecutionLeaseStore` lends a sandbox to one owner at a time and numbers the leases. The
number is that of the lease it holds plus one, and 1 if it holds none: a released lease is deleted,
so the numbers of its sandbox start anew. Until then they grow, and an earlier lease is refused.

An epoch is a number of 64 bits, and an increment beyond them panics.
-/

namespace AgentSphere.Sandbox

open Concurrency

structure ExecutionLease where
  sandboxId : String
  ownerId : String
  epoch : Nat
  expiresAt : DateTime
  deriving DecidableEq, Repr

/-- The leases of an `InMemoryExecutionLeaseStore`. -/
abbrev LeaseStore := BTreeMap String ExecutionLease

inductive LeaseOperation where
  | acquire (sandboxId ownerId : String) (ttl : Int)
  | renew (lease : ExecutionLease) (ttl : Int)
  | release (lease : ExecutionLease)
  deriving DecidableEq, Repr

structure LeaseCall where
  now : DateTime
  operation : LeaseOperation
  deriving DecidableEq, Repr

abbrev LeaseAnswer := Except SandboxError (Option ExecutionLease)

def Conflicts (leases : LeaseStore) (sandboxId ownerId : String) (ttl : Int) (now : DateTime) :
    Prop :=
  sandboxId = "" ∨ ownerId = "" ∨ ttl ≤ 0 ∨
    ∃ lease ∈ leases[sandboxId]?, lease.expiresAt > now ∧ lease.ownerId ≠ ownerId

instance (leases : LeaseStore) (sandboxId ownerId : String) (ttl : Int) (now : DateTime) :
    Decidable (Conflicts leases sandboxId ownerId ttl now) :=
  inferInstanceAs (Decidable (_ ∨ _ ∨ _ ∨ _))

def nextEpoch (leases : LeaseStore) (sandboxId : String) : Nat :=
  (leases[sandboxId]?.map (·.epoch + 1)).getD 1

def acquire (leases : LeaseStore) (sandboxId ownerId : String) (ttl : Int) (now : DateTime) :
    LeaseAnswer × LeaseStore :=
  if Conflicts leases sandboxId ownerId ttl now then (.error .leaseConflict, leases)
  else if nextEpoch leases sandboxId ≥ 2 ^ 64 then (.error .panicked, leases)
  else
    let lease : ExecutionLease :=
      { sandboxId, ownerId, epoch := nextEpoch leases sandboxId, expiresAt := now + ttl }
    (.ok (some lease), leases.insert sandboxId lease)

def IsCurrent (leases : LeaseStore) (lease : ExecutionLease) : Prop :=
  ∃ current ∈ leases[lease.sandboxId]?,
    current.ownerId = lease.ownerId ∧ current.epoch = lease.epoch

instance (leases : LeaseStore) (lease : ExecutionLease) : Decidable (IsCurrent leases lease) :=
  inferInstanceAs (Decidable (∃ current ∈ leases[lease.sandboxId]?, _ ∧ _))

def renew (leases : LeaseStore) (lease : ExecutionLease) (ttl : Int) (now : DateTime) :
    LeaseAnswer × LeaseStore :=
  if ttl ≤ 0 ∨ lease.expiresAt ≤ now ∨ ¬IsCurrent leases lease then
    (.error .leaseConflict, leases)
  else
    let renewed : ExecutionLease := { lease with expiresAt := now + ttl }
    (.ok (some renewed), leases.insert lease.sandboxId renewed)

def release (leases : LeaseStore) (lease : ExecutionLease) : LeaseAnswer × LeaseStore :=
  if IsCurrent leases lease then (.ok none, leases.erase lease.sandboxId)
  else (.error .leaseConflict, leases)

abbrev LeaseEvent := Served LeaseStore LeaseCall LeaseAnswer

namespace LeaseEvent

def obtained (event : LeaseEvent) : Option ExecutionLease :=
  event.answer.toOption.join

def givenBack (event : LeaseEvent) : Option ExecutionLease :=
  match event.call.operation, event.answer with
  | .release lease, .ok _ => some lease
  | _, _ => none

def granted (sandboxId : String) (event : LeaseEvent) : Option ExecutionLease :=
  match event.call.operation with
  | .acquire sandboxId' _ _ => if sandboxId' = sandboxId then event.obtained else none
  | _ => none

def used (event : LeaseEvent) : Option ExecutionLease :=
  match event.call.operation, event.answer with
  | .renew lease _, .ok _ => some lease
  | .release lease, .ok _ => some lease
  | _, _ => none

def updated (sandboxId ownerId : String) (event : LeaseEvent) (held : Option ExecutionLease) :
    Option ExecutionLease :=
  if ∃ lease ∈ event.obtained, lease.sandboxId = sandboxId ∧ lease.ownerId = ownerId then
    event.obtained
  else if ∃ lease ∈ event.givenBack, lease.sandboxId = sandboxId ∧ lease.ownerId = ownerId then
    none
  else held

end LeaseEvent

def held (sandboxId ownerId : String) (trace : List LeaseEvent) : Option ExecutionLease :=
  trace.foldl (fun lease event => event.updated sandboxId ownerId lease) none

def grants (sandboxId : String) (trace : List LeaseEvent) : List Nat :=
  (trace.filterMap (·.granted sandboxId)).map (·.epoch)

/-- An acquire of an owner whom nothing keeps from it does not find that the lease on its sandbox
has been deleted. -/
def Undeleted (before : List LeaseEvent) (leases : LeaseStore) (call : LeaseCall) : Prop :=
  ∀ sandboxId ownerId ttl, call.operation = .acquire sandboxId ownerId ttl →
    ¬Conflicts leases sandboxId ownerId ttl call.now → leases[sandboxId]? = none →
      ∀ event ∈ before, event.before[sandboxId]? = none

variable {leases leases' : LeaseStore} {call : LeaseCall} {answer : LeaseAnswer}
  {calls : List LeaseCall} {trace before after : List LeaseEvent} {event : LeaseEvent}
  {lease : ExecutionLease} {sandboxId sandboxId' ownerId ownerId' : String} {n : Nat}

inductive Handled (leases : LeaseStore) : LeaseCall → LeaseAnswer → LeaseStore → Prop
  | refused {call : LeaseCall} {error : SandboxError} : Handled leases call (.error error) leases
  | acquired {now : DateTime} {sandboxId ownerId : String} {ttl : Int} {lease : ExecutionLease}
      (hfree : ¬Conflicts leases sandboxId ownerId ttl now)
      (hlease : lease = ⟨sandboxId, ownerId, nextEpoch leases sandboxId, now + ttl⟩) :
      Handled leases ⟨now, .acquire sandboxId ownerId ttl⟩ (.ok (some lease))
        (leases.insert sandboxId lease)
  | renewed {now : DateTime} {lease renewed : ExecutionLease} {ttl : Int}
      (hcurrent : IsCurrent leases lease)
      (hrenewed : renewed = { lease with expiresAt := now + ttl }) :
      Handled leases ⟨now, .renew lease ttl⟩ (.ok (some renewed))
        (leases.insert lease.sandboxId renewed)
  | released {now : DateTime} {lease : ExecutionLease} (hcurrent : IsCurrent leases lease) :
      Handled leases ⟨now, .release lease⟩ (.ok none) (leases.erase lease.sandboxId)

theorem nextEpoch_of_some (h : leases[sandboxId]? = some lease) :
    nextEpoch leases sandboxId = lease.epoch + 1 := by
  simp [nextEpoch, h]

theorem nextEpoch_of_none (h : leases[sandboxId]? = none) : nextEpoch leases sandboxId = 1 := by
  simp [nextEpoch, h]

theorem nextEpoch_pos : 1 ≤ nextEpoch leases sandboxId := by
  cases h : leases[sandboxId]? with
  | none => exact (nextEpoch_of_none h).ge
  | some lease =>
    rw [nextEpoch_of_some h]
    omega

theorem held_snoc : held sandboxId ownerId (trace ++ [event]) =
    event.updated sandboxId ownerId (held sandboxId ownerId trace) :=
  List.foldl_concat ..

theorem grants_snoc : grants sandboxId (trace ++ [event]) =
    grants sandboxId trace ++ ((event.granted sandboxId).map (·.epoch)).toList := by
  simp only [grants, List.filterMap_append, List.map_append]
  cases h : event.granted sandboxId with
  | none => simp [h]
  | some lease => simp [h]

theorem mem_grants : n ∈ grants sandboxId trace ↔
    ∃ event ∈ trace, ∃ lease ∈ event.granted sandboxId, lease.epoch = n := by
  simp only [grants, List.mem_map, List.mem_filterMap]
  constructor
  · rintro ⟨lease, ⟨event, hmem, hgranted⟩, hn⟩
    exact ⟨event, hmem, lease, hgranted, hn⟩
  · rintro ⟨event, hmem, lease, hgranted, hn⟩
    exact ⟨lease, ⟨event, hmem, hgranted⟩, hn⟩

section Events

variable {error : SandboxError} {now : DateTime} {ttl : Int} {obtained : Option ExecutionLease}

@[simp] theorem obtained_ok :
    LeaseEvent.obtained ⟨leases, call, .ok obtained⟩ = obtained := rfl

@[simp] theorem obtained_error : LeaseEvent.obtained ⟨leases, call, .error error⟩ = none := rfl

@[simp] theorem granted_error :
    LeaseEvent.granted sandboxId ⟨leases, call, .error error⟩ = none := by
  unfold LeaseEvent.granted
  split
  · exact ite_self none
  · rfl

@[simp] theorem granted_acquire : LeaseEvent.granted sandboxId
    ⟨leases, ⟨now, .acquire sandboxId' ownerId ttl⟩, .ok obtained⟩ =
      if sandboxId' = sandboxId then obtained else none := rfl

@[simp] theorem granted_renew : LeaseEvent.granted sandboxId
    ⟨leases, ⟨now, .renew lease ttl⟩, answer⟩ = none := rfl

@[simp] theorem granted_release : LeaseEvent.granted sandboxId
    ⟨leases, ⟨now, .release lease⟩, answer⟩ = none := rfl

theorem obtained_of_granted (h : event.granted sandboxId = some lease) :
    event.obtained = some lease := by
  unfold LeaseEvent.granted at h
  split at h
  · exact (Option.ite_none_right_eq_some.mp h).2
  · exact nomatch h

@[simp] theorem updated_error (lease : Option ExecutionLease) :
    LeaseEvent.updated sandboxId ownerId ⟨leases, call, .error error⟩ lease = lease := by
  have hback : LeaseEvent.givenBack ⟨leases, call, .error error⟩ = none := by
    unfold LeaseEvent.givenBack
    split
    · next h => exact nomatch h
    · rfl
  simp [LeaseEvent.updated, hback]

theorem updated_obtained (hobtained : event.obtained = some lease) (hback : event.givenBack = none)
    (previous : Option ExecutionLease) : event.updated sandboxId ownerId previous =
      if lease.sandboxId = sandboxId ∧ lease.ownerId = ownerId then some lease else previous := by
  simp [LeaseEvent.updated, hobtained, hback]

theorem updated_release (previous : Option ExecutionLease) : LeaseEvent.updated sandboxId ownerId
    ⟨leases, ⟨now, .release lease⟩, .ok none⟩ previous =
      if lease.sandboxId = sandboxId ∧ lease.ownerId = ownerId then none else previous := by
  simp [LeaseEvent.updated, LeaseEvent.givenBack]

end Events

namespace Handled

/-- A lease that was obtained is the one that is stored now. It was acquired, or its owner and its
epoch are those of the lease stored before. -/
theorem of_obtained (h : Handled leases call answer leases')
    (hobtained : LeaseEvent.obtained ⟨leases, call, answer⟩ = some lease) :
    leases'[lease.sandboxId]? = some lease ∧
      (LeaseEvent.granted lease.sandboxId ⟨leases, call, answer⟩ = some lease ∨
        IsCurrent leases lease) := by
  cases h with
  | refused => exact nomatch hobtained
  | acquired hfree hlease =>
    obtain rfl := Option.some.inj hobtained
    subst hlease
    exact ⟨by simp, .inl (by simp)⟩
  | renewed hcurrent hrenewed =>
    obtain rfl := Option.some.inj hobtained
    subst hrenewed
    exact ⟨by simp, .inr hcurrent⟩
  | released => exact nomatch hobtained

theorem of_granted (h : Handled leases call answer leases')
    (hgranted : LeaseEvent.granted sandboxId ⟨leases, call, answer⟩ = some lease) :
    lease.sandboxId = sandboxId ∧ lease.epoch = nextEpoch leases sandboxId ∧
      ∃ ownerId ttl, call.operation = .acquire sandboxId ownerId ttl ∧
        ¬Conflicts leases sandboxId ownerId ttl call.now := by
  cases h with
  | refused => simp at hgranted
  | @acquired now sandboxId' ownerId ttl _ hfree hlease =>
    obtain ⟨rfl, hsome⟩ := Option.ite_none_right_eq_some.mp hgranted
    obtain rfl := Option.some.inj hsome
    subst hlease
    exact ⟨rfl, rfl, ownerId, ttl, rfl, hfree⟩
  | renewed => exact nomatch hgranted
  | released => exact nomatch hgranted

theorem of_stored (h : Handled leases call answer leases')
    (hstored : leases'[sandboxId]? = some lease) :
    LeaseEvent.obtained ⟨leases, call, answer⟩ = some lease ∧ lease.sandboxId = sandboxId ∨
      leases[sandboxId]? = some lease := by
  cases h with
  | refused => exact .inr hstored
  | @acquired now sandboxId' ownerId ttl lease' hfree hlease =>
    rw [BTreeMap.getElem?_insert_ite] at hstored
    split at hstored
    · next heq => exact .inl ⟨hstored, by rw [← Option.some.inj hstored, hlease, ← heq]⟩
    · exact .inr hstored
  | renewed hcurrent hrenewed =>
    rw [BTreeMap.getElem?_insert_ite] at hstored
    split at hstored
    · next heq => exact .inl ⟨hstored, by rw [← Option.some.inj hstored, hrenewed, ← heq]⟩
    · exact .inr hstored
  | released =>
    rw [Std.ExtTreeMap.getElem?_erase] at hstored
    split at hstored
    · exact nomatch hstored
    · exact .inr hstored

/-- After a call an owner holds what the store holds, or nothing, or as much as before; in the last
case the call was on another sandbox or on what another owner holds. -/
theorem held_cases (h : Handled leases call answer leases') (sandboxId ownerId : String)
    (previous : Option ExecutionLease) :
    (∃ lease, LeaseEvent.updated sandboxId ownerId ⟨leases, call, answer⟩ previous = some lease ∧
        leases'[sandboxId]? = some lease ∧ lease.ownerId = ownerId) ∨
      LeaseEvent.updated sandboxId ownerId ⟨leases, call, answer⟩ previous = none ∨
      LeaseEvent.updated sandboxId ownerId ⟨leases, call, answer⟩ previous = previous ∧
        (leases'[sandboxId]? = leases[sandboxId]? ∨
          ∀ lease ∈ leases[sandboxId]?, lease.expiresAt > call.now → lease.ownerId ≠ ownerId) := by
  cases h with
  | refused => exact .inr (.inr ⟨updated_error previous, .inl rfl⟩)
  | @acquired now sandboxId' ownerId' ttl lease hfree hlease =>
    rw [updated_obtained (obtained_ok) rfl]
    by_cases hsame : lease.sandboxId = sandboxId ∧ lease.ownerId = ownerId
    · rw [if_pos hsame]
      subst hlease
      exact .inl ⟨_, rfl, by simp [← hsame.1], hsame.2⟩
    · rw [if_neg hsame]
      refine .inr (.inr ⟨rfl, ?_⟩)
      by_cases heq : sandboxId' = sandboxId
      · right
        intro current hcurrent hunexpired howner
        subst hlease heq
        have hother : current.ownerId ≠ ownerId' := fun hown => hsame ⟨rfl, hown ▸ howner⟩
        exact hfree (.inr (.inr (.inr ⟨current, hcurrent, hunexpired, hother⟩)))
      · left
        rw [BTreeMap.getElem?_insert_ite, if_neg heq]
  | @renewed now lease renewed ttl hcurrent hrenewed =>
    rw [updated_obtained (obtained_ok) rfl]
    subst hrenewed
    by_cases hsame : lease.sandboxId = sandboxId ∧ lease.ownerId = ownerId
    · rw [if_pos hsame]
      exact .inl ⟨_, rfl, by simp [← hsame.1], hsame.2⟩
    · rw [if_neg hsame]
      refine .inr (.inr ⟨rfl, ?_⟩)
      by_cases heq : lease.sandboxId = sandboxId
      · right
        intro current hstored _ howner
        obtain ⟨_, hmem, hown, -⟩ := hcurrent
        subst heq
        obtain rfl := Option.some.inj (hstored.symm.trans hmem)
        exact hsame ⟨rfl, hown ▸ howner⟩
      · left
        rw [BTreeMap.getElem?_insert_ite, if_neg heq]
  | @released now lease hcurrent =>
    rw [updated_release]
    by_cases hsame : lease.sandboxId = sandboxId ∧ lease.ownerId = ownerId
    · exact .inr (.inl (if_pos hsame))
    · rw [if_neg hsame]
      refine .inr (.inr ⟨rfl, ?_⟩)
      by_cases heq : lease.sandboxId = sandboxId
      · right
        intro current hstored _ howner
        obtain ⟨_, hmem, hown, -⟩ := hcurrent
        subst heq
        obtain rfl := Option.some.inj (hstored.symm.trans hmem)
        exact hsame ⟨rfl, hown ▸ howner⟩
      · left
        simp [Std.ExtTreeMap.getElem?_erase, heq]

end Handled

structure Recorded (trace : List LeaseEvent) (leases : LeaseStore) : Prop where
  /-- A lease in the store is numbered as one that was acquired. -/
  stored : ∀ sandboxId, ∀ lease ∈ leases[sandboxId]?, lease.epoch ∈ grants sandboxId trace
  positive : ∀ sandboxId, ∀ n ∈ grants sandboxId trace, 1 ≤ n
  placed : ∀ event ∈ trace, ∀ sandboxId, ∀ lease ∈ event.granted sandboxId,
    lease.sandboxId = sandboxId
  /-- What was obtained is in the store, or there was a lease in it earlier. -/
  remembered : ∀ event ∈ trace, ∀ lease ∈ event.obtained, leases[lease.sandboxId]? = none →
    ∃ event ∈ trace, event.before[lease.sandboxId]? ≠ none

namespace Recorded

theorem start : Recorded [] ∅ where
  stored _ _ h := nomatch Std.ExtTreeMap.getElem?_empty.symm.trans h
  positive _ _ h := nomatch h
  placed _ h := nomatch h
  remembered _ h := nomatch h

theorem serve (h : Recorded trace leases) (hcall : Handled leases call answer leases') :
    Recorded (trace ++ [⟨leases, call, answer⟩]) leases' := by
  constructor
  · intro sandboxId lease hstored
    rw [grants_snoc, List.mem_append]
    rcases hcall.of_stored hstored with ⟨hobtained, rfl⟩ | hbefore
    · rcases (hcall.of_obtained hobtained).2 with hgranted | ⟨current, hcurrent, -, hepoch⟩
      · exact .inr (by simp [hgranted])
      · exact .inl (hepoch ▸ h.stored _ current hcurrent)
    · exact .inl (h.stored sandboxId lease hbefore)
  · intro sandboxId n hn
    rw [grants_snoc, List.mem_append, Option.mem_toList, Option.map_eq_some_iff] at hn
    rcases hn with hn | ⟨lease, hgranted, rfl⟩
    · exact h.positive sandboxId n hn
    · rw [(hcall.of_granted hgranted).2.1]
      exact nextEpoch_pos
  · intro event hevent sandboxId lease hgranted
    rcases List.mem_append.mp hevent with hevent | hlast
    · exact h.placed event hevent sandboxId lease hgranted
    · obtain rfl := List.mem_singleton.mp hlast
      exact (hcall.of_granted hgranted).1
  · intro event hevent lease hobtained hnone
    rcases List.mem_append.mp hevent with hevent | hlast
    · by_cases hbefore : leases[lease.sandboxId]? = none
      · obtain ⟨earlier, hmem, hsome⟩ := h.remembered event hevent lease hobtained hbefore
        exact ⟨earlier, List.mem_append_left _ hmem, hsome⟩
      · exact ⟨_, List.mem_append_right _ (List.mem_singleton_self _), hbefore⟩
    · obtain rfl := List.mem_singleton.mp hlast
      rw [(hcall.of_obtained hobtained).1] at hnone
      exact nomatch hnone

end Recorded

structure Numbered (trace : List LeaseEvent) (leases : LeaseStore) : Prop
    extends Recorded trace leases where
  below : ∀ event ∈ trace, ∀ lease ∈ event.obtained, ∀ current ∈ leases[lease.sandboxId]?,
    lease.epoch ≤ current.epoch
  increasing : ∀ sandboxId, (grants sandboxId trace).Pairwise (· < ·)

namespace Numbered

theorem start : Numbered [] ∅ where
  toRecorded := .start
  below _ h := nomatch h
  increasing _ := .nil

theorem lt_nextEpoch (h : Numbered trace leases)
    (hundeleted : leases[sandboxId]? = none → ∀ event ∈ trace, event.before[sandboxId]? = none)
    (hevent : event ∈ trace) (hobtained : event.obtained = some lease)
    (hsandbox : lease.sandboxId = sandboxId) : lease.epoch < nextEpoch leases sandboxId := by
  subst hsandbox
  cases hstored : leases[lease.sandboxId]? with
  | some current =>
    have hle := h.below event hevent lease hobtained current hstored
    rw [nextEpoch_of_some hstored]
    omega
  | none =>
    obtain ⟨earlier, hmem, hsome⟩ := h.remembered event hevent lease hobtained hstored
    exact absurd (hundeleted hstored earlier hmem) hsome

theorem serve (h : Numbered trace leases) (hundeleted : Undeleted trace leases call)
    (hcall : Handled leases call answer leases') :
    Numbered (trace ++ [⟨leases, call, answer⟩]) leases' := by
  have hlt : ∀ {sandboxId granted},
      LeaseEvent.granted sandboxId ⟨leases, call, answer⟩ = some granted →
        ∀ event ∈ trace, ∀ lease ∈ event.obtained, lease.sandboxId = sandboxId →
          lease.epoch < granted.epoch := by
    intro sandboxId granted hgranted event hevent lease hobtained hsandbox
    obtain ⟨-, hepoch, ownerId, ttl, hoperation, hfree⟩ := hcall.of_granted hgranted
    rw [hepoch]
    exact h.lt_nextEpoch (hundeleted sandboxId ownerId ttl hoperation hfree) hevent hobtained
      hsandbox
  refine ⟨h.toRecorded.serve hcall, ?_, ?_⟩
  · intro event hevent lease hobtained current hcurrent
    rcases List.mem_append.mp hevent with hevent | hlast
    · rcases hcall.of_stored hcurrent with ⟨hnew, hsandbox⟩ | hbefore
      · rw [← hsandbox] at hcurrent
        rcases (hcall.of_obtained hnew).2 with hgranted | ⟨previous, hprevious, -, hepoch⟩
        · exact (hlt hgranted event hevent lease hobtained hsandbox.symm).le
        · rw [hsandbox] at hprevious
          exact (h.below event hevent lease hobtained previous hprevious).trans hepoch.le
      · exact h.below event hevent lease hobtained current hbefore
    · obtain rfl := List.mem_singleton.mp hlast
      obtain rfl := Option.some.inj ((hcall.of_obtained hobtained).1.symm.trans hcurrent)
      exact le_rfl
  · intro sandboxId
    rw [grants_snoc, List.pairwise_append]
    refine ⟨h.increasing sandboxId, ?_, fun n hn m hm => ?_⟩
    · cases LeaseEvent.granted sandboxId ⟨leases, call, answer⟩ with
      | none => exact .nil
      | some lease => exact List.pairwise_singleton _ _
    · obtain ⟨event, hevent, lease, hlease, rfl⟩ := mem_grants.mp hn
      obtain ⟨granted, hgranted, rfl⟩ := Option.map_eq_some_iff.mp (Option.mem_toList.mp hm)
      exact hlt hgranted event hevent lease (obtained_of_granted hlease)
        (h.placed event hevent sandboxId lease hlease)

end Numbered

def Dated (trace : List LeaseEvent) (leases : LeaseStore) : Prop :=
  ∀ sandboxId ownerId lease, held sandboxId ownerId trace = some lease →
    lease.ownerId = ownerId ∧ ∀ instant, (∀ event ∈ trace, event.call.now ≤ instant) →
      lease.expiresAt > instant → leases[sandboxId]? = some lease

namespace Dated

theorem start : Dated [] ∅ :=
  fun _ _ _ h => nomatch h

theorem serve (h : Dated trace leases)
    (hcall : Handled leases call answer leases') :
    Dated (trace ++ [⟨leases, call, answer⟩]) leases' := by
  intro sandboxId ownerId lease hheld
  rw [held_snoc] at hheld
  rcases hcall.held_cases sandboxId ownerId (held sandboxId ownerId trace) with
    ⟨lease', hnew, hstored, howner⟩ | hnone | ⟨hsame, hstored⟩
  · obtain rfl := Option.some.inj (hheld.symm.trans hnew)
    exact ⟨howner, fun _ _ _ => hstored⟩
  · exact nomatch hheld.symm.trans hnone
  · rw [hsame] at hheld
    obtain ⟨howner, hkept⟩ := h sandboxId ownerId lease hheld
    refine ⟨howner, fun instant hinstant hunexpired => ?_⟩
    have hbefore := hkept instant
      (fun event hevent => hinstant event (List.mem_append_left _ hevent)) hunexpired
    have hnow : call.now ≤ instant := hinstant ⟨leases, call, answer⟩
      (List.mem_append_right _ (List.mem_singleton_self _))
    rcases hstored with hstored | hother
    · exact hstored.trans hbefore
    · -- The stored lease would be that of another owner.
      exact absurd howner (hother lease hbefore (hnow.trans_lt hunexpired))

end Dated

section Runs

end Runs

end AgentSphere.Sandbox
