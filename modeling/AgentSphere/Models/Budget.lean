import AgentSphere.Contracts.Basic
import AgentSphere.Lib.Tally
import Mathlib.Data.Finset.Basic

/-!
# Budgets

`BudgetManager` keeps for every tenant how much of its limit is taken. A reservation takes its whole
amount. Finalizing it gives back what was not used, once; what is used beyond the reservation is
refused, and the whole amount stays taken.

Amounts are numbers of 64 bits. An addition beyond them and a subtraction below zero panic.
-/

namespace AgentSphere.Models

open Tally

inductive ModelError where
  | configurationInvalid
  | providerInvalid
  | providerDenied
  | providerNotFound
  | providerUnavailable
  | providerOutcomeUnknown
  | providerProtocolInvalid
  | versionConflict
  | requestInvalid
  | routePlanInvalid
  | promptDenied
  | secretDetected
  | dataPolicyDenied
  | dataTransformationRequired
  | noCompliantProvider
  | capabilityMissing
  | budgetExceeded
  | budgetReservationNotFound
  | budgetReservationReplayed
  | responseTooLarge
  | streamInvalid
  | billingMismatch
  | panicked
  deriving DecidableEq, Repr

structure BudgetReservation where
  reservationId : String
  tenantId : TenantId
  taskId : TaskId
  amountMicrounits : Nat
  deriving DecidableEq, Repr

structure BudgetState where
  limits : BTreeMap TenantId Nat
  reserved : BTreeMap TenantId Nat
  reservations : BTreeMap String BudgetReservation
  finalized : Finset String

def saturatingAdd (a b : Nat) : Nat := min (a + b) (2 ^ 64 - 1)

def saturatingMul (a b : Nat) : Nat := min (a * b) (2 ^ 64 - 1)

namespace BudgetState

def empty : BudgetState := ⟨∅, ∅, ∅, ∅⟩

def used (state : BudgetState) (tenant : TenantId) : Nat :=
  state.reserved[tenant]?.getD 0

def outstanding (state : BudgetState) (tenant : TenantId) : Nat :=
  tally (fun reservation => if reservation.tenantId = tenant then reservation.amountMicrounits
    else 0) state.reservations

def setLimit (state : BudgetState) (tenant : TenantId) (microunits : Nat) : BudgetState :=
  { state with limits := state.limits.insert tenant microunits }

/-- `reserve`, with the identifier that is drawn. -/
def reserve (state : BudgetState) (tenantId : TenantId) (taskId : TaskId) (amountMicrounits : Nat)
    (reservationId : String) : Except ModelError BudgetReservation × BudgetState :=
  if amountMicrounits = 0 then (.error .budgetExceeded, state)
  else
    match state.limits[tenantId]? with
    | none => (.error .budgetExceeded, state)
    | some limit =>
      if saturatingAdd (state.used tenantId) amountMicrounits > limit then
        (.error .budgetExceeded, state)
      else if state.used tenantId + amountMicrounits ≥ 2 ^ 64 then (.error .panicked, state)
      else
        let reservation : BudgetReservation :=
          { reservationId, tenantId, taskId, amountMicrounits }
        (.ok reservation, { state with
          reserved := state.reserved.insert tenantId (state.used tenantId + amountMicrounits)
          reservations := state.reservations.insert reservationId reservation })

def finalize (state : BudgetState) (reservationId : String) (actualMicrounits : Nat) :
    Except ModelError Unit × BudgetState :=
  if reservationId ∈ state.finalized then (.error .budgetReservationReplayed, state)
  else
    match state.reservations[reservationId]? with
    | none => (.error .budgetReservationNotFound, state)
    | some reservation =>
      let closed := { state with
        reservations := state.reservations.erase reservationId
        finalized := insert reservationId state.finalized }
      if actualMicrounits > reservation.amountMicrounits then (.error .budgetExceeded, closed)
      else if state.used reservation.tenantId < reservation.amountMicrounits then
        (.error .panicked, closed)
      else
        (.ok (), { closed with
          reserved := state.reserved.insert reservation.tenantId
            (state.used reservation.tenantId - reservation.amountMicrounits +
              actualMicrounits) })

def charge (state : BudgetState) (reservationId : String) (actualMicrounits : Nat) :
    Option (TenantId × Nat) :=
  if reservationId ∈ state.finalized then none
  else state.reservations[reservationId]?.map fun reservation =>
    (reservation.tenantId, min actualMicrounits reservation.amountMicrounits)

def chargeTo (state : BudgetState) (tenant : TenantId) (reservationId : String)
    (actualMicrounits : Nat) : Nat :=
  match state.charge reservationId actualMicrounits with
  | some (tenant', amount) => if tenant' = tenant then amount else 0
  | none => 0

end BudgetState

section Operations

variable {state state' : BudgetState} {tenantId tenant : TenantId} {taskId : TaskId}
  {amountMicrounits actualMicrounits : Nat} {reservationId : String}
  {reservation : BudgetReservation} {charged : TenantId → Nat}

theorem le_of_saturatingAdd_le {a b limit : Nat} (h : saturatingAdd a b ≤ limit)
    (hfits : a + b < 2 ^ 64) : a + b ≤ limit := by
  unfold saturatingAdd at h
  omega

theorem reserve_cases (state : BudgetState) (tenantId : TenantId) (taskId : TaskId)
    (amountMicrounits : Nat) (reservationId : String) :
    (∃ e, state.reserve tenantId taskId amountMicrounits reservationId = (.error e, state)) ∨
    ∃ limit, state.limits[tenantId]? = some limit ∧ 0 < amountMicrounits ∧
      state.used tenantId + amountMicrounits ≤ limit ∧
      state.reserve tenantId taskId amountMicrounits reservationId =
        (.ok ⟨reservationId, tenantId, taskId, amountMicrounits⟩, { state with
          reserved := state.reserved.insert tenantId (state.used tenantId + amountMicrounits)
          reservations := state.reservations.insert reservationId
            ⟨reservationId, tenantId, taskId, amountMicrounits⟩ }) := by
  unfold BudgetState.reserve
  by_cases hzero : amountMicrounits = 0
  · exact .inl ⟨_, if_pos hzero⟩
  · rw [if_neg hzero]
    cases hlimit : state.limits[tenantId]? with
    | none => exact .inl ⟨_, rfl⟩
    | some limit =>
      by_cases hexceeded : saturatingAdd (state.used tenantId) amountMicrounits > limit
      · exact .inl ⟨_, if_pos hexceeded⟩
      · by_cases hoverflow : state.used tenantId + amountMicrounits ≥ 2 ^ 64
        · exact .inl ⟨.panicked, by simp only [if_neg hexceeded, if_pos hoverflow]⟩
        · refine .inr ⟨limit, rfl, Nat.pos_of_ne_zero hzero, ?_, ?_⟩
          · exact le_of_saturatingAdd_le (Nat.le_of_not_gt hexceeded) (Nat.lt_of_not_ge hoverflow)
          · simp only [if_neg hexceeded, if_neg hoverflow]

theorem finalize_cases (state : BudgetState) (reservationId : String) (actualMicrounits : Nat) :
    (state.charge reservationId actualMicrounits = none ∧
      ∃ e, e ≠ ModelError.panicked ∧
        state.finalize reservationId actualMicrounits = (.error e, state)) ∨
    ∃ reservation, reservationId ∉ state.finalized ∧
      state.reservations[reservationId]? = some reservation ∧
      (state.finalize reservationId actualMicrounits).2.reservations =
        state.reservations.erase reservationId ∧
      (state.finalize reservationId actualMicrounits).2.finalized =
        insert reservationId state.finalized ∧
      (reservation.amountMicrounits ≤ state.used reservation.tenantId →
        (state.finalize reservationId actualMicrounits).1 ≠ .error .panicked ∧
        ∀ tenant, (state.finalize reservationId actualMicrounits).2.used tenant =
          if reservation.tenantId = tenant then
            state.used tenant - reservation.amountMicrounits +
              min actualMicrounits reservation.amountMicrounits
          else state.used tenant) := by
  unfold BudgetState.finalize BudgetState.charge
  by_cases hfinalized : reservationId ∈ state.finalized
  · exact .inl ⟨if_pos hfinalized, .budgetReservationReplayed, by decide, if_pos hfinalized⟩
  · simp only [if_neg hfinalized]
    cases hreservation : state.reservations[reservationId]? with
    | none => exact .inl ⟨rfl, .budgetReservationNotFound, by decide, rfl⟩
    | some reservation =>
      refine .inr ⟨reservation, hfinalized, rfl, ?_⟩
      by_cases hoverrun : actualMicrounits > reservation.amountMicrounits
      · simp only [if_pos hoverrun]
        refine ⟨trivial, trivial, fun hcovered => ⟨by simp, fun tenant => ?_⟩⟩
        show state.used tenant = _
        by_cases htenant : reservation.tenantId = tenant
        · subst htenant
          rw [if_pos rfl]
          omega
        · rw [if_neg htenant]
      · simp only [if_neg hoverrun]
        by_cases hcovered : state.used reservation.tenantId < reservation.amountMicrounits
        · simp only [if_pos hcovered]
          exact ⟨trivial, trivial, fun hle => absurd hcovered (Nat.not_lt.mpr hle)⟩
        · simp only [if_neg hcovered]
          refine ⟨trivial, trivial, fun _ => ⟨by simp, fun tenant => ?_⟩⟩
          show ((state.reserved.insert _ _)[tenant]?).getD 0 = _
          rw [BTreeMap.getElem?_insert_ite]
          by_cases htenant : reservation.tenantId = tenant
          · subst htenant
            rw [if_pos rfl, if_pos rfl, Option.getD_some, Nat.min_eq_left (by omega)]
          · rw [if_neg htenant, if_neg htenant]
            rfl

/-- What is taken of a tenant's limit is what its open reservations amount to and what it was
charged. -/
def Balanced (state : BudgetState) (charged : TenantId → Nat) : Prop :=
  ∀ tenant, state.used tenant = state.outstanding tenant + charged tenant

theorem Balanced.start : Balanced .empty fun _ => 0 := by
  intro tenant
  simp [BudgetState.used, BudgetState.outstanding, BudgetState.empty]

theorem Balanced.covered (h : Balanced state charged)
    (hreservation : state.reservations[reservationId]? = some reservation) :
    reservation.amountMicrounits ≤ state.used reservation.tenantId := by
  have hle : (if reservation.tenantId = reservation.tenantId then reservation.amountMicrounits
      else 0) ≤ state.outstanding reservation.tenantId :=
    le_tally (f := fun other => if other.tenantId = reservation.tenantId then
      other.amountMicrounits else 0) hreservation
  rw [if_pos rfl] at hle
  have htaken := h reservation.tenantId
  omega

theorem Balanced.reserve (h : Balanced state charged)
    (hfresh : state.reservations[reservationId]? = none) (tenantId : TenantId) (taskId : TaskId)
    (amountMicrounits : Nat) :
    Balanced (state.reserve tenantId taskId amountMicrounits reservationId).2 charged := by
  rcases reserve_cases state tenantId taskId amountMicrounits reservationId with
    ⟨e, hrefused⟩ | ⟨limit, -, -, -, hreserved⟩
  · rw [hrefused]
    exact h
  · rw [hreserved]
    intro tenant
    have htaken := h tenant
    simp only [BudgetState.used, BudgetState.outstanding] at htaken ⊢
    rw [BTreeMap.getElem?_insert_ite, tally_insert hfresh]
    by_cases htenant : tenantId = tenant
    · subst htenant
      simp only [if_true, Option.getD_some]
      omega
    · simp only [if_neg htenant]
      omega

theorem Balanced.finalize (h : Balanced state charged) (reservationId : String)
    (actualMicrounits : Nat) :
    (state.finalize reservationId actualMicrounits).1 ≠ .error .panicked ∧
      Balanced (state.finalize reservationId actualMicrounits).2 fun tenant =>
        charged tenant + state.chargeTo tenant reservationId actualMicrounits := by
  rcases finalize_cases state reservationId actualMicrounits with
    ⟨hcharge, e, he, hrefused⟩ | ⟨reservation, hopen, hreservation, hreservations, -, heffect⟩
  · rw [hrefused]
    refine ⟨by simpa using he, fun tenant => ?_⟩
    simp only [BudgetState.chargeTo, hcharge]
    exact h tenant
  · obtain ⟨hanswer, hused⟩ := heffect (h.covered hreservation)
    refine ⟨hanswer, fun tenant => ?_⟩
    have htaken := h tenant
    have hcharge : state.chargeTo tenant reservationId actualMicrounits =
        if reservation.tenantId = tenant then min actualMicrounits reservation.amountMicrounits
        else 0 := by
      simp [BudgetState.chargeTo, BudgetState.charge, hopen, hreservation]
    rw [BudgetState.outstanding, tally_erase hreservation] at htaken
    show _ = _ + (charged tenant + state.chargeTo tenant reservationId actualMicrounits)
    rw [hused tenant, BudgetState.outstanding, hreservations, hcharge]
    by_cases htenant : reservation.tenantId = tenant
    · simp only [if_pos htenant] at htaken ⊢
      omega
    · simp only [if_neg htenant] at htaken ⊢
      omega

end Operations

end AgentSphere.Models
