import AgentSphere.Contracts.Authority
import AgentSphere.Lib.History
import AgentSphere.Lib.Ports

/-!
# Incidents

An incident is created once for a detection, and then goes through its stages. Incidents and the
index of detections are behind locks of their own: a creation looks its detection up in the index,
and if it finds nothing it inserts the incident and enters it in the index while it holds the lock
of the incidents.

Identifiers are drawn; one that is drawn for an incident is not in use.
-/

namespace AgentSphere.IncidentRelease

open Concurrency

inductive IncidentError where
  | configurationInvalid
  | incidentInvalid
  | notFound
  | capacityExceeded
  | transitionDenied
  | persistenceFailed
  | gateDefinitionInvalid
  | evidenceMissing
  | evidenceFailed
  | certificateInvalid
  | canonicalization
  | panicked
  deriving DecidableEq, Repr

def incidentSchemaVersion : String := "agenttrust.incident-release.v1"

inductive IncidentStatus where
  | detected
  | triaged
  | contained
  | investigating
  | remediating
  | recertifying
  | closed
  deriving DecidableEq, Repr

structure IncidentTimelineEntry where
  eventId : String
  fromStatus : IncidentStatus
  toStatus : IncidentStatus
  actor : String
  reasonCode : String
  occurredAt : DateTime

structure Incident where
  schemaVersion : String
  incidentId : String
  tenantId : TenantId
  taskId : TaskId
  detectionId : String
  severity : RiskLevel
  status : IncidentStatus
  owner : String
  scope : BTreeSet String
  evidenceRefs : BTreeSet String
  legalHoldId : String
  timeline : List IncidentTimelineEntry
  createdAt : DateTime
  updatedAt : DateTime

structure IncidentCreateRequest where
  tenantId : TenantId
  taskId : TaskId
  detectionId : String
  severity : RiskLevel
  owner : String
  scope : BTreeSet String
  evidenceRefs : BTreeSet String

def incidentTransitionAllowed : IncidentStatus → IncidentStatus → Bool
  | .detected, .triaged => true
  | .triaged, .contained => true
  | .contained, .investigating => true
  | .investigating, .remediating => true
  | .remediating, .recertifying => true
  | .recertifying, .closed => true
  | _, _ => false

structure IncidentService where
  maximumIncidents : Nat
  someIncident : 0 < maximumIncidents

structure IncidentState where
  incidents : BTreeMap (TenantId × String) Incident
  detectionIndex : BTreeMap (TenantId × String) String

namespace IncidentState

def empty : IncidentState := ⟨∅, ∅⟩

def enter (state : IncidentState) (incident : Incident) : IncidentState where
  incidents := state.incidents.insert (incident.tenantId, incident.incidentId) incident
  detectionIndex :=
    state.detectionIndex.insert (incident.tenantId, incident.detectionId) incident.incidentId

end IncidentState

-- The sections

def IncidentCreateRequest.incident (request : IncidentCreateRequest) (incidentId : String)
    (now : DateTime) : Incident where
  schemaVersion := incidentSchemaVersion
  incidentId
  tenantId := request.tenantId
  taskId := request.taskId
  detectionId := request.detectionId
  severity := request.severity
  status := .detected
  owner := request.owner
  scope := request.scope
  evidenceRefs := request.evidenceRefs
  legalHoldId := "incident-hold:" ++ incidentId
  timeline := []
  createdAt := now
  updatedAt := now

def IncidentService.insert (service : IncidentService) (request : IncidentCreateRequest)
    (incidentId : String) (now : DateTime) (state : IncidentState) :
    Except IncidentError Incident × IncidentState :=
  if service.maximumIncidents ≤ state.incidents.size then (.error .capacityExceeded, state)
  else
    let incident := request.incident incidentId now
    (.ok incident, state.enter incident)

def IncidentState.get (state : IncidentState) (tenant : TenantId) (incidentId : String) :
    Except IncidentError Incident :=
  match state.incidents[(tenant, incidentId)]? with
  | some incident => .ok incident
  | none => .error .notFound

structure TransitionRequest where
  tenant : TenantId
  incidentId : String
  toStatus : IncidentStatus
  actor : String
  reasonCode : String

def Incident.advance (incident : Incident) (request : TransitionRequest) (eventId : String)
    (now : DateTime) : Incident :=
  { incident with
    timeline := incident.timeline ++
      [{ eventId
         fromStatus := incident.status
         toStatus := request.toStatus
         actor := request.actor
         reasonCode := request.reasonCode
         occurredAt := now }]
    status := request.toStatus
    updatedAt := now }

def IncidentState.store (state : IncidentState) (request : TransitionRequest)
    (incident : Incident) : IncidentState :=
  { state with
    incidents := state.incidents.insert (request.tenant, request.incidentId) incident }

def IncidentState.transition (state : IncidentState) (request : TransitionRequest)
    (eventId : String) (now : DateTime) : Except IncidentError Incident × IncidentState :=
  match state.incidents[(request.tenant, request.incidentId)]? with
  | none => (.error .notFound, state)
  | some incident =>
    if incidentTransitionAllowed incident.status request.toStatus then
      let incident := incident.advance request eventId now
      (.ok incident, state.store request incident)
    else (.error .transitionDenied, state)

inductive IncidentCall where
  | find (tenant : TenantId) (detectionId : String)
  | get (tenant : TenantId) (incidentId : String)
  | insert (request : IncidentCreateRequest)
  | transition (request : TransitionRequest)

abbrev IncidentCall.Answer : IncidentCall → Type
  | .find _ _ => Option String
  | .get _ _ | .insert _ | .transition _ => Except IncidentError Incident

abbrev IncidentAttempt := Attempt IncidentError IncidentCall IncidentCall.Answer Incident

def create (request : IncidentCreateRequest) : IncidentAttempt := do
  Attempt.ensure (¬ (request.detectionId.isEmpty ∨ request.owner.isEmpty ∨
    request.scope.isEmpty ∨ "" ∈ request.scope ∨ request.evidenceRefs.isEmpty ∨
    "" ∈ request.evidenceRefs)) .incidentInvalid
  let found : Option String ← Attempt.ask (IncidentCall.find request.tenantId request.detectionId)
  match found with
  | some incidentId => Attempt.port (IncidentCall.get request.tenantId incidentId) id
  | none => Attempt.port (IncidentCall.insert request) id

def transition (request : TransitionRequest) : IncidentAttempt := do
  Attempt.ensure (¬ (request.actor.isEmpty ∨ request.reasonCode.isEmpty)) .incidentInvalid
  Attempt.port (IncidentCall.transition request) id

inductive Serves (service : IncidentService) (state : IncidentState) :
    (call : IncidentCall) → call.Answer → IncidentState → Prop where
  | find (tenant : TenantId) (detectionId : String) :
      Serves service state (.find tenant detectionId)
        state.detectionIndex[(tenant, detectionId)]? state
  | get (tenant : TenantId) (incidentId : String) :
      Serves service state (.get tenant incidentId) (state.get tenant incidentId) state
  | insert (request : IncidentCreateRequest) (incidentId : String) (now : DateTime)
      (drawn : (request.tenantId, incidentId) ∉ state.incidents) :
      Serves service state (.insert request) (service.insert request incidentId now state).1
        (service.insert request incidentId now state).2
  | transition (request : TransitionRequest) (eventId : String) (now : DateTime) :
      Serves service state (.transition request) (state.transition request eventId now).1
        (state.transition request eventId now).2

def incidentSystem (service : IncidentService) :
    System IncidentState IncidentCall IncidentCall.Answer (Except IncidentError Incident) where
  Serve := Serves service
  Internal _ _ := False
  Start p := (∃ request, p = (create request).run) ∨ ∃ request, p = (transition request).run

section Sections

variable {service : IncidentService} {state state' : IncidentState}
  {request : IncidentCreateRequest} {answer : Except IncidentError Incident}

structure Inserted (service : IncidentService) (state : IncidentState)
    (request : IncidentCreateRequest) (incident : Incident) : Prop where
  created : ∃ incidentId now, incident = request.incident incidentId now
  room : state.incidents.size < service.maximumIncidents
  drawn : state.incidents[(incident.tenantId, incident.incidentId)]? = none

/-- **Insertion**: an incident is entered if there is room for it. -/
theorem insert_cases (h : Serves service state (.insert request) answer state') :
    (answer = .error .capacityExceeded ∧ state' = state) ∨
    ∃ incident, Inserted service state request incident ∧ answer = .ok incident ∧
      state' = state.enter incident := by
  cases h with
  | @insert _ incidentId now drawn =>
    unfold IncidentService.insert
    split
    · exact .inl ⟨rfl, rfl⟩
    · next hroom =>
      refine .inr ⟨request.incident incidentId now, ⟨⟨incidentId, now, rfl⟩,
        Nat.lt_of_not_le hroom, ?_⟩, rfl, rfl⟩
      exact Std.ExtTreeMap.getElem?_eq_none drawn

/-- **Transition**: an incident that is there takes a step that is allowed. -/
theorem transition_cases {request : TransitionRequest}
    (h : Serves service state (.transition request) answer state') :
    ((∃ e, answer = .error e) ∧ state' = state) ∨
    ∃ (incident : Incident) (eventId : String) (now : DateTime),
      state.incidents[(request.tenant, request.incidentId)]? = some incident ∧
      incidentTransitionAllowed incident.status request.toStatus = true ∧
      answer = .ok (incident.advance request eventId now) ∧
      state' = state.store request (incident.advance request eventId now) := by
  cases h with
  | @transition _ eventId now =>
    unfold IncidentState.transition
    split
    · exact .inl ⟨⟨_, rfl⟩, rfl⟩
    · next incident hincident =>
      split
      · next hallowed =>
        exact .inr ⟨incident, eventId, now, hincident, hallowed, rfl, rfl⟩
      · exact .inl ⟨⟨_, rfl⟩, rfl⟩

theorem find_eq {tenant : TenantId} {detectionId : String} {found : Option String}
    (h : Serves service state (.find tenant detectionId) found state') :
    state.detectionIndex[(tenant, detectionId)]? = found ∧ state' = state := by
  cases h
  exact ⟨rfl, rfl⟩

theorem get_eq {tenant : TenantId} {incidentId : String}
    (h : Serves service state (.get tenant incidentId) answer state') :
    state.get tenant incidentId = answer ∧ state' = state := by
  cases h
  exact ⟨rfl, rfl⟩

end Sections

namespace IncidentState

@[simp] theorem incidents_enter (state : IncidentState) (incident : Incident)
    (key : TenantId × String) :
    (state.enter incident).incidents[key]? =
      if (incident.tenantId, incident.incidentId) = key then some incident
      else state.incidents[key]? := BTreeMap.getElem?_insert_ite ..

@[simp] theorem detectionIndex_enter (state : IncidentState) (incident : Incident)
    (key : TenantId × String) :
    (state.enter incident).detectionIndex[key]? =
      if (incident.tenantId, incident.detectionId) = key then some incident.incidentId
      else state.detectionIndex[key]? := BTreeMap.getElem?_insert_ite ..

@[simp] theorem incidents_store (state : IncidentState) (request : TransitionRequest)
    (incident : Incident) (key : TenantId × String) :
    (state.store request incident).incidents[key]? =
      if (request.tenant, request.incidentId) = key then some incident
      else state.incidents[key]? := BTreeMap.getElem?_insert_ite ..

@[simp] theorem detectionIndex_store (state : IncidentState) (request : TransitionRequest)
    (incident : Incident) :
    (state.store request incident).detectionIndex = state.detectionIndex := rfl

theorem size_store {state : IncidentState} {request : TransitionRequest} {incident : Incident}
    (h : state.incidents[(request.tenant, request.incidentId)]? = some incident)
    (incident' : Incident) :
    (state.store request incident').incidents.size = state.incidents.size := by
  have hthere : (request.tenant, request.incidentId) ∈ state.incidents :=
    Std.ExtTreeMap.mem_iff_isSome_getElem?.mpr (Option.isSome_of_mem h)
  rw [store, Std.ExtTreeMap.size_insert, if_pos (Std.ExtTreeMap.contains_iff_mem.mpr hthere)]

theorem get_eq_ok {state : IncidentState} {tenant : TenantId} {incidentId : String}
    {incident : Incident} :
    state.get tenant incidentId = .ok incident ↔
      state.incidents[(tenant, incidentId)]? = some incident := by
  unfold IncidentState.get
  split
  · next found hfound => simp [hfound]
  · next hnone => simp [hnone]

end IncidentState

-- The order of the sections

abbrev IncidentEntry := Entry IncidentCall IncidentCall.Answer
abbrev IncidentEvent := Event IncidentState IncidentCall IncidentCall.Answer
abbrev IncidentRun :=
  Config IncidentState IncidentCall IncidentCall.Answer (Except IncidentError Incident)

def MayCall (entries : List IncidentEntry) : IncidentCall → Prop
  | .find _ _ => entries = []
  | .get tenant incidentId => ∃ detectionId, entries = [⟨.find tenant detectionId, some incidentId⟩]
  | .insert request => entries = [⟨.find request.tenantId request.detectionId, none⟩]
  | .transition _ => entries = []

def Returned (result : Except IncidentError Incident) (entries : List IncidentEntry) : Prop :=
  ∀ incident, result = .ok incident →
    (∃ tenant detectionId incidentId, entries =
      [⟨.find tenant detectionId, some incidentId⟩, ⟨.get tenant incidentId, .ok incident⟩]) ∨
    (∃ request, entries = [⟨.find request.tenantId request.detectionId, none⟩,
      ⟨.insert request, .ok incident⟩]) ∨
    ∃ request, entries = [⟨.transition request, .ok incident⟩]

theorem returned_error {e : IncidentError} {entries : List IncidentEntry} :
    Returned (.error e) entries := by
  intro incident h
  cases h

theorem conduct_create (request : IncidentCreateRequest) :
    (recording MayCall fun _ _ => True).Ensures Returned (create request).run [] := by
  refine Monitor.ensure_bind (fun _ => ?_) fun _ => returned_error
  refine Monitor.ask_bind rfl fun found => ?_
  cases found with
  | some incidentId =>
    refine ⟨⟨request.detectionId, rfl⟩, fun answer _ incident hresult => ?_⟩
    obtain rfl : answer = .ok incident := hresult
    exact .inl ⟨_, _, _, rfl⟩
  | none =>
    refine ⟨rfl, fun answer _ incident hresult => ?_⟩
    obtain rfl : answer = .ok incident := hresult
    exact .inr (.inl ⟨request, rfl⟩)

theorem conduct_transition (request : TransitionRequest) :
    (recording MayCall fun _ _ => True).Ensures Returned (transition request).run [] := by
  refine Monitor.ensure_bind (fun _ => ?_) fun _ => returned_error
  refine ⟨rfl, fun answer _ incident hresult => ?_⟩
  obtain rfl : answer = .ok incident := hresult
  exact .inr (.inr ⟨request, rfl⟩)

theorem returned_of_start {service : IncidentService}
    {p : Program IncidentCall IncidentCall.Answer (Except IncidentError Incident)}
    (h : (incidentSystem service).Start p) :
    (recording MayCall fun _ _ => True).Ensures Returned p [] := by
  obtain ⟨request, rfl⟩ | ⟨request, rfl⟩ := h
  · exact conduct_create request
  · exact conduct_transition request

theorem conduct_of_start {service : IncidentService}
    {p : Program IncidentCall IncidentCall.Answer (Except IncidentError Incident)}
    (h : (incidentSystem service).Start p) :
    (recording MayCall fun _ _ => True).Ensures (fun _ _ => True) p [] :=
  (returned_of_start h).mono fun _ _ _ => trivial

-- What every state keeps

/-- A timeline leads from a status to another by allowed transitions, each from where the one before
has led to. -/
def Chained (fromStatus : IncidentStatus) :
    List IncidentTimelineEntry → IncidentStatus → Prop
  | [], status => fromStatus = status
  | entry :: timeline, status =>
    entry.fromStatus = fromStatus ∧
      incidentTransitionAllowed entry.fromStatus entry.toStatus = true ∧
      Chained entry.toStatus timeline status

theorem Chained.snoc {fromStatus status : IncidentStatus} {timeline : List IncidentTimelineEntry}
    {entry : IncidentTimelineEntry} (h : Chained fromStatus timeline status)
    (hfrom : entry.fromStatus = status)
    (hallowed : incidentTransitionAllowed entry.fromStatus entry.toStatus = true) :
    Chained fromStatus (timeline ++ [entry]) entry.toStatus := by
  induction timeline generalizing fromStatus with
  | nil =>
    obtain rfl : fromStatus = status := h
    exact ⟨hfrom, hallowed, rfl⟩
  | cons first timeline ih => exact ⟨h.1, h.2.1, ih h.2.2⟩

structure Kept (service : IncidentService) (state : IncidentState) : Prop where
  bounded : state.incidents.size ≤ service.maximumIncidents
  chained : ∀ (key : TenantId × String) (incident : Incident),
    state.incidents[key]? = some incident → Chained .detected incident.timeline incident.status

/-- Incidents are stored by their identifiers; the index leads to incidents of the detection, and
knows the detection of every incident. -/
structure Indexed (state : IncidentState) : Prop where
  keyed : ∀ (key : TenantId × String) (incident : Incident),
    state.incidents[key]? = some incident → key = (incident.tenantId, incident.incidentId)
  entered : ∀ (tenant : TenantId) (detectionId incidentId : String),
    state.detectionIndex[(tenant, detectionId)]? = some incidentId →
      ∃ incident : Incident, state.incidents[(tenant, incidentId)]? = some incident ∧
        incident.detectionId = detectionId
  listed : ∀ (key : TenantId × String) (incident : Incident),
    state.incidents[key]? = some incident →
      (incident.tenantId, incident.detectionId) ∈ state.detectionIndex

variable {service : IncidentService} {state state' : IncidentState} {cfg : IncidentRun}

theorem kept_empty : Kept service .empty :=
  ⟨by simp [IncidentState.empty], by simp [IncidentState.empty]⟩

theorem indexed_empty : Indexed .empty :=
  ⟨by simp [IncidentState.empty], by simp [IncidentState.empty], by simp [IncidentState.empty]⟩

theorem Kept.serve (h : Kept service state) {call : IncidentCall} {answer : call.Answer}
    (hserve : Serves service state call answer state') : Kept service state' := by
  cases call with
  | find tenant detectionId => rwa [(find_eq hserve).2]
  | get tenant incidentId => rwa [(get_eq hserve).2]
  | insert request =>
    obtain ⟨-, rfl⟩ | ⟨incident, ⟨⟨incidentId, now, rfl⟩, hroom, -⟩, -, rfl⟩ := insert_cases hserve
    · exact h
    · refine ⟨Std.ExtTreeMap.size_insert_le.trans hroom, fun key other hother => ?_⟩
      rw [IncidentState.incidents_enter] at hother
      split at hother
      · obtain rfl := Option.some.inj hother
        rfl
      · exact h.chained key other hother
  | transition request =>
    obtain ⟨-, rfl⟩ | ⟨incident, eventId, now, hincident, hallowed, -, rfl⟩ :=
      transition_cases hserve
    · exact h
    · refine ⟨(IncidentState.size_store hincident _).trans_le h.bounded, fun key other hother => ?_⟩
      rw [IncidentState.incidents_store] at hother
      split at hother
      · obtain rfl := Option.some.inj hother
        exact (h.chained _ incident hincident).snoc rfl hallowed
      · exact h.chained key other hother

theorem Indexed.enter (h : Indexed state) {incident : Incident}
    (hdrawn : state.incidents[(incident.tenantId, incident.incidentId)]? = none) :
    Indexed (state.enter incident) := by
  refine ⟨fun key other hother => ?_, fun tenant detectionId incidentId hindex => ?_,
    fun key other hother => ?_⟩
  · rw [IncidentState.incidents_enter] at hother
    split at hother
    · next hkey =>
      obtain rfl := Option.some.inj hother
      exact hkey.symm
    · exact h.keyed key other hother
  · rw [IncidentState.detectionIndex_enter] at hindex
    split at hindex
    · next hkey =>
      obtain ⟨rfl, rfl⟩ := Prod.mk.inj hkey
      obtain rfl := Option.some.inj hindex
      exact ⟨incident, by simp, rfl⟩
    · obtain ⟨other, hother, hdetection⟩ := h.entered tenant detectionId incidentId hindex
      refine ⟨other, ?_, hdetection⟩
      rw [IncidentState.incidents_enter, if_neg ?_, hother]
      intro hkey
      rw [← hkey, hdrawn] at hother
      cases hother
  · rw [Std.ExtTreeMap.mem_iff_isSome_getElem?, IncidentState.detectionIndex_enter]
    split
    · rfl
    · next hdetection =>
      rw [IncidentState.incidents_enter] at hother
      split at hother
      · obtain rfl := Option.some.inj hother
        exact absurd rfl hdetection
      · exact Std.ExtTreeMap.mem_iff_isSome_getElem?.mp (h.listed key other hother)

theorem Indexed.store (h : Indexed state) {request : TransitionRequest}
    {incident incident' : Incident}
    (hincident : state.incidents[(request.tenant, request.incidentId)]? = some incident)
    (htenant : incident'.tenantId = incident.tenantId)
    (hid : incident'.incidentId = incident.incidentId)
    (hdetection : incident'.detectionId = incident.detectionId) :
    Indexed (state.store request incident') := by
  refine ⟨fun key other hother => ?_, fun tenant detectionId incidentId hindex => ?_,
    fun key other hother => ?_⟩
  · rw [IncidentState.incidents_store] at hother
    split at hother
    · next hkey =>
      obtain rfl := Option.some.inj hother
      rw [← hkey, htenant, hid]
      exact h.keyed _ incident hincident
    · exact h.keyed key other hother
  · obtain ⟨other, hother, hdetected⟩ := h.entered tenant detectionId incidentId hindex
    rw [IncidentState.incidents_store]
    split
    · next hkey =>
      rw [← hkey, hincident] at hother
      obtain rfl := Option.some.inj hother
      exact ⟨incident', rfl, hdetection.trans hdetected⟩
    · exact ⟨other, hother, hdetected⟩
  · rw [IncidentState.incidents_store] at hother
    split at hother
    · obtain rfl := Option.some.inj hother
      rw [htenant, hdetection]
      exact h.listed _ incident hincident
    · exact h.listed key other hother

theorem Indexed.serve (h : Indexed state) {call : IncidentCall} {answer : call.Answer}
    (hserve : Serves service state call answer state') : Indexed state' := by
  cases call with
  | find tenant detectionId => rwa [(find_eq hserve).2]
  | get tenant incidentId => rwa [(get_eq hserve).2]
  | insert request =>
    obtain ⟨-, rfl⟩ | ⟨incident, ⟨-, -, hdrawn⟩, -, rfl⟩ := insert_cases hserve
    · exact h
    · exact h.enter hdrawn
  | transition request =>
    obtain ⟨-, rfl⟩ | ⟨incident, eventId, now, hincident, -, -, rfl⟩ := transition_cases hserve
    · exact h
    · exact h.store hincident rfl rfl rfl

/-- **Run lemma**: bounds, timelines and index are kept in every interleaving. -/
theorem kept_reachable (hreach : (incidentSystem service).Reachable .empty cfg) :
    Kept service cfg.shared ∧ Indexed cfg.shared := by
  refine (hreach.always (I := fun state _ => Kept service state ∧ Indexed state) ?_ ?_
    ⟨kept_empty, indexed_empty⟩).1
  · rintro state trace i call answer state' ⟨hkept, hindexed⟩ hserve
    exact ⟨hkept.serve hserve, hindexed.serve hserve⟩
  · rintro state trace state' - ⟨⟩

end AgentSphere.IncidentRelease
