import AgentSphere.Contracts.Serde
import AgentSphere.IncidentRelease.Detections

/-!
# Snapshots of incidents

A snapshot is the list of the incidents and the index of detections, as JSON. Incidents are written
and read back field by field, and stored again by their identifiers. But the index is a map whose
keys are pairs, and no pair can be the name of a member: as soon as there is a detection, a snapshot
fails.
-/

namespace AgentSphere.IncidentRelease

open Concurrency Serde

structure SnapshotText (Bytes : Type) where
  /-- How `chrono` writes and reads an instant. -/
  instantText : DateTime → String
  readInstant : String → Option DateTime
  /-- How `serde_json` prints and parses a value. -/
  print : Value → Bytes
  parse : Bytes → Option Value

structure IncidentSnapshot where
  schemaVersion : String
  incidents : List Incident
  detectionIndex : BTreeMap (TenantId × String) String

def riskLevelName : RiskLevel → String
  | .low => "LOW"
  | .medium => "MEDIUM"
  | .high => "HIGH"
  | .critical => "CRITICAL"

def riskLevel : Format RiskLevel :=
  enumeration [.low, .medium, .high, .critical] riskLevelName

def incidentStatusName : IncidentStatus → String
  | .detected => "DETECTED"
  | .triaged => "TRIAGED"
  | .contained => "CONTAINED"
  | .investigating => "INVESTIGATING"
  | .remediating => "REMEDIATING"
  | .recertifying => "RECERTIFYING"
  | .closed => "CLOSED"

def incidentStatus : Format IncidentStatus :=
  enumeration [.detected, .triaged, .contained, .investigating, .remediating, .recertifying,
    .closed] incidentStatusName

section Formats

variable {Bytes : Type} (json : SnapshotText Bytes)

def instant : Format DateTime := text.via json.instantText json.readInstant

def writeTimelineEntry (entry : IncidentTimelineEntry) : Option Value := do
  let fromStatus ← incidentStatus.write entry.fromStatus
  let toStatus ← incidentStatus.write entry.toStatus
  let occurredAt ← (instant json).write entry.occurredAt
  some (.object
    [("event_id", .string entry.eventId),
      ("from", fromStatus),
      ("to", toStatus),
      ("actor", .string entry.actor),
      ("reason_code", .string entry.reasonCode),
      ("occurred_at", occurredAt)])

def readTimelineEntry : Value → Option IncidentTimelineEntry
  | .object members => do
    let eventId ← member text members "event_id"
    let fromStatus ← member incidentStatus members "from"
    let toStatus ← member incidentStatus members "to"
    let actor ← member text members "actor"
    let reasonCode ← member text members "reason_code"
    let occurredAt ← member (instant json) members "occurred_at"
    some { eventId, fromStatus, toStatus, actor, reasonCode, occurredAt }
  | _ => none

def timelineEntryFormat : Format IncidentTimelineEntry :=
  ⟨writeTimelineEntry json, readTimelineEntry json⟩

def writeIncident (incident : Incident) : Option Value := do
  let severity ← riskLevel.write incident.severity
  let status ← incidentStatus.write incident.status
  let scope ← (set text).write incident.scope
  let evidenceRefs ← (set text).write incident.evidenceRefs
  let timeline ← (list (timelineEntryFormat json)).write incident.timeline
  let createdAt ← (instant json).write incident.createdAt
  let updatedAt ← (instant json).write incident.updatedAt
  some (.object
    [("schema_version", .string incident.schemaVersion),
      ("incident_id", .string incident.incidentId),
      ("tenant_id", .string incident.tenantId),
      ("task_id", .string incident.taskId),
      ("detection_id", .string incident.detectionId),
      ("severity", severity),
      ("status", status),
      ("owner", .string incident.owner),
      ("scope", scope),
      ("evidence_refs", evidenceRefs),
      ("legal_hold_id", .string incident.legalHoldId),
      ("timeline", timeline),
      ("created_at", createdAt),
      ("updated_at", updatedAt)])

def readIncident : Value → Option Incident
  | .object members => do
    let schemaVersion ← member text members "schema_version"
    let incidentId ← member text members "incident_id"
    let tenantId ← member text members "tenant_id"
    let taskId ← member text members "task_id"
    let detectionId ← member text members "detection_id"
    let severity ← member riskLevel members "severity"
    let status ← member incidentStatus members "status"
    let owner ← member text members "owner"
    let scope ← member (set text) members "scope"
    let evidenceRefs ← member (set text) members "evidence_refs"
    let legalHoldId ← member text members "legal_hold_id"
    let timeline ← member (list (timelineEntryFormat json)) members "timeline"
    let createdAt ← member (instant json) members "created_at"
    let updatedAt ← member (instant json) members "updated_at"
    some
      { schemaVersion, incidentId, tenantId, taskId, detectionId, severity, status, owner, scope,
        evidenceRefs, legalHoldId, timeline, createdAt, updatedAt }
  | _ => none

def incidentFormat : Format Incident := ⟨writeIncident json, readIncident json⟩

def writeSnapshot (snapshot : IncidentSnapshot) : Option Value := do
  let incidents ← (list (incidentFormat json)).write snapshot.incidents
  let detectionIndex ← (map (pair text text) text).write snapshot.detectionIndex
  some (.object
    [("schema_version", .string snapshot.schemaVersion),
      ("incidents", incidents),
      ("detection_index", detectionIndex)])

def readSnapshot : Value → Option IncidentSnapshot
  | .object members => do
    let schemaVersion ← member text members "schema_version"
    let incidents ← member (list (incidentFormat json)) members "incidents"
    let detectionIndex ← member (map (pair text text) text) members "detection_index"
    some { schemaVersion, incidents, detectionIndex }
  | _ => none

def IncidentState.contents (state : IncidentState) : IncidentSnapshot where
  schemaVersion := incidentSchemaVersion
  incidents := state.incidents.toList.map Prod.snd
  detectionIndex := state.detectionIndex

def snapshot (state : IncidentState) : Except IncidentError Bytes :=
  match writeSnapshot json state.contents with
  | some value => .ok (json.print value)
  | none => .error .persistenceFailed

def collect (incidents : List Incident) : BTreeMap (TenantId × String) Incident :=
  Std.ExtTreeMap.ofList
    (incidents.map fun incident => ((incident.tenantId, incident.incidentId), incident)) compare

def restore (bytes : Bytes) (maximumIncidents : Nat) : Except IncidentError IncidentState :=
  match (json.parse bytes).bind (readSnapshot json) with
  | none => .error .persistenceFailed
  | some snapshot =>
    if snapshot.schemaVersion ≠ incidentSchemaVersion ∨
        maximumIncidents < snapshot.incidents.length then
      .error .persistenceFailed
    else .ok ⟨collect snapshot.incidents, snapshot.detectionIndex⟩

end Formats

-- Incidents are read back

theorem riskLevel_faithful : riskLevel.Faithful := by
  refine enumeration_faithful (fun a => ?_) fun a b => ?_
  · cases a <;> simp
  · cases a <;> cases b <;> simp [riskLevelName]

theorem incidentStatus_faithful : incidentStatus.Faithful := by
  refine enumeration_faithful (fun a => ?_) fun a b => ?_
  · cases a <;> simp
  · cases a <;> cases b <;> simp [incidentStatusName]

variable {Bytes : Type} {json : SnapshotText Bytes}

/-- What `chrono` writes it reads back. -/
def SnapshotText.ReadsInstants (json : SnapshotText Bytes) : Prop :=
  ∀ time, json.readInstant (json.instantText time) = some time

theorem instant_faithful (h : json.ReadsInstants) : (instant json).Faithful :=
  via_faithful text_faithful h

theorem timelineEntry_faithful (h : json.ReadsInstants) : (timelineEntryFormat json).Faithful := by
  rintro entry value (hwrite : writeTimelineEntry json entry = some value)
  simp only [writeTimelineEntry, Option.bind_eq_bind, Option.bind_eq_some_iff, Option.some.injEq]
    at hwrite
  obtain ⟨fromStatus, hfrom, toStatus, hto, occurredAt, hoccurred, rfl⟩ := hwrite
  have hnames : ["event_id", "from", "to", "actor", "reason_code", "occurred_at"].Nodup := by decide
  change readTimelineEntry json (.object _) = some entry
  unfold readTimelineEntry
  refine member_bind hnames 0 rfl rfl ?_
  refine member_bind hnames 1 rfl (incidentStatus_faithful _ _ hfrom) ?_
  refine member_bind hnames 2 rfl (incidentStatus_faithful _ _ hto) ?_
  refine member_bind hnames 3 rfl rfl ?_
  refine member_bind hnames 4 rfl rfl ?_
  refine member_bind hnames 5 rfl (instant_faithful h _ _ hoccurred) ?_
  rfl

theorem incident_faithful (h : json.ReadsInstants) : (incidentFormat json).Faithful := by
  rintro incident value (hwrite : writeIncident json incident = some value)
  simp only [writeIncident, Option.bind_eq_bind, Option.bind_eq_some_iff, Option.some.injEq]
    at hwrite
  obtain ⟨severity, hseverity, status, hstatus, scope, hscope, evidenceRefs, hevidence, timeline,
    htimeline, createdAt, hcreated, updatedAt, hupdated, rfl⟩ := hwrite
  have hnames : ["schema_version", "incident_id", "tenant_id", "task_id", "detection_id",
      "severity", "status", "owner", "scope", "evidence_refs", "legal_hold_id", "timeline",
      "created_at", "updated_at"].Nodup := by decide
  change readIncident json (.object _) = some incident
  unfold readIncident
  refine member_bind hnames 0 rfl rfl ?_
  refine member_bind hnames 1 rfl rfl ?_
  refine member_bind hnames 2 rfl rfl ?_
  refine member_bind hnames 3 rfl rfl ?_
  refine member_bind hnames 4 rfl rfl ?_
  refine member_bind hnames 5 rfl (riskLevel_faithful _ _ hseverity) ?_
  refine member_bind hnames 6 rfl (incidentStatus_faithful _ _ hstatus) ?_
  refine member_bind hnames 7 rfl rfl ?_
  refine member_bind hnames 8 rfl (set_faithful text_faithful _ _ hscope) ?_
  refine member_bind hnames 9 rfl (set_faithful text_faithful _ _ hevidence) ?_
  refine member_bind hnames 10 rfl rfl ?_
  refine member_bind hnames 11 rfl (list_faithful (timelineEntry_faithful h) _ _ htimeline) ?_
  refine member_bind hnames 12 rfl (instant_faithful h _ _ hcreated) ?_
  refine member_bind hnames 13 rfl (instant_faithful h _ _ hupdated) ?_
  rfl

theorem timelineEntry_total (json : SnapshotText Bytes) : (timelineEntryFormat json).Total :=
  fun _ => ⟨_, rfl⟩

theorem incident_total (json : SnapshotText Bytes) : (incidentFormat json).Total := by
  intro incident
  obtain ⟨scope, hscope⟩ := set_total text_total incident.scope
  obtain ⟨evidenceRefs, hevidence⟩ := set_total text_total incident.evidenceRefs
  obtain ⟨timeline, htimeline⟩ := list_total (timelineEntry_total json) incident.timeline
  change ∃ value, writeIncident json incident = some value
  unfold writeIncident
  rw [hscope, hevidence, htimeline]
  exact ⟨_, rfl⟩

theorem collect_contents {state : IncidentState} (hindexed : Indexed state) :
    collect state.contents.incidents = state.incidents := by
  have hentries : state.contents.incidents.map (fun incident =>
      ((incident.tenantId, incident.incidentId), incident)) = state.incidents.toList := by
    rw [IncidentState.contents, List.map_map]
    refine (List.map_congr_left fun entry hentry => ?_).trans (List.map_id _)
    obtain ⟨key, incident⟩ := entry
    have hincident := Std.ExtTreeMap.mem_toList_iff_getElem?_eq_some.mp hentry
    exact Prod.ext (hindexed.keyed key incident hincident).symm rfl
  rw [collect, hentries, BTreeMap.ofList_toList]

/-- **Incidents**: what is written of the incidents of a reachable state is read back as they were,
and stored again where they were. -/
theorem incidents_read_back (h : json.ReadsInstants) {service : IncidentService} {cfg : IncidentRun}
    (hreach : (incidentSystem service).Reachable .empty cfg) :
    ∃ value, (list (incidentFormat json)).write cfg.shared.contents.incidents = some value ∧
      ((list (incidentFormat json)).read value).map collect = some cfg.shared.incidents := by
  obtain ⟨value, hwrite⟩ := list_total (incident_total json) cfg.shared.contents.incidents
  refine ⟨value, hwrite, ?_⟩
  rw [list_faithful (incident_faithful h) _ value hwrite, Option.map_some,
    collect_contents (kept_reachable hreach).2]

-- The index is not written

theorem pair_no_name (key : TenantId × String) :
    ((pair text text).write key).bind memberName = none := rfl

theorem writeSnapshot_eq_none {contents : IncidentSnapshot} {key : TenantId × String}
    (hmem : key ∈ contents.detectionIndex) : writeSnapshot json contents = none := by
  unfold writeSnapshot
  rw [write_map_eq_none hmem (pair_no_name key)]
  cases (list (incidentFormat json)).write contents.incidents with
  | none => rfl
  | some value => rfl

theorem writeSnapshot_empty {contents : IncidentSnapshot} {incidents : Value}
    (hincidents : (list (incidentFormat json)).write contents.incidents = some incidents)
    (hempty : contents.detectionIndex = ∅) :
    writeSnapshot json contents = some (.object
      [("schema_version", .string contents.schemaVersion), ("incidents", incidents),
        ("detection_index", .object [])]) := by
  unfold writeSnapshot
  rw [hincidents, hempty, write_map_empty]
  rfl

theorem readSnapshot_empty {contents : IncidentSnapshot} {incidents : Value}
    (hread : (list (incidentFormat json)).read incidents = some contents.incidents)
    (hempty : contents.detectionIndex = ∅) :
    readSnapshot json (.object
      [("schema_version", .string contents.schemaVersion), ("incidents", incidents),
        ("detection_index", .object [])]) = some contents := by
  have hnames : ["schema_version", "incidents", "detection_index"].Nodup := by decide
  unfold readSnapshot
  refine member_bind hnames 0 rfl rfl ?_
  refine member_bind hnames 1 rfl hread ?_
  refine member_bind hnames 2 rfl rfl ?_
  cases contents
  simp_all

/-- **Snapshots** succeed exactly if the index is empty. -/
theorem snapshot_eq_ok {state : IncidentState} :
    (∃ bytes, snapshot json state = .ok bytes) ↔ state.detectionIndex = ∅ := by
  constructor
  · rintro ⟨bytes, hsnapshot⟩
    refine Std.ExtTreeMap.ext_getElem? fun key => ?_
    cases hkey : state.detectionIndex[key]? with
    | none => simp
    | some incidentId =>
      have hnone : writeSnapshot json state.contents = none := writeSnapshot_eq_none
        (Std.ExtTreeMap.mem_iff_isSome_getElem?.mpr (Option.isSome_of_mem hkey))
      rw [snapshot, hnone] at hsnapshot
      cases hsnapshot
  · intro hempty
    obtain ⟨incidents, hincidents⟩ := list_total (incident_total json) state.contents.incidents
    have hwrite := writeSnapshot_empty hincidents hempty
    exact ⟨_, by rw [snapshot, hwrite]⟩

theorem index_empty_iff {state : IncidentState} (h : Indexed state) :
    state.detectionIndex = ∅ ↔ state.incidents = ∅ := by
  constructor
  · intro hempty
    refine Std.ExtTreeMap.ext_getElem? fun key => ?_
    cases hkey : state.incidents[key]? with
    | none => simp
    | some incident =>
      have hlisted := h.listed key incident hkey
      rw [hempty] at hlisted
      exact absurd hlisted Std.ExtTreeMap.not_mem_empty
  · intro hempty
    refine Std.ExtTreeMap.ext_getElem? fun key => ?_
    cases hkey : state.detectionIndex[key]? with
    | none => simp
    | some incidentId =>
      obtain ⟨incident, hincident, -⟩ := h.entered key.1 key.2 incidentId hkey
      rw [hempty] at hincident
      simp at hincident

/-- **Restoration**: a snapshot can be taken of a reachable state, and restores it, exactly if there
is no incident. -/
theorem snapshot_restore_iff (hparse : ∀ contents value, writeSnapshot json contents = some value →
      json.parse (json.print value) = some value)
    {service : IncidentService} {cfg : IncidentRun}
    (hreach : (incidentSystem service).Reachable .empty cfg) (maximumIncidents : Nat) :
    (∃ bytes, snapshot json cfg.shared = .ok bytes ∧
        restore json bytes maximumIncidents = .ok cfg.shared) ↔
      cfg.shared.incidents = ∅ := by
  obtain ⟨-, hindexed⟩ := kept_reachable hreach
  constructor
  · rintro ⟨bytes, hsnapshot, -⟩
    exact (index_empty_iff hindexed).mp (snapshot_eq_ok.mp ⟨bytes, hsnapshot⟩)
  · intro hempty
    have hindex : cfg.shared.contents.detectionIndex = ∅ := (index_empty_iff hindexed).mpr hempty
    have hnone : cfg.shared.contents.incidents = [] := by
      rw [IncidentState.contents, hempty, List.map_eq_nil_iff]
      exact Std.ExtTreeMap.toList_eq_nil_iff.mpr rfl
    have hincidents : (list (incidentFormat json)).write cfg.shared.contents.incidents =
        some (.array []) := by
      rw [hnone]
      rfl
    have hread : (list (incidentFormat json)).read (.array []) =
        some cfg.shared.contents.incidents := by
      rw [hnone]
      rfl
    have hwrite := writeSnapshot_empty hincidents hindex
    refine ⟨_, by rw [snapshot, hwrite], ?_⟩
    rw [restore, hparse _ _ hwrite, Option.bind_some, readSnapshot_empty hread hindex]
    have hfits : ¬ (cfg.shared.contents.schemaVersion ≠ incidentSchemaVersion ∨
        maximumIncidents < cfg.shared.contents.incidents.length) := by
      rw [hnone]
      rintro (hschema | hmany)
      · exact hschema rfl
      · exact Nat.not_lt_zero _ hmany
    dsimp only
    rw [if_neg hfits, collect_contents hindexed]
    rfl

-- A service with one incident

def sampleText : SnapshotText Value where
  instantText time := toString time
  readInstant := String.toInt?
  print := id
  parse := some

/-- A service without incidents is restored. -/
theorem snapshot_restore_empty :
    ∃ bytes, snapshot sampleText .empty = .ok bytes ∧
      restore sampleText bytes 10 = .ok .empty := by
  have hreach : (incidentSystem sampleService).Reachable .empty (System.initial .empty) := .refl
  exact (snapshot_restore_iff (fun _ _ _ => rfl) hreach 10).mpr rfl

/-- **Counterexample**: as soon as an incident has been created, no snapshot can be taken. -/
theorem snapshot_fails :
    ∃ cfg : IncidentRun, (incidentSystem sampleService).Reachable .empty cfg ∧
      ∀ (Bytes : Type) (json : SnapshotText Bytes),
        snapshot json cfg.shared = .error .persistenceFailed := by
  obtain ⟨_, -, -, hreach⟩ := sample_started.run 0 rfl
    ((resumes_find none).trans (resumes_insert "incident-1")) (find_empty.append insert_empty)
  refine ⟨_, hreach, fun Bytes json => ?_⟩
  have hnone : writeSnapshot json
      (IncidentState.empty.enter (sampleIncident "incident-1")).contents = none := by
    refine writeSnapshot_eq_none (Std.ExtTreeMap.mem_iff_isSome_getElem?.mpr ?_ :
      ("tenant-1", "detection-1") ∈ _)
    rw [IncidentState.contents, IncidentState.detectionIndex_enter]
    rfl
  rw [snapshot, hnone]

end AgentSphere.IncidentRelease
