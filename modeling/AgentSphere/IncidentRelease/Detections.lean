import AgentSphere.IncidentRelease.Incidents
import AgentSphere.Lib.Lookups

/-!
# One incident for each detection

A creation that finds nothing in the index inserts its incident later, under another lock, and does
not look again. So there is one incident for each detection exactly as long as no incident is
inserted for a detection that has been entered in the meantime; where creations of the same
detection are apart this cannot happen.
-/

namespace AgentSphere.IncidentRelease

open Concurrency

def Inserts : IncidentEntry → TenantId × String → Prop
  | ⟨.insert request, .ok _⟩, key => key = (request.tenantId, request.detectionId)
  | _, _ => False

def EnteredOnce (trace : List IncidentEvent) : Prop :=
  ∀ event ∈ trace, ∀ key, Inserts event.entry key → event.before.detectionIndex[key]? = none

def OneEach (state : IncidentState) : Prop :=
  ∀ (key key' : TenantId × String) (incident incident' : Incident),
    state.incidents[key]? = some incident → state.incidents[key']? = some incident' →
    incident.tenantId = incident'.tenantId → incident.detectionId = incident'.detectionId →
    key = key'

/-- There is one incident for each detection, the index leads to it, and every creation that
succeeds returns it. -/
structure OncePerDetection (cfg : IncidentRun) : Prop where
  one : OneEach cfg.shared
  index : ∀ (tenant : TenantId) (detectionId incidentId : String),
    cfg.shared.detectionIndex[(tenant, detectionId)]? = some incidentId ↔
      ∃ incident : Incident, cfg.shared.incidents[(tenant, incidentId)]? = some incident ∧
        incident.detectionId = detectionId
  agreed : ∀ (i : Nat) (incident : Incident), cfg.threads[i]? = some (.done (.ok incident)) →
    ∀ (tenant : TenantId) (detectionId : String) (found : Option String),
      ⟨.find tenant detectionId, found⟩ ∈ history i cfg.trace →
      incident.tenantId = tenant ∧ incident.detectionId = detectionId ∧
        cfg.shared.detectionIndex[(tenant, detectionId)]? = some incident.incidentId

variable {service : IncidentService} {state state' : IncidentState} {cfg : IncidentRun}
  {trace : List IncidentEvent} {i : Nat} {call : IncidentCall} {answer : call.Answer}

-- One section

def IncidentState.detection (state : IncidentState) (key : TenantId × String) :
    Option (TenantId × String) :=
  (state.incidents[key]?).map fun incident : Incident => (incident.tenantId, incident.detectionId)

theorem IncidentState.detection_eq_some {key detection : TenantId × String} :
    state.detection key = some detection ↔ ∃ incident : Incident,
      state.incidents[key]? = some incident ∧
        (incident.tenantId, incident.detectionId) = detection := Option.map_eq_some_iff

@[simp] theorem IncidentState.detection_enter (state : IncidentState) (incident : Incident)
    (key : TenantId × String) :
    (state.enter incident).detection key =
      if (incident.tenantId, incident.incidentId) = key then
        some (incident.tenantId, incident.detectionId)
      else state.detection key := by
  unfold IncidentState.detection
  rw [IncidentState.incidents_enter]
  split
  · rfl
  · rfl

theorem oneEach_iff : OneEach state ↔ ∀ key key' detection, state.detection key = some detection →
    state.detection key' = some detection → key = key' := by
  simp only [IncidentState.detection_eq_some]
  constructor
  · rintro hone key key' _ ⟨incident, hincident, rfl⟩ ⟨incident', hincident', hsame⟩
    obtain ⟨htenant, hdetection⟩ := Prod.mk.inj hsame
    exact hone key key' incident incident' hincident hincident' htenant.symm hdetection.symm
  · intro hone key key' incident incident' hincident hincident' htenant hdetection
    exact hone key key' _ ⟨incident, hincident, rfl⟩
      ⟨incident', hincident', Prod.ext htenant.symm hdetection.symm⟩

/-- What a section does to incidents and index: it leaves the index and the detections of all
incidents alone, or it enters an incident. -/
theorem serves_cases (h : Serves service state call answer state') :
    (state'.detectionIndex = state.detectionIndex ∧ (∀ key, ¬ Inserts ⟨call, answer⟩ key) ∧
      ∀ key, state'.detection key = state.detection key) ∨
    ∃ incident : Incident, state.incidents[(incident.tenantId, incident.incidentId)]? = none ∧
      state' = state.enter incident ∧
      ∀ key, Inserts ⟨call, answer⟩ key ↔ key = (incident.tenantId, incident.detectionId) := by
  cases call with
  | find tenant detectionId =>
    obtain ⟨-, rfl⟩ := find_eq h
    exact .inl ⟨rfl, fun _ => id, fun _ => rfl⟩
  | get tenant incidentId =>
    obtain ⟨-, rfl⟩ := get_eq h
    exact .inl ⟨rfl, fun _ => id, fun _ => rfl⟩
  | insert request =>
    obtain ⟨rfl, rfl⟩ | ⟨incident, ⟨⟨incidentId, now, rfl⟩, -, hdrawn⟩, rfl, rfl⟩ := insert_cases h
    · exact .inl ⟨rfl, fun _ => id, fun _ => rfl⟩
    · exact .inr ⟨_, hdrawn, rfl, fun _ => Iff.rfl⟩
  | transition request =>
    obtain ⟨-, rfl⟩ | ⟨incident, eventId, now, hincident, -, -, rfl⟩ := transition_cases h
    · exact .inl ⟨rfl, fun _ => id, fun _ => rfl⟩
    · refine .inl ⟨rfl, fun _ => id, fun key => ?_⟩
      unfold IncidentState.detection
      rw [IncidentState.incidents_store]
      split
      · next hkey =>
        rw [← hkey, hincident]
        rfl
      · rfl

theorem detection_serve (h : Serves service state call answer state')
    {key detection : TenantId × String} (hdetection : state.detection key = some detection) :
    state'.detection key = some detection := by
  obtain ⟨-, -, hsame⟩ | ⟨incident, hdrawn, rfl, -⟩ := serves_cases h
  · rwa [hsame]
  · rw [IncidentState.detection_enter, if_neg ?_, hdetection]
    rintro rfl
    rw [IncidentState.detection, hdrawn] at hdetection
    cases hdetection

theorem index_serve (h : Serves service state call answer state') {key : TenantId × String}
    {incidentId : String} (hindex : state.detectionIndex[key]? = some incidentId)
    (hinserts : ¬ Inserts ⟨call, answer⟩ key) :
    state'.detectionIndex[key]? = some incidentId := by
  obtain ⟨hsame, -⟩ | ⟨incident, -, rfl, hiff⟩ := serves_cases h
  · rwa [hsame]
  · rw [IncidentState.detectionIndex_enter, if_neg ?_, hindex]
    exact fun hkey => hinserts ((hiff key).mpr hkey.symm)

theorem oneEach_of_after (h : Serves service state call answer state') (hone : OneEach state') :
    OneEach state :=
  oneEach_iff.mpr fun key key' detection hkey hkey' =>
    oneEach_iff.mp hone key key' detection (detection_serve h hkey) (detection_serve h hkey')

theorem Indexed.detection (h : Indexed state) {key : TenantId × String} {incidentId : String}
    (hindex : state.detectionIndex[key]? = some incidentId) :
    state.detection (key.1, incidentId) = some key := by
  obtain ⟨incident, hincident, hdetection⟩ := h.entered key.1 key.2 incidentId hindex
  have htenant := congrArg Prod.fst (h.keyed _ incident hincident)
  exact IncidentState.detection_eq_some.mpr ⟨incident, hincident, Prod.ext htenant.symm hdetection⟩

theorem not_oneEach_of_known (h : Serves service state call answer state')
    (hindexed : Indexed state) {key : TenantId × String} (hinserts : Inserts ⟨call, answer⟩ key)
    (hknown : state.detectionIndex[key]? ≠ none) : ¬ OneEach state' := by
  obtain ⟨-, hnone, -⟩ | ⟨incident, hdrawn, rfl, hiff⟩ := serves_cases h
  · exact absurd hinserts (hnone key)
  · obtain rfl := (hiff key).mp hinserts
    obtain ⟨incidentId, hindex⟩ := Option.ne_none_iff_exists'.mp hknown
    have hold := hindexed.detection hindex
    have hne : (incident.tenantId, incident.incidentId) ≠ (incident.tenantId, incidentId) := by
      intro heq
      rw [← heq, IncidentState.detection, hdrawn] at hold
      cases hold
    intro hone
    refine hne (oneEach_iff.mp hone _ _ (incident.tenantId, incident.detectionId) ?_ ?_)
    · rw [IncidentState.detection_enter, if_pos rfl]
    · rwa [IncidentState.detection_enter, if_neg hne]

theorem oneEach_serve (h : Serves service state call answer state') (hindexed : Indexed state)
    (hone : OneEach state)
    (hnew : ∀ key, Inserts ⟨call, answer⟩ key → state.detectionIndex[key]? = none) :
    OneEach state' := by
  obtain ⟨-, -, hsame⟩ | ⟨incident, -, rfl, hiff⟩ := serves_cases h
  · refine oneEach_iff.mpr fun key key' detection hkey hkey' => ?_
    rw [hsame] at hkey hkey'
    exact oneEach_iff.mp hone key key' detection hkey hkey'
  · -- no incident that was there has the detection
    have hnone := hnew _ ((hiff _).mpr rfl)
    have hother : ∀ key, state.detection key ≠ some (incident.tenantId, incident.detectionId) := by
      intro key hdetection
      obtain ⟨other, hincident, hsame⟩ := IncidentState.detection_eq_some.mp hdetection
      have hlisted := hindexed.listed key other hincident
      rw [hsame, Std.ExtTreeMap.mem_iff_isSome_getElem?, hnone] at hlisted
      cases hlisted
    refine oneEach_iff.mpr fun key key' detection hkey hkey' => ?_
    rw [IncidentState.detection_enter] at hkey hkey'
    split at hkey
    · next heq =>
      obtain rfl := Option.some.inj hkey
      split at hkey'
      · next heq' => exact heq.symm.trans heq'
      · exact absurd hkey' (hother key')
    · split at hkey'
      · obtain rfl := Option.some.inj hkey'
        exact absurd hkey (hother key)
      · exact oneEach_iff.mp hone key key' detection hkey hkey'

-- Whole runs

theorem enteredOnce_of_oneEach (hreach : (incidentSystem service).Reachable .empty cfg)
    (hone : OneEach cfg.shared) : EnteredOnce cfg.trace := by
  have hinv : Indexed cfg.shared ∧ (OneEach cfg.shared → EnteredOnce cfg.trace) := by
    refine (hreach.always (I := fun state trace =>
      Indexed state ∧ (OneEach state → EnteredOnce trace)) ?_ ?_ ⟨indexed_empty, ?_⟩).1
    · rintro state trace i call answer state' ⟨hindexed, honce⟩ hserve
      refine ⟨hindexed.serve hserve, fun hone event hevent key hinserts => ?_⟩
      obtain hold | hnew := List.mem_append.mp hevent
      · exact honce (oneEach_of_after hserve hone) event hold key hinserts
      · obtain rfl := List.mem_singleton.mp hnew
        by_contra hknown
        exact not_oneEach_of_known hserve hindexed hinserts hknown hone
    · rintro state trace state' - ⟨⟩
    · simp [EnteredOnce]
  exact hinv.2 hone

def Recorded (state : IncidentState) : IncidentEntry → Prop
  | ⟨.find tenant detectionId, some incidentId⟩ =>
    state.detectionIndex[(tenant, detectionId)]? = some incidentId
  | ⟨.get tenant incidentId, .ok incident⟩ =>
    incident.tenantId = tenant ∧ incident.incidentId = incidentId ∧
      state.detection (tenant, incidentId) = some (tenant, incident.detectionId)
  | ⟨.insert request, .ok incident⟩ =>
    incident.tenantId = request.tenantId ∧ incident.detectionId = request.detectionId ∧
      state.detectionIndex[(request.tenantId, request.detectionId)]? = some incident.incidentId
  | _ => True

theorem recorded_self (h : Serves service state call answer state') (hindexed : Indexed state) :
    Recorded state' ⟨call, answer⟩ := by
  cases call with
  | find tenant detectionId =>
    obtain ⟨rfl, rfl⟩ := find_eq h
    cases hindex : state'.detectionIndex[(tenant, detectionId)]? with
    | none => trivial
    | some incidentId => exact hindex
  | get tenant incidentId =>
    obtain ⟨rfl, rfl⟩ := get_eq h
    cases hget : state'.get tenant incidentId with
    | error e => trivial
    | ok incident =>
      have hincident := IncidentState.get_eq_ok.mp hget
      obtain ⟨rfl, rfl⟩ := Prod.mk.inj (hindexed.keyed _ incident hincident)
      exact ⟨rfl, rfl, IncidentState.detection_eq_some.mpr ⟨incident, hincident, rfl⟩⟩
  | insert request =>
    obtain ⟨rfl, -⟩ | ⟨incident, ⟨⟨incidentId, now, rfl⟩, -, -⟩, rfl, rfl⟩ := insert_cases h
    · trivial
    · refine ⟨rfl, rfl, ?_⟩
      rw [IncidentState.detectionIndex_enter]
      exact if_pos rfl
  | transition request => trivial

theorem Recorded.serve {entry : IncidentEntry} (hrecorded : Recorded state entry)
    (h : Serves service state call answer state')
    (hnew : ∀ key, Inserts ⟨call, answer⟩ key → state.detectionIndex[key]? = none) :
    Recorded state' entry := by
  have hindex : ∀ {key : TenantId × String} {incidentId : String},
      state.detectionIndex[key]? = some incidentId →
        state'.detectionIndex[key]? = some incidentId := by
    intro key incidentId hknown
    refine index_serve h hknown fun hinserts => ?_
    rw [hnew key hinserts] at hknown
    cases hknown
  obtain ⟨_ | _ | _ | _, result⟩ := entry
  · cases result with
    | none => trivial
    | some incidentId => exact hindex hrecorded
  · cases result with
    | error e => trivial
    | ok incident =>
      obtain ⟨htenant, hid, hdetection⟩ := hrecorded
      exact ⟨htenant, hid, detection_serve h hdetection⟩
  · cases result with
    | error e => trivial
    | ok incident =>
      obtain ⟨htenant, hdetection, hknown⟩ := hrecorded
      exact ⟨htenant, hdetection, hindex hknown⟩
  · trivial

theorem recorded_of_enteredOnce (hreach : (incidentSystem service).Reachable .empty cfg)
    (honce : EnteredOnce cfg.trace) :
    OneEach cfg.shared ∧ ∀ event ∈ cfg.trace, Recorded cfg.shared event.entry := by
  have hinv : Indexed cfg.shared ∧ (EnteredOnce cfg.trace →
      OneEach cfg.shared ∧ ∀ event ∈ cfg.trace, Recorded cfg.shared event.entry) := by
    refine (hreach.always (I := fun state trace => Indexed state ∧ (EnteredOnce trace →
      OneEach state ∧ ∀ event ∈ trace, Recorded state event.entry)) ?_ ?_
      ⟨indexed_empty, fun _ => ⟨?_, by simp⟩⟩).1
    · rintro state trace i call answer state' ⟨hindexed, hrest⟩ hserve
      refine ⟨hindexed.serve hserve, fun honce => ?_⟩
      obtain ⟨hone, hrecorded⟩ := hrest fun event hevent =>
        honce event (List.mem_append_left _ hevent)
      have hnew := honce ⟨i, call, answer, state, state'⟩
        (List.mem_append_right _ (List.mem_singleton_self _))
      refine ⟨oneEach_serve hserve hindexed hone hnew, fun event hevent => ?_⟩
      obtain hold | hlast := List.mem_append.mp hevent
      · exact (hrecorded event hold).serve hserve hnew
      · obtain rfl := List.mem_singleton.mp hlast
        exact recorded_self hserve hindexed
    · rintro state trace state' - ⟨⟩
    · intro key key' incident incident' hincident
      simp [IncidentState.empty] at hincident
  exact hinv.2 honce

/-- Where each detection is entered once, a creation that succeeds returns the incident that the
index leads to. -/
theorem agreed_of_recorded (hreach : (incidentSystem service).Reachable .empty cfg)
    (hrecorded : ∀ event ∈ cfg.trace, Recorded cfg.shared event.entry) {incident : Incident}
    (hthread : cfg.threads[i]? = some (.done (.ok incident))) {tenant : TenantId}
    {detectionId : String} {found : Option String}
    (hfind : ⟨.find tenant detectionId, found⟩ ∈ history i cfg.trace) :
    incident.tenantId = tenant ∧ incident.detectionId = detectionId ∧
      cfg.shared.detectionIndex[(tenant, detectionId)]? = some incident.incidentId := by
  obtain ⟨-, hindexed⟩ := kept_reachable hreach
  obtain ⟨p, hstart, hresumes⟩ := hreach.resumes.2 i _ hthread
  have hreturned := ((returned_of_start hstart).resumes hresumes fun _ _ => trivial) incident rfl
  rw [List.nil_append] at hreturned
  have hentry : ∀ entry ∈ history i cfg.trace, Recorded cfg.shared entry := by
    intro entry hmem
    obtain ⟨event, hevent, -, rfl⟩ := mem_history.mp hmem
    exact hrecorded event hevent
  obtain ⟨_, _, incidentId, hhistory⟩ | ⟨request, hhistory⟩ | ⟨request, hhistory⟩ := hreturned
  · rw [hhistory] at hfind hentry
    obtain hfind | hfind := List.mem_cons.mp hfind
    · cases hfind
      have hindex := hentry _ List.mem_cons_self
      obtain ⟨htenant, rfl, hdetection⟩ := hentry _ (.tail _ List.mem_cons_self)
      have hsame := hdetection.symm.trans (hindexed.detection hindex)
      exact ⟨htenant, (Prod.mk.inj (Option.some.inj hsame)).2, hindex⟩
    · cases List.mem_singleton.mp hfind
  · rw [hhistory] at hfind hentry
    obtain hfind | hfind := List.mem_cons.mp hfind
    · cases hfind
      exact hentry _ (.tail _ List.mem_cons_self)
    · cases List.mem_singleton.mp hfind
  · rw [hhistory] at hfind
    cases List.mem_singleton.mp hfind

/-- **One incident for each detection**, in every interleaving, exactly if no incident was inserted
for a detection that was in the index. -/
theorem oncePerDetection_iff (hreach : (incidentSystem service).Reachable .empty cfg) :
    Kept service cfg.shared ∧ (OncePerDetection cfg ↔ EnteredOnce cfg.trace) := by
  obtain ⟨hkept, hindexed⟩ := kept_reachable hreach
  refine ⟨hkept, fun h => enteredOnce_of_oneEach hreach h.one, fun honce => ?_⟩
  obtain ⟨hone, hrecorded⟩ := recorded_of_enteredOnce hreach honce
  refine ⟨hone, fun tenant detectionId incidentId => ⟨hindexed.entered _ _ _, ?_⟩,
    fun i incident hthread tenant detectionId found hfind =>
      agreed_of_recorded hreach hrecorded hthread hfind⟩
  rintro ⟨incident, hincident, rfl⟩
  obtain ⟨rfl, rfl⟩ := Prod.mk.inj (hindexed.keyed _ incident hincident)
  have hlisted := hindexed.listed _ incident hincident
  obtain ⟨other, hother⟩ := Option.isSome_iff_exists.mp
    (Std.ExtTreeMap.mem_iff_isSome_getElem?.mp hlisted)
  have hsame := oneEach_iff.mp hone _ _ _ (hindexed.detection hother)
    (IncidentState.detection_eq_some.mpr ⟨incident, hincident, rfl⟩)
  rw [hother, (Prod.mk.inj hsame).2]

-- Creations that are apart

def Misses : IncidentEntry → TenantId × String → Prop
  | ⟨.find tenant detectionId, none⟩, key => key = (tenant, detectionId)
  | _, _ => False

def Ends : IncidentEntry → Prop
  | ⟨.insert _, _⟩ => True
  | _ => False

/-- No detection is looked up in vain while another creation has looked it up in vain and not yet
come to its insertion. -/
def LookUpsApart (trace : List IncidentEvent) : Prop := Apart Misses Ends trace

theorem looksFirst : LooksFirst (incidentSystem service) MayCall Misses Inserts Inserts Ends
    fun state key => state.detectionIndex[key]? ≠ none where
  conduct _ hp := conduct_of_start hp
  missed := by
    rintro state (⟨tenant, detectionId⟩ | _ | _ | _) found state' key hserve hmisses
    · cases found with
      | none =>
        obtain rfl : key = _ := hmisses
        exact not_not.mpr (find_eq hserve).1
      | some incidentId => exact hmisses.elim
    all_goals exact hmisses.elim
  settled := by
    intro state call answer state' key hserve hinserts
    obtain ⟨-, hnone, -⟩ | ⟨incident, -, rfl, hiff⟩ := serves_cases hserve
    · exact absurd hinserts (hnone key)
    · rw [(hiff key).mp hinserts, IncidentState.detectionIndex_enter, if_pos rfl]
      exact Option.some_ne_none _
  grows := by
    intro state call answer state' key hserve hknown
    obtain ⟨hsame, -⟩ | ⟨incident, -, rfl, -⟩ := serves_cases hserve
    · rwa [hsame]
    · rw [IncidentState.detectionIndex_enter]
      split
      · exact Option.some_ne_none _
      · exact hknown
  stays := by
    rintro state state' key ⟨⟩
  opened := by
    rintro state entries (_ | _ | request | _) answer state' key hmay hserve hinserts
    · exact hinserts.elim
    · exact hinserts.elim
    · obtain rfl : entries = _ := hmay
      cases answer with
      | error e => exact hinserts.elim
      | ok incident =>
        refine ⟨⟨⟨_, List.mem_singleton_self _, hinserts⟩, ?_⟩, ?_⟩
        · intro entry hentry
          obtain rfl := List.mem_singleton.mp hentry
          exact id
        · intro entry hentry
          obtain rfl := List.mem_singleton.mp hentry
          exact id
    · exact hinserts.elim
  closed _ _ hacts := hacts

theorem inserted_of_known (hreach : (incidentSystem service).Reachable .empty cfg)
    {before after : List IncidentEvent} {event : IncidentEvent}
    (htrace : cfg.trace = before ++ event :: after) {key : TenantId × String}
    (hknown : event.before.detectionIndex[key]? ≠ none) :
    ∃ earlier ∈ before, Inserts earlier.entry key := by
  refine ((hreach.always (I := fun state trace => ∀ key : TenantId × String,
    state.detectionIndex[key]? ≠ none → ∃ earlier ∈ trace, Inserts earlier.entry key) ?_ ?_ ?_).2
      before event after htrace).1 key hknown
  · intro state trace i call answer state' hinserted hserve key hknown
    by_cases hinserts : Inserts ⟨call, answer⟩ key
    · exact ⟨_, List.mem_append_right _ (List.mem_singleton_self _), hinserts⟩
    · have hold : state.detectionIndex[key]? ≠ none := by
        obtain ⟨hsame, -⟩ | ⟨incident, -, rfl, hiff⟩ := serves_cases hserve
        · rwa [← hsame]
        · rwa [IncidentState.detectionIndex_enter,
            if_neg fun heq => hinserts ((hiff key).mpr heq.symm)] at hknown
      obtain ⟨earlier, hearlier, hacts⟩ := hinserted key hold
      exact ⟨earlier, List.mem_append_left _ hearlier, hacts⟩
  · rintro state trace state' - ⟨⟩
  · simp [IncidentState.empty]

theorem enteredOnce_of_apart (hreach : (incidentSystem service).Reachable .empty cfg)
    (hapart : LookUpsApart cfg.trace) : EnteredOnce cfg.trace := by
  have honce := looksFirst.acts_once hreach hapart
  intro event hevent key hinserts
  obtain ⟨before, after, htrace⟩ := List.append_of_mem hevent
  by_contra hknown
  obtain ⟨earlier, hearlier, hacts⟩ := inserted_of_known hreach htrace hknown
  rw [htrace, List.pairwise_append] at honce
  exact honce.2.2 earlier hearlier event List.mem_cons_self key hacts hinserts

-- A detection that is reported twice

theorem sampleRoom_pos : 0 < 10 := by decide

def sampleService : IncidentService := ⟨10, sampleRoom_pos⟩

def sampleRequest : IncidentCreateRequest where
  tenantId := "tenant-1"
  taskId := "task-1"
  detectionId := "detection-1"
  severity := .high
  owner := "owner-1"
  scope := (∅ : BTreeSet String).insert "task-1"
  evidenceRefs := (∅ : BTreeSet String).insert "evidence-1"

def sampleIncident (incidentId : String) : Incident := sampleRequest.incident incidentId 0

def sampleFind (found : Option String) : IncidentEntry :=
  ⟨.find "tenant-1" "detection-1", found⟩

def sampleInsert (incidentId : String) : IncidentEntry :=
  ⟨.insert sampleRequest, .ok (sampleIncident incidentId)⟩

def sampleGet (incidentId : String) : IncidentEntry :=
  ⟨.get "tenant-1" incidentId, .ok (sampleIncident incidentId)⟩

theorem resumes_find (found : Option String) :
    Resumes (create sampleRequest).run [sampleFind found]
      (match found with
        | some incidentId => Attempt.port (IncidentCall.get "tenant-1" incidentId) id
        | none => Attempt.port (IncidentCall.insert sampleRequest) id : IncidentAttempt).run := by
  refine Resumes.ensure_bind ?_ (Resumes.ask_bind (.refl _))
  simp [sampleRequest]

theorem resumes_insert (incidentId : String) :
    Resumes (Attempt.port (IncidentCall.insert sampleRequest) id : IncidentAttempt).run
      [sampleInsert incidentId] (.done (.ok (sampleIncident incidentId))) :=
  .perform (.refl _)

theorem resumes_get (incidentId : String) :
    Resumes (Attempt.port (IncidentCall.get "tenant-1" incidentId) id : IncidentAttempt).run
      [sampleGet incidentId] (.done (.ok (sampleIncident incidentId))) :=
  .perform (.refl _)

theorem serves_find (state : IncidentState) :
    (incidentSystem sampleService).Serves state
      [sampleFind state.detectionIndex[("tenant-1", "detection-1")]?] state :=
  .cons (.find ..) (.nil _)

theorem serves_insert {state : IncidentState} {incidentId : String}
    (hroom : state.incidents.size < 10)
    (hdrawn : ("tenant-1", incidentId) ∉ state.incidents) :
    (incidentSystem sampleService).Serves state [sampleInsert incidentId]
      (state.enter (sampleIncident incidentId)) := by
  have hinsert : sampleService.insert sampleRequest incidentId 0 state =
      (.ok (sampleIncident incidentId), state.enter (sampleIncident incidentId)) :=
    if_neg (Nat.not_le_of_lt hroom)
  have hserves : Serves sampleService state (.insert sampleRequest) _ _ :=
    .insert sampleRequest incidentId 0 hdrawn
  rw [hinsert] at hserves
  exact .cons hserves (.nil _)

theorem serves_get {state : IncidentState} {incidentId : String}
    (hincident : state.incidents[("tenant-1", incidentId)]? = some (sampleIncident incidentId)) :
    (incidentSystem sampleService).Serves state [sampleGet incidentId] state := by
  have hserves : Serves sampleService state (.get "tenant-1" incidentId) _ state := .get ..
  rw [IncidentState.get_eq_ok.mpr hincident] at hserves
  exact .cons hserves (.nil _)

theorem sample_started : (incidentSystem sampleService).Reachable .empty
    ⟨.empty, [(create sampleRequest).run, (create sampleRequest).run], []⟩ := by
  have hone : (incidentSystem sampleService).Reachable .empty
      ⟨.empty, [(create sampleRequest).run], []⟩ :=
    Relation.ReflTransGen.refl.tail (.start _ (.inl ⟨sampleRequest, rfl⟩))
  exact hone.tail (.start _ (.inl ⟨sampleRequest, rfl⟩))

theorem find_empty : (incidentSystem sampleService).Serves .empty [sampleFind none] .empty := by
  simpa [IncidentState.empty] using serves_find .empty

theorem insert_empty : (incidentSystem sampleService).Serves .empty [sampleInsert "incident-1"]
    (IncidentState.empty.enter (sampleIncident "incident-1")) :=
  serves_insert (by simp [IncidentState.empty]) (by simp [IncidentState.empty])

/-- A creation after another one for the same detection returns the same incident. -/
theorem oncePerDetection_sample :
    ∃ cfg : IncidentRun, (incidentSystem sampleService).Reachable .empty cfg ∧
      cfg.threads = [.done (.ok (sampleIncident "incident-1")),
        .done (.ok (sampleIncident "incident-1"))] ∧
      OncePerDetection cfg := by
  obtain ⟨events, -, hentries, hreach⟩ := sample_started.run 0 rfl
    ((resumes_find none).trans (resumes_insert "incident-1")) (find_empty.append insert_empty)
  have hfind := serves_find (IncidentState.empty.enter (sampleIncident "incident-1"))
  have hfound : (IncidentState.empty.enter (sampleIncident "incident-1")).detectionIndex[
      (("tenant-1", "detection-1") : TenantId × String)]? = some "incident-1" := by
    rw [IncidentState.detectionIndex_enter]
    rfl
  rw [hfound] at hfind
  obtain ⟨events', -, hentries', hreach'⟩ := hreach.run 1 rfl
    ((resumes_find (some "incident-1")).trans (resumes_get "incident-1"))
    (hfind.append (serves_get (by rw [IncidentState.incidents_enter]; rfl)))
  refine ⟨_, hreach', rfl, (oncePerDetection_iff hreach').2.mpr ?_⟩
  have htrace : ([] ++ events ++ events').map Event.entry = [sampleFind none,
      sampleInsert "incident-1", sampleFind (some "incident-1"), sampleGet "incident-1"] := by
    rw [List.nil_append, List.map_append, hentries, hentries']
    rfl
  refine enteredOnce_of_apart hreach' (apart_of_first htrace fun entry hentry key hmisses => ?_)
  simp only [List.mem_cons, List.not_mem_nil, or_false] at hentry
  obtain rfl | rfl | rfl := hentry
  all_goals exact hmisses

/-- **Counterexample**: two creations that both look their detection up first both succeed, and
there are two incidents for it. -/
theorem detection_twice :
    ∃ cfg : IncidentRun, (incidentSystem sampleService).Reachable .empty cfg ∧
      cfg.threads = [.done (.ok (sampleIncident "incident-1")),
        .done (.ok (sampleIncident "incident-2"))] ∧
      ¬ OneEach cfg.shared := by
  obtain ⟨_, -, -, hreach⟩ := sample_started.run 0 rfl (resumes_find none) find_empty
  obtain ⟨_, -, -, hreach⟩ := hreach.run 1 rfl (resumes_find none) find_empty
  obtain ⟨_, -, -, hreach⟩ := hreach.run 0 rfl (resumes_insert "incident-1") insert_empty
  have hinsert : (incidentSystem sampleService).Serves
      (IncidentState.empty.enter (sampleIncident "incident-1")) [sampleInsert "incident-2"]
      ((IncidentState.empty.enter (sampleIncident "incident-1")).enter
        (sampleIncident "incident-2")) := by
    refine serves_insert (lt_of_le_of_lt Std.ExtTreeMap.size_insert_le ?_) ?_
    · simp [IncidentState.empty]
    · rw [Std.ExtTreeMap.mem_iff_isSome_getElem?, IncidentState.incidents_enter]
      simp [IncidentState.empty, sampleIncident, IncidentCreateRequest.incident]
  obtain ⟨_, -, -, hreach⟩ := hreach.run 1 rfl (resumes_insert "incident-2") hinsert
  refine ⟨_, hreach, rfl, fun hone => ?_⟩
  have hsame := hone ("tenant-1", "incident-1") ("tenant-1", "incident-2")
    (sampleIncident "incident-1") (sampleIncident "incident-2") ?_ ?_ rfl rfl
  · exact absurd hsame (by decide)
  · simp [sampleIncident, sampleRequest, IncidentCreateRequest.incident]
  · simp [sampleIncident, sampleRequest, IncidentCreateRequest.incident]

end AgentSphere.IncidentRelease
