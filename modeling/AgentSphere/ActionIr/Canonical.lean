import AgentSphere.ActionIr.Normalization
import AgentSphere.Lib.Program
import AgentSphere.Lib.Separated
import Mathlib.Logic.Equiv.Nat
import Std.Data.String.ToNat

/-!
# The hash identifies an action

Two drafts get the same hash exactly when they ask for the same: they may differ in their
identifiers and instants, in the spelling of codes and locators and in the order of JSON members,
and in nothing else. A canonical action is its own normal form.
-/

namespace AgentSphere.ActionIr

open Concurrency Separated

variable {Bytes Digest : Type}

/-- What is relied on in other crates: normal form C is idempotent and goes segment by segment,
an instant is read back from its text, and canonical JSON and SHA-256 tell values apart, canonical
JSON up to the order of members. -/
structure Canon.Lawful (canon : Canon Bytes Digest) : Prop where
  nfc_idem : ∀ s, canon.nfc (canon.nfc s) = canon.nfc s
  nfc_segments : ∀ s, splitSlash (canon.nfc s) = (splitSlash s).map canon.nfc
  nfc_empty : canon.nfc "" = ""
  rfc3339_injective : Function.Injective canon.rfc3339
  jcs_injective : ∀ v w, canon.jcs v = canon.jcs w ↔ v.ordered = w.ordered
  sha256_injective : Function.Injective canon.sha256Hex

-- When two drafts ask for the same

def SameCode (a b : String) : Prop := eqIgnoreAsciiCase (trim a) (trim b)

def SameJson (v w : Value) : Prop := v.ordered = w.ordered

def locatorSegments (canon : Canon Bytes Digest) (locator : String) : List String :=
  (splitSlash (canon.nfc locator)).filter fun segment => segment ≠ "" ∧ segment ≠ "."

/-- The drafts agree in everything but their identifiers and instants and the spelling of codes,
locators and JSON. -/
structure SameAction (canon : Canon Bytes Digest) (d d' : ActionDraft) : Prop where
  schemaVersion : d.schemaVersion = d'.schemaVersion
  taskId : d.taskId = d'.taskId
  stepId : d.stepId = d'.stepId
  agent : d.agent = d'.agent
  goalHash : d.intent.goalHash = d'.intent.goalHash
  operation : SameCode d.intent.operation d'.intent.operation
  justificationCode : SameCode d.intent.justificationCode d'.intent.justificationCode
  safeSummary : d.intent.safeSummary = d'.intent.safeSummary
  tool : d.tool = d'.tool
  payloadType : SameCode d.payload.typeId d'.payload.typeId
  payloadVersion : d.payload.schemaVersion = d'.payload.schemaVersion
  payloadData : SameJson (.object d.payload.data) (.object d'.payload.data)
  scheme : SameCode d.resource.scheme d'.resource.scheme
  resourceTenant : d.resource.tenantId = d'.resource.tenantId
  locator : locatorSegments canon d.resource.locator = locatorSegments canon d'.resource.locator
  resourceVersion : d.resource.version = d'.resource.version
  environment : d.environment = d'.environment
  currentStateVersion : d.currentStateVersion = d'.currentStateVersion
  risk : d.risk = d'.risk
  data : d.data = d'.data
  metric : d.expectedOutcome.metric = d'.expectedOutcome.metric
  operator : d.expectedOutcome.operator = d'.expectedOutcome.operator
  target : SameJson d.expectedOutcome.target d'.expectedOutcome.target
  credentialRefs : d.credentialRefs = d'.credentialRefs
  extensions : SameJson (.object d.extensions) (.object d'.extensions)

theorem sameCode_iff {a b : String} :
    SameCode a b ↔ toAsciiLowercase (trim a) = toAsciiLowercase (trim b) := by
  rw [SameCode, eqIgnoreAsciiCase, beq_iff_eq]
  rfl

theorem SameCode.of_form {a b : String} (form : String) (ha : toAsciiLowercase (trim a) = form)
    (hb : toAsciiLowercase (trim b) = form) : SameCode a b :=
  sameCode_iff.mpr (ha.trans hb.symm)

section Material

open Value

@[simp] theorem ordered_string_inj {a b : String} :
    (Value.string a).ordered = (Value.string b).ordered ↔ a = b := by
  simp [ordered]

@[simp] theorem ordered_bool_inj {a b : Bool} :
    (Value.bool a).ordered = (Value.bool b).ordered ↔ a = b := by
  simp [ordered]

@[simp] theorem textOrNull_inj {a b : Option String} :
    (textOrNull a).ordered = (textOrNull b).ordered ↔ a = b := by
  cases a with
  | none =>
    cases b with
    | none => simp
    | some b => simp [textOrNull, ordered]
  | some a =>
    cases b with
    | none => simp [textOrNull, ordered]
    | some b => simp [textOrNull]

theorem ordered_array_inj {α : Type} {f : α → Value}
    (hf : ∀ {a b}, (f a).ordered = (f b).ordered ↔ a = b) {l l' : List α} :
    (Value.array (l.map f)).ordered = (Value.array (l'.map f)).ordered ↔ l = l' := by
  have hinjective : Function.Injective fun a => (f a).ordered := fun a b h => hf.mp h
  simp only [ordered, orderedItems_eq, List.map_map, array.injEq]
  exact (List.map_injective_iff.mpr hinjective).eq_iff

@[simp] theorem texts_inj {a b : List String} : (texts a).ordered = (texts b).ordered ↔ a = b :=
  ordered_array_inj ordered_string_inj

@[simp] theorem riskValue_inj {a b : RiskLevel} :
    (riskValue a).ordered = (riskValue b).ordered ↔ a = b := by
  cases a <;> cases b <;> simp [riskValue]

@[simp] theorem classificationValue_inj {a b : DataClassification} :
    (classificationValue a).ordered = (classificationValue b).ordered ↔ a = b := by
  cases a <;> cases b <;> simp [classificationValue]

theorem agentValue_inj {rfc3339 : DateTime → String} (hinj : Function.Injective rfc3339)
    {a b : AgentIdentity} :
    (agentValue rfc3339 a).ordered = (agentValue rfc3339 b).ordered ↔ a = b := by
  rw [agentValue, agentValue, ordered_object_inj]
  · cases a
    cases b
    simp [hinj.eq_iff]
  · rfl
  · simp

theorem intentValue_inj {a b : Intent} :
    (intentValue a).ordered = (intentValue b).ordered ↔ a = b := by
  rw [intentValue, intentValue, ordered_object_inj]
  · cases a
    cases b
    simp
  · rfl
  · simp

theorem toolValue_inj {a b : ToolRef} : (toolValue a).ordered = (toolValue b).ordered ↔ a = b := by
  rw [toolValue, toolValue, ordered_object_inj]
  · cases a
    cases b
    simp
  · rfl
  · simp

theorem payloadValue_inj {a b : TypedPayload} :
    (payloadValue a).ordered = (payloadValue b).ordered ↔
      a.typeId = b.typeId ∧ a.schemaVersion = b.schemaVersion ∧
        SameJson (.object a.data) (.object b.data) := by
  rw [payloadValue, payloadValue, ordered_object_inj]
  · simp [SameJson]
  · rfl
  · simp

theorem resourceValue_inj {a b : ResourceSelector} :
    (resourceValue a).ordered = (resourceValue b).ordered ↔ a = b := by
  rw [resourceValue, resourceValue, ordered_object_inj]
  · cases a
    cases b
    simp
  · rfl
  · simp

theorem environmentValue_inj {a b : ExecutionEnvironment} :
    (environmentValue a).ordered = (environmentValue b).ordered ↔ a = b := by
  rw [environmentValue, environmentValue, ordered_object_inj]
  · cases a
    cases b
    simp
  · rfl
  · simp

theorem riskContextValue_inj {a b : RiskContext} :
    (riskContextValue a).ordered = (riskContextValue b).ordered ↔ a = b := by
  rw [riskContextValue, riskContextValue, ordered_object_inj]
  · cases a
    cases b
    simp [ordered, Nat.repr_inj]
  · rfl
  · simp

theorem dataContextValue_inj {a b : DataContext} :
    (dataContextValue a).ordered = (dataContextValue b).ordered ↔ a = b := by
  rw [dataContextValue, dataContextValue, ordered_object_inj]
  · cases a
    cases b
    simp
  · rfl
  · simp

theorem expectedOutcomeValue_inj {a b : ExpectedOutcome} :
    (expectedOutcomeValue a).ordered = (expectedOutcomeValue b).ordered ↔
      a.metric = b.metric ∧ a.operator = b.operator ∧ SameJson a.target b.target := by
  rw [expectedOutcomeValue, expectedOutcomeValue, ordered_object_inj]
  · simp [SameJson]
  · rfl
  · simp

theorem credentialRefValue_inj {a b : CredentialRef} :
    (credentialRefValue a).ordered = (credentialRefValue b).ordered ↔ a = b := by
  rw [credentialRefValue, credentialRefValue, ordered_object_inj]
  · cases a
    cases b
    simp
  · rfl
  · simp

theorem hashMaterial_inj {canon : Canon Bytes Digest} (hinj : Function.Injective canon.rfc3339)
    {a b : CanonicalAction} :
    (hashMaterial canon a).ordered = (hashMaterial canon b).ordered ↔
      a.schemaVersion = b.schemaVersion ∧ a.taskId = b.taskId ∧ a.stepId = b.stepId ∧
      a.agent = b.agent ∧ a.intent = b.intent ∧ a.tool = b.tool ∧
      (a.payload.typeId = b.payload.typeId ∧
        a.payload.schemaVersion = b.payload.schemaVersion ∧
        SameJson (.object a.payload.data) (.object b.payload.data)) ∧
      a.resource = b.resource ∧ a.environment = b.environment ∧
      a.currentStateVersion = b.currentStateVersion ∧ a.risk = b.risk ∧ a.data = b.data ∧
      (a.expectedOutcome.metric = b.expectedOutcome.metric ∧
        a.expectedOutcome.operator = b.expectedOutcome.operator ∧
        SameJson a.expectedOutcome.target b.expectedOutcome.target) ∧
      a.credentialRefs = b.credentialRefs ∧
      SameJson (.object a.extensions) (.object b.extensions) := by
  rw [hashMaterial, hashMaterial, ordered_object_inj]
  · simp [agentValue_inj hinj, intentValue_inj, toolValue_inj, payloadValue_inj, resourceValue_inj,
      environmentValue_inj, riskContextValue_inj, dataContextValue_inj, expectedOutcomeValue_inj,
      ordered_array_inj credentialRefValue_inj, SameJson]
  · rfl
  · simp

theorem hash_eq_iff {canon : Canon Bytes Digest} (hlaws : canon.Lawful) {a b : CanonicalAction} :
    hash canon a = hash canon b ↔
      (hashMaterial canon a).ordered = (hashMaterial canon b).ordered := by
  rw [← hlaws.jcs_injective]
  unfold hash canonicalBytes
  cases canon.jcs (hashMaterial canon a) with
  | none =>
    cases canon.jcs (hashMaterial canon b) with
    | none => simp
    | some bytes' => simp [bind, Except.bind, pure, Except.pure]
  | some bytes =>
    cases canon.jcs (hashMaterial canon b) with
    | none => simp [bind, Except.bind, pure, Except.pure]
    | some bytes' =>
      simp [bind, Except.bind, pure, Except.pure, hlaws.sha256_injective.eq_iff]

end Material

-- Locators

def Clean (segment : String) : Prop := segment ≠ "" ∧ '/' ∉ segment.toList

theorem joinSlash_splitSlash (value : String) : joinSlash (splitSlash value) = value := by
  rw [joinSlash, splitSlash, List.map_map]
  have hid : String.toList ∘ String.ofList = id := funext fun cs => String.toList_ofList
  rw [hid, List.map_id, List.intercalate_splitOn, String.ofList_toList]

theorem not_mem_of_mem_splitSlash {value segment : String} (h : segment ∈ splitSlash value) :
    '/' ∉ segment.toList := by
  obtain ⟨cs, hcs, rfl⟩ := List.mem_map.mp h
  rw [String.toList_ofList]
  exact not_mem_of_mem_splitOn hcs

theorem splitSlash_joinSlash {segments : List String} (hclean : ∀ s ∈ segments, Clean s)
    (hne : segments ≠ []) : splitSlash (joinSlash segments) = segments := by
  rw [splitSlash, joinSlash, String.toList_ofList, List.splitOn_intercalate]
  · rw [List.map_map]
    have hid : String.ofList ∘ String.toList = id := funext fun s => String.ofList_toList
    rw [hid, List.map_id]
  · intro cs hcs
    obtain ⟨s, hs, rfl⟩ := List.mem_map.mp hcs
    exact (hclean s hs).2
  · simpa using hne

theorem joinSlash_eq_empty {segments : List String} (hclean : ∀ s ∈ segments, Clean s)
    (h : joinSlash segments = "") : segments = [] := by
  by_contra hne
  have hsplit := splitSlash_joinSlash hclean hne
  rw [h] at hsplit
  have hempty : splitSlash "" = [""] := rfl
  rw [hempty] at hsplit
  exact (hclean "" (hsplit ▸ List.mem_singleton_self "")).1 rfl

theorem joinSlash_injective {segments segments' : List String}
    (hclean : ∀ s ∈ segments, Clean s) (hclean' : ∀ s ∈ segments', Clean s)
    (h : joinSlash segments = joinSlash segments') : segments = segments' := by
  by_cases hne : segments = []
  · subst hne
    exact (joinSlash_eq_empty hclean' h.symm).symm
  · by_cases hne' : segments' = []
    · subst hne'
      exact joinSlash_eq_empty hclean h
    · rw [← splitSlash_joinSlash hclean hne, h, splitSlash_joinSlash hclean' hne']

theorem collectSegments_eq_ok {l segments : List String} :
    collectSegments l = .ok segments ↔
      ".." ∉ l ∧ segments = l.filter fun segment => segment ≠ "" ∧ segment ≠ "." := by
  induction l generalizing segments with
  | nil => simp [collectSegments, eq_comm]
  | cons segment rest ih =>
    rw [collectSegments]
    by_cases hskip : segment = "" ∨ segment = "."
    · rw [if_pos hskip, ih]
      rcases hskip with rfl | rfl
      · simp
      · simp
    · rw [if_neg hskip]
      obtain ⟨hempty, hdot⟩ := not_or.mp hskip
      by_cases hup : segment = ".."
      · subst hup
        simp
      · rw [if_neg hup]
        rw [except_bind_eq_ok]
        constructor
        · rintro ⟨found, hfound, hresult⟩
          obtain ⟨hsafe, rfl⟩ := ih.mp hfound
          obtain rfl := Except.ok.inj hresult
          refine ⟨by simp [Ne.symm hup, hsafe], ?_⟩
          simp [hempty, hdot]
        · rintro ⟨hsafe, rfl⟩
          refine ⟨_, ih.mpr ⟨fun hmem => hsafe (List.mem_cons_of_mem _ hmem), rfl⟩, ?_⟩
          simp [hempty, hdot, pure, Except.pure]

section Locators

variable {canon : Canon Bytes Digest}

theorem clean_of_mem_locatorSegments {locator segment : String}
    (h : segment ∈ locatorSegments canon locator) : Clean segment := by
  obtain ⟨hmem, hcounts⟩ := List.mem_filter.mp h
  simp only [ne_eq, decide_eq_true_eq] at hcounts
  exact ⟨hcounts.1, not_mem_of_mem_splitSlash hmem⟩

/-- `normalize_locator` of a path. -/
theorem normalizeLocator_eq_ok {scheme locator result : String} (hscheme : scheme ≠ "http") :
    normalizeLocator canon scheme locator = .ok result ↔
      Char.ofNat 0 ∉ (canon.nfc locator).toList ∧ ".." ∉ splitSlash (canon.nfc locator) ∧
        result = joinSlash (locatorSegments canon locator) := by
  rw [normalizeLocator, if_neg hscheme]
  by_cases hnul : Char.ofNat 0 ∈ (canon.nfc locator).toList
  · rw [if_pos (List.contains_iff_mem.mpr hnul)]
    simp [hnul]
  · rw [if_neg (mt List.contains_iff_mem.mp hnul), except_bind_eq_ok]
    constructor
    · rintro ⟨segments, hsegments, hresult⟩
      obtain ⟨hsafe, rfl⟩ := collectSegments_eq_ok.mp hsegments
      exact ⟨hnul, hsafe, (Except.ok.inj hresult).symm⟩
    · rintro ⟨-, hsafe, rfl⟩
      exact ⟨_, collectSegments_eq_ok.mpr ⟨hsafe, rfl⟩, rfl⟩

theorem nfc_of_mem_splitSlash (hlaws : canon.Lawful) {locator segment : String}
    (h : segment ∈ splitSlash (canon.nfc locator)) : canon.nfc segment = segment := by
  have hmap : (splitSlash (canon.nfc locator)).map canon.nfc = splitSlash (canon.nfc locator) := by
    rw [← hlaws.nfc_segments, hlaws.nfc_idem]
  exact List.map_inj_left.mp (hmap.trans (List.map_id _).symm) segment h

theorem nfc_joinSlash (hlaws : canon.Lawful) {segments : List String}
    (hclean : ∀ s ∈ segments, Clean s) (hnfc : ∀ s ∈ segments, canon.nfc s = s) :
    canon.nfc (joinSlash segments) = joinSlash segments := by
  by_cases hne : segments = []
  · subst hne
    exact hlaws.nfc_empty
  · have hsplit : splitSlash (canon.nfc (joinSlash segments)) = segments := by
      rw [hlaws.nfc_segments, splitSlash_joinSlash hclean hne]
      exact (List.map_inj_left.mpr hnfc).trans (List.map_id segments)
    rw [← joinSlash_splitSlash (canon.nfc (joinSlash segments)), hsplit]

theorem normalizeLocator_idem (hlaws : canon.Lawful) {scheme locator result : String}
    (hscheme : scheme ≠ "http") (h : normalizeLocator canon scheme locator = .ok result) :
    normalizeLocator canon scheme result = .ok result := by
  obtain ⟨hnul, hsafe, rfl⟩ := (normalizeLocator_eq_ok hscheme).mp h
  have hclean : ∀ s ∈ locatorSegments canon locator, Clean s :=
    fun s hs => clean_of_mem_locatorSegments hs
  have hnfc := nfc_joinSlash hlaws hclean fun s hs =>
    nfc_of_mem_splitSlash hlaws (List.mem_filter.mp hs).1
  -- every character of the path is a slash or stood in the locator before
  have hchars : ∀ c ∈ (joinSlash (locatorSegments canon locator)).toList,
      c = '/' ∨ c ∈ (canon.nfc locator).toList := by
    intro c hc
    rw [joinSlash, String.toList_ofList] at hc
    refine (mem_intercalate hc).imp_right ?_
    rintro ⟨cs, hcs, hmem⟩
    obtain ⟨segment, hsegment, rfl⟩ := List.mem_map.mp hcs
    obtain ⟨cs', hcs', rfl⟩ := List.mem_map.mp (List.mem_filter.mp hsegment).1
    rw [String.toList_ofList] at hmem
    exact mem_of_mem_splitOn hcs' hmem
  have hsegments : splitSlash (joinSlash (locatorSegments canon locator)) =
      if locatorSegments canon locator = [] then [""] else locatorSegments canon locator := by
    split
    · rename_i hempty
      rw [hempty]
      rfl
    · rename_i hne
      exact splitSlash_joinSlash hclean hne
  have hkept : locatorSegments canon (joinSlash (locatorSegments canon locator)) =
      locatorSegments canon locator := by
    show List.filter _ (splitSlash (canon.nfc (joinSlash (locatorSegments canon locator)))) = _
    rw [hnfc, hsegments]
    split
    · rename_i hempty
      rw [hempty]
      rfl
    · rw [locatorSegments, List.filter_filter]
      simp
  refine (normalizeLocator_eq_ok hscheme).mpr ⟨?_, ?_, ?_⟩
  · rw [hnfc]
    intro hmem
    rcases hchars _ hmem with hslash | hold
    · exact absurd hslash (by decide)
    · exact hnul hold
  · rw [hnfc, hsegments]
    split
    · simp
    · intro hmem
      exact hsafe (List.mem_filter.mp hmem).1
  · rw [hkept]

end Locators

section Normal

variable {canon : Canon Bytes Digest} {ctx : NormalizationContext}

structure Accepted (canon : Canon Bytes Digest) (draft : ActionDraft) (ctx : NormalizationContext)
    (locator : String) : Prop where
  tool : validateExact draft.tool = true
  scheme : toAsciiLowercase (trim draft.resource.scheme) ∈ ctx.allowedResourceSchemes
  payload : ctx.payloadTypes.contains draft.payload.typeId draft.payload.schemaVersion = true
  path : normalizeLocator canon (toAsciiLowercase (trim draft.resource.scheme))
    draft.resource.locator = .ok locator
  secrets : rejectSensitiveKeys (.object draft.payload.data) "$.payload.data" = .ok ()
  extensions : (draft.extensions.all fun member => startsWith member.1 "x-") = true
  findings : coreFindings (canonicalAction draft locator) .default = []

theorem requireValid_eq_ok {action : CanonicalAction} {vctx : ValidationContext} {u : Unit} :
    requireValid (validate action vctx) = .ok u ↔ coreFindings action vctx = [] := by
  unfold requireValid validate
  cases coreFindings action vctx with
  | nil => simp
  | cons first rest => simp

theorem normalize_eq_ok {draft : ActionDraft} {action : CanonicalAction} :
    normalize canon draft ctx = .ok action ↔
      ∃ locator, Accepted canon draft ctx locator ∧ action = canonicalAction draft locator := by
  simp only [normalize, except_bind_eq_ok, require_eq_ok, requireValid_eq_ok]
  constructor
  · rintro ⟨_, htool, _, hscheme, _, hpayload, locator, hpath, _, hsecrets, _, hextensions, _,
      hfindings, haction⟩
    exact ⟨locator, ⟨htool, hscheme, hpayload, hpath, hsecrets, hextensions, hfindings⟩,
      (Except.ok.inj haction).symm⟩
  · rintro ⟨locator, h, rfl⟩
    exact ⟨(), h.tool, (), h.scheme, (), h.payload, locator, h.path, (), h.secrets, (),
      h.extensions, (), h.findings, rfl⟩

theorem typeId_of_contains {typeId version : String}
    (h : NormalizationContext.default.payloadTypes.contains typeId version = true) :
    toAsciiLowercase (trim typeId) = typeId := by
  have hall : ∀ known ∈ PayloadTypeRegistry.withDefaults.versions,
      toAsciiLowercase (trim known.1) = known.1 := by
    decide +kernel
  exact hall (typeId, version) (List.contains_iff_mem.mp h)

theorem truncateMillis_idem (instant : DateTime) :
    truncateMillis (truncateMillis instant) = truncateMillis instant := by
  have hround : ∀ t : Int, truncateMillis t = t / 1000000 * 1000000 := by
    intro t
    show (t - t % 1000000000 + t % 1000000000 / 1000000 * 1000000 : Int) = t / 1000000 * 1000000
    omega
  rw [hround, hround, Int.mul_ediv_cancel _ (by decide)]

theorem canonicalAction_asDraft (draft : ActionDraft) (locator : String) :
    canonicalAction (asDraft (canonicalAction draft locator)) locator =
      canonicalAction draft locator := by
  simp only [canonicalAction, asDraft, toAsciiLowercase_trim_idem, toAsciiUppercase_trim_idem,
    truncateMillis_idem]

theorem Accepted.asDraft (hlaws : canon.Lawful) {draft : ActionDraft} {locator : String}
    (hpath : toAsciiLowercase (trim draft.resource.scheme) ≠ "http")
    (h : Accepted canon draft .default locator) :
    Accepted canon (asDraft (canonicalAction draft locator)) .default locator where
  tool := h.tool
  scheme := by
    show toAsciiLowercase (trim (toAsciiLowercase (trim draft.resource.scheme))) ∈ _
    rw [toAsciiLowercase_trim_idem]
    exact h.scheme
  payload := by
    show NormalizationContext.default.payloadTypes.contains
      (toAsciiLowercase (trim draft.payload.typeId)) draft.payload.schemaVersion = true
    rw [typeId_of_contains h.payload]
    exact h.payload
  path := by
    show normalizeLocator canon (toAsciiLowercase (trim (toAsciiLowercase
      (trim draft.resource.scheme)))) locator = .ok locator
    rw [toAsciiLowercase_trim_idem]
    exact normalizeLocator_idem hlaws hpath h.path
  secrets := h.secrets
  extensions := h.extensions
  findings := by
    rw [canonicalAction_asDraft]
    exact h.findings

theorem sameAction_iff {d d' : ActionDraft} {locator locator' : String}
    (hpath : toAsciiLowercase (trim d.resource.scheme) ≠ "http")
    (hpath' : toAsciiLowercase (trim d'.resource.scheme) ≠ "http")
    (h : Accepted canon d .default locator) (h' : Accepted canon d' .default locator')
    (hinj : Function.Injective canon.rfc3339) :
    (hashMaterial canon (canonicalAction d locator)).ordered =
      (hashMaterial canon (canonicalAction d' locator')).ordered ↔ SameAction canon d d' := by
  obtain ⟨-, -, rfl⟩ := (normalizeLocator_eq_ok hpath).mp h.path
  obtain ⟨-, -, rfl⟩ := (normalizeLocator_eq_ok hpath').mp h'.path
  have hlocator : joinSlash (locatorSegments canon d.resource.locator) =
      joinSlash (locatorSegments canon d'.resource.locator) ↔
      locatorSegments canon d.resource.locator = locatorSegments canon d'.resource.locator :=
    ⟨joinSlash_injective (fun _ => clean_of_mem_locatorSegments)
      (fun _ => clean_of_mem_locatorSegments), congrArg joinSlash⟩
  rw [hashMaterial_inj hinj]
  simp only [canonicalAction, Intent.mk.injEq, ResourceSelector.mk.injEq, toAsciiUppercase_eq_iff,
    hlocator, ← sameCode_iff]
  constructor
  · rintro ⟨hschema, htask, hstep, hagent, ⟨hgoal, hoperation, hcode, hsummary⟩, htool,
      ⟨htype, hversion, hdata⟩, ⟨hscheme, htenant, hsegments, hresource⟩, henvironment, hstate,
      hrisk, hcontext, ⟨hmetric, hoperator, htarget⟩, hcredentials, hextensions⟩
    exact ⟨hschema, htask, hstep, hagent, hgoal, hoperation, hcode, hsummary, htool, htype,
      hversion, hdata, hscheme, htenant, hsegments, hresource, henvironment, hstate, hrisk,
      hcontext, hmetric, hoperator, htarget, hcredentials, hextensions⟩
  · intro hsame
    exact ⟨hsame.schemaVersion, hsame.taskId, hsame.stepId, hsame.agent,
      ⟨hsame.goalHash, hsame.operation, hsame.justificationCode, hsame.safeSummary⟩, hsame.tool,
      ⟨hsame.payloadType, hsame.payloadVersion, hsame.payloadData⟩,
      ⟨hsame.scheme, hsame.resourceTenant, hsame.locator, hsame.resourceVersion⟩,
      hsame.environment, hsame.currentStateVersion, hsame.risk, hsame.data,
      ⟨hsame.metric, hsame.operator, hsame.target⟩, hsame.credentialRefs, hsame.extensions⟩

end Normal

/-- **Canonicalization is sound and complete for hashing**: two normalized drafts have the same
hash exactly when they ask for the same, and a canonical action is its own normal form. -/
theorem hash_identifies_action {canon : Canon Bytes Digest} (hlaws : canon.Lawful)
    {d d' : ActionDraft} {a a' : CanonicalAction}
    (h : normalize canon d .default = .ok a) (h' : normalize canon d' .default = .ok a')
    (hpath : toAsciiLowercase (trim d.resource.scheme) ≠ "http")
    (hpath' : toAsciiLowercase (trim d'.resource.scheme) ≠ "http") :
    (hash canon a = hash canon a' ↔ SameAction canon d d') ∧
      normalize canon (asDraft a) .default = .ok a := by
  obtain ⟨locator, haccepted, rfl⟩ := normalize_eq_ok.mp h
  obtain ⟨locator', haccepted', rfl⟩ := normalize_eq_ok.mp h'
  refine ⟨?_, ?_⟩
  · rw [hash_eq_iff hlaws, sameAction_iff hpath hpath' haccepted haccepted' hlaws.rfc3339_injective]
  · exact normalize_eq_ok.mpr
      ⟨locator, haccepted.asDraft hlaws hpath, (canonicalAction_asDraft d locator).symm⟩

-- One action in two spellings

/-- The texts of the sample drafts are ASCII and their instants the epoch; values are hashed to
themselves. -/
def sampleCanon : Canon Value Value where
  nfc := id
  parseUrl _ := none
  rfc3339 instant :=
    "1970-01-01T00:00:00" ++ String.ofList (List.replicate (Equiv.intEquivNat instant) '0') ++ "Z"
  jcs value := some value.ordered
  sha256Hex := id

theorem sampleCanon_lawful : sampleCanon.Lawful where
  nfc_idem _ := rfl
  nfc_segments s := (List.map_id (splitSlash s)).symm
  nfc_empty := rfl
  rfc3339_injective t t' h := by
    have hlength := congrArg String.length h
    simp only [sampleCanon, String.length_append, String.length_ofList, List.length_replicate]
      at hlength
    exact Equiv.intEquivNat.injective (by omega)
  jcs_injective v w := by simp [sampleCanon]
  sha256_injective := Function.injective_id

def sampleDraft (scheme operation code locator : String) (data : StrictJsonObject) :
    ActionDraft where
  schemaVersion := actionSchemaVersion
  actionId := operation
  taskId := (sampleUuid 2).toStr
  stepId := (sampleUuid 3).toStr
  agent :=
    { schemaVersion := "agenttrust.contracts.v1", agentType := "coding"
      agentInstanceId := (sampleUuid 5).toStr, organizationId := "org-1"
      tenantId := (sampleUuid 1).toStr, ownerSubject := "user:1", modelProvider := "approved"
      modelId := "model-v1", agentVersion := "1.0.0", deploymentEnvironment := "staging"
      trustLevel := "verified", authContextRef := "auth:1", issuedAt := 0, expiresAt := 0 }
  intent := { goalHash := "g", operation, justificationCode := code, safeSummary := none }
  tool := { toolId := "coding.repo-read", toolVersion := "1.0.0" }
  payload := { typeId := "coding.command.v1", schemaVersion := "1", data }
  resource := { scheme, tenantId := (sampleUuid 1).toStr, locator, version := none }
  environment :=
    { tenantId := (sampleUuid 1).toStr, deployment := "staging", region := "local", zone := none
      simulation := false }
  currentStateVersion := none
  risk :=
    { declaredRisk := .low, trajectoryRiskRef := none, scopeDelta := 0, automationAllowed := true }
  data := { classification := .internal, jurisdiction := "CN", exportConstraints := [] }
  expectedOutcome := { metric := "files", operator := "gte", target := .number ⟨"0"⟩ }
  credentialRefs := []
  requestedAt := 1500000
  extensions := []

theorem sampleDraft_same {scheme scheme' operation operation' code code' locator locator' : String}
    {data data' : StrictJsonObject} (hscheme : SameCode scheme scheme')
    (hoperation : SameCode operation operation') (hcode : SameCode code code')
    (hlocator : locatorSegments sampleCanon locator = locatorSegments sampleCanon locator')
    (hdata : SameJson (.object data) (.object data')) :
    SameAction sampleCanon (sampleDraft scheme operation code locator data)
      (sampleDraft scheme' operation' code' locator' data') where
  schemaVersion := rfl
  taskId := rfl
  stepId := rfl
  agent := rfl
  goalHash := rfl
  operation := hoperation
  justificationCode := hcode
  safeSummary := rfl
  tool := rfl
  payloadType := by simp [sampleDraft, SameCode, eqIgnoreAsciiCase]
  payloadVersion := rfl
  payloadData := hdata
  scheme := hscheme
  resourceTenant := rfl
  locator := hlocator
  resourceVersion := rfl
  environment := rfl
  currentStateVersion := rfl
  risk := rfl
  data := rfl
  metric := rfl
  operator := rfl
  target := rfl
  credentialRefs := rfl
  extensions := rfl

def samplePlain : ActionDraft :=
  sampleDraft "repo" "read" "USER_REQUEST" "org/repository"
    [("depth", .number ⟨"1"⟩), ("path", .string "src")]

def sampleRespelled : ActionDraft :=
  sampleDraft " Repo" "READ " "user_request" "/org/./repository//"
    [("path", .string "src"), ("depth", .number ⟨"1"⟩)]

theorem samplePlain_normalizes :
    normalize sampleCanon samplePlain .default =
      .ok (canonicalAction samplePlain "org/repository") :=
  normalize_eq_ok.mpr ⟨"org/repository",
    ⟨by decide +kernel, by decide +kernel, by decide +kernel, by decide +kernel,
      by decide +kernel, by decide +kernel, by decide +kernel⟩, rfl⟩

theorem sampleRespelled_normalizes :
    normalize sampleCanon sampleRespelled .default =
      .ok (canonicalAction sampleRespelled "org/repository") :=
  normalize_eq_ok.mpr ⟨"org/repository",
    ⟨by decide +kernel, by decide +kernel, by decide +kernel, by decide +kernel,
      by decide +kernel, by decide +kernel, by decide +kernel⟩, rfl⟩

theorem hash_identifies_action_spellings :
    (hash sampleCanon (canonicalAction samplePlain "org/repository") =
        hash sampleCanon (canonicalAction sampleRespelled "org/repository") ↔
      SameAction sampleCanon samplePlain sampleRespelled) ∧
    normalize sampleCanon (asDraft (canonicalAction samplePlain "org/repository")) .default =
      .ok (canonicalAction samplePlain "org/repository") ∧
    SameAction sampleCanon samplePlain sampleRespelled := by
  have h := hash_identifies_action sampleCanon_lawful samplePlain_normalizes
    sampleRespelled_normalizes (by decide +kernel) (by decide +kernel)
  refine ⟨h.1, h.2, ?_⟩
  have hscheme : SameCode "repo" " Repo" :=
    .of_form "repo" (by decide +kernel) (by decide +kernel)
  have hoperation : SameCode "read" "READ " :=
    .of_form "read" (by decide +kernel) (by decide +kernel)
  have hcode : SameCode "USER_REQUEST" "user_request" :=
    .of_form "user_request" (by decide +kernel) (by decide +kernel)
  exact sampleDraft_same hscheme hoperation hcode (by decide)
    (by simp [SameJson, Value.ordered, Value.orderedMembers, List.insertionSort])

end AgentSphere.ActionIr
