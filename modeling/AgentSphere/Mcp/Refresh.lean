import AgentSphere.Mcp.Registry
import Mathlib.Data.List.Perm.Subperm

/-!
# Refreshing an approved server

`refresh` compares what a server shows with what was approved: the number of tools, and each shown
tool with the approved one of its name. A list that shows one tool twice in place of another has
the right length and only approved tools, and counts as unchanged.
-/

namespace AgentSphere.Mcp

open Concurrency McpRegistry

section Refresh

variable {Bytes VerifyingKey : Type}

def approvedTools (record : ServerRecord) : List ToolSchemaSnapshot :=
  record.tools.toList.map Prod.snd

def Unchanged (record : ServerRecord) (implementationDigest : String)
    (tools : List ToolSchemaSnapshot) : Prop :=
  record.approvedDigest = some implementationDigest ∧ tools.Perm (approvedTools record)

/-- `refresh` answers `false` to an unchanged server only, and freezes any other. -/
def RefreshDetects (codec : McpCodec Bytes VerifyingKey) (store : StoreAnswer)
    (registry : McpRegistry VerifyingKey) (tenantId : TenantId) (serverId : String)
    (record : ServerRecord) (implementationDigest : String) (tools : List ToolSchemaSnapshot) :
    Prop :=
  ((∃ after, registry.refresh codec store tenantId serverId implementationDigest tools =
      .ok (after, false)) ↔ Unchanged record implementationDigest tools) ∧
  (¬Unchanged record implementationDigest tools → ∃ after : McpRegistry VerifyingKey,
    registry.refresh codec store tenantId serverId implementationDigest tools = .ok (after, true) ∧
      after.servers[(tenantId, serverId)]? = some { record with status := .frozen })

def NoHashCollision (codec : McpCodec Bytes VerifyingKey) (tools : List ToolSchemaSnapshot) :
    Prop :=
  ∀ tool ∈ tools, ∀ tool' ∈ tools,
    codec.snapshotHash { tool with snapshotHash := "" } =
      codec.snapshotHash { tool' with snapshotHash := "" } →
    { tool with snapshotHash := "" } = { tool' with snapshotHash := "" }

instance (codec : McpCodec Bytes VerifyingKey) (tools : List ToolSchemaSnapshot) :
    Decidable (NoHashCollision codec tools) :=
  inferInstanceAs (Decidable (∀ tool ∈ tools, ∀ tool' ∈ tools, _ → _))

/-- A list of approved tools, as many as were approved and under the approved digest, names no
tool twice. -/
def NamesNoToolTwice (record : ServerRecord) (implementationDigest : String)
    (tools : List ToolSchemaSnapshot) : Prop :=
  record.approvedDigest = some implementationDigest →
    tools.length = (approvedTools record).length →
    (∀ tool ∈ tools, tool ∈ approvedTools record) →
    (tools.map ToolSchemaSnapshot.toolName).Nodup

-- The approved tools

variable {codec : McpCodec Bytes VerifyingKey} {record : ServerRecord} {tenantId : TenantId}
  {serverId : String} {tools : List ToolSchemaSnapshot} {tool : ToolSchemaSnapshot}
  {store : StoreAnswer} {registry : McpRegistry VerifyingKey} {implementationDigest : String}

def Named (record : ServerRecord) : Prop :=
  ∀ (toolName : String) tool, record.tools[toolName]? = some tool → tool.toolName = toolName

theorem length_approvedTools : (approvedTools record).length = record.tools.size := by
  rw [approvedTools, List.length_map, Std.ExtTreeMap.length_toList]

theorem mem_approvedTools (hnamed : Named record) :
    tool ∈ approvedTools record ↔ record.tools[tool.toolName]? = some tool := by
  rw [approvedTools, List.mem_map]
  constructor
  · rintro ⟨⟨toolName, found⟩, hmem, rfl⟩
    have hfound := Std.ExtTreeMap.mem_toList_iff_getElem?_eq_some.mp hmem
    rw [hnamed toolName found hfound]
    exact hfound
  · intro hfound
    exact ⟨(tool.toolName, tool), Std.ExtTreeMap.mem_toList_iff_getElem?_eq_some.mpr hfound, rfl⟩

theorem nodup_approvedTools (hnamed : Named record) :
    ((approvedTools record).map ToolSchemaSnapshot.toolName).Nodup := by
  have hkeys : (approvedTools record).map ToolSchemaSnapshot.toolName =
      record.tools.toList.map Prod.fst := by
    rw [approvedTools, List.map_map]
    refine List.map_congr_left fun entry hentry => ?_
    exact hnamed _ _ (Std.ExtTreeMap.mem_toList_iff_getElem?_eq_some.mp hentry)
  rw [hkeys, Std.ExtTreeMap.map_fst_toList_eq_keys]
  exact Std.ExtTreeMap.nodup_keys

/-- A list is one of the approved tools in some order if it has their number, holds only such
tools, and names none of them twice. -/
theorem perm_approvedTools_iff (hnamed : Named record) :
    tools.Perm (approvedTools record) ↔
      tools.length = (approvedTools record).length ∧
      (∀ tool ∈ tools, tool ∈ approvedTools record) ∧
      (tools.map ToolSchemaSnapshot.toolName).Nodup := by
  constructor
  · intro hperm
    refine ⟨hperm.length_eq, fun tool hmem => hperm.mem_iff.mp hmem, ?_⟩
    exact (hperm.map _).nodup_iff.mpr (nodup_approvedTools hnamed)
  · rintro ⟨hlength, hsubset, hnames⟩
    have hnodup : tools.Nodup := hnames.of_map _
    exact (List.subperm_of_subset hnodup hsubset).perm_of_length_le hlength.ge

-- What passes as unchanged

theorem snapshotHash_of_belongs {version : String}
    (h : belongs codec tenantId serverId version tool = true) :
    codec.snapshotHash { tool with snapshotHash := "" } = some tool.snapshotHash := by
  have hvalid : (validateToolSnapshot codec tool).isOk = true := by
    rw [belongs, Bool.and_eq_true] at h
    exact h.2
  cases hcheck : validateToolSnapshot codec tool with
  | error e =>
    rw [hcheck] at hvalid
    nomatch hvalid
  | ok =>
    obtain ⟨_, -, hcheck⟩ := except_bind_eq_ok.mp hcheck
    obtain ⟨_, -, hcheck⟩ := except_bind_eq_ok.mp hcheck
    obtain ⟨_, -, hcheck⟩ := except_bind_eq_ok.mp hcheck
    split at hcheck
    · next schemaHash snapshotHash _ hhash =>
      rw [hhash, (require_eq_ok.mp hcheck).2]
    · nomatch hcheck

theorem NoHashCollision.mono {tools' : List ToolSchemaSnapshot} (h : NoHashCollision codec tools)
    (hsubset : ∀ tool ∈ tools', tool ∈ tools) : NoHashCollision codec tools' :=
  fun tool hmem tool' hmem' => h tool (hsubset tool hmem) tool' (hsubset tool' hmem')

theorem eq_of_snapshotHash {version version' : String} {tool' : ToolSchemaSnapshot}
    (hcollision : NoHashCollision codec (tools ++ approvedTools record)) (hmem : tool ∈ tools)
    (hmem' : tool' ∈ approvedTools record)
    (h : belongs codec tenantId serverId version tool = true)
    (h' : belongs codec tenantId serverId version' tool' = true)
    (hsame : tool'.snapshotHash = tool.snapshotHash) : tool' = tool := by
  have hhash : codec.snapshotHash { tool with snapshotHash := "" } =
      codec.snapshotHash { tool' with snapshotHash := "" } := by
    rw [snapshotHash_of_belongs h, snapshotHash_of_belongs h', hsame]
  have hunsigned := hcollision tool (List.mem_append_left _ hmem) tool'
    (List.mem_append_right _ hmem') hhash
  cases tool
  cases tool'
  simp_all

def Accepted (codec : McpCodec Bytes VerifyingKey) (tenantId : TenantId) (serverId : String)
    (record : ServerRecord) : Prop :=
  ∀ tool ∈ approvedTools record,
    belongs codec tenantId serverId record.manifest.version tool = true

/-- A server passes as unchanged if it shows the approved digest and approved tools, as many as
were approved. -/
theorem drifted_eq_false_iff (hnamed : Named record)
    (haccepted : Accepted codec tenantId serverId record)
    (hcollision : NoHashCollision codec (tools ++ approvedTools record)) :
    drifted codec record tenantId serverId implementationDigest tools = false ↔
      record.approvedDigest = some implementationDigest ∧
      tools.length = (approvedTools record).length ∧
      ∀ tool ∈ tools, tool ∈ approvedTools record := by
  have hdrifted : drifted codec record tenantId serverId implementationDigest tools = false ↔
      (((∀ tool ∈ tools, belongs codec tenantId serverId record.manifest.version tool = true) ∧
        record.approvedDigest = some implementationDigest) ∧
        tools.length = record.tools.size) ∧
        ∀ tool ∈ tools, ∃ approved, record.tools[tool.toolName]? = some approved ∧
          approved.snapshotHash = tool.snapshotHash := by
    simp [drifted, Option.all_eq_false, List.any_eq_false]
  rw [hdrifted, length_approvedTools]
  constructor
  · rintro ⟨⟨⟨hown, hdigest⟩, hlength⟩, hfound⟩
    refine ⟨hdigest, hlength, fun tool hmem => ?_⟩
    obtain ⟨approved, happroved, hsame⟩ := hfound tool hmem
    have hname := hnamed _ _ happroved
    have hmem' : approved ∈ approvedTools record :=
      (mem_approvedTools hnamed).mpr (hname ▸ happroved)
    rw [← eq_of_snapshotHash hcollision hmem hmem' (hown tool hmem) (haccepted _ hmem') hsame]
    exact hmem'
  · rintro ⟨hdigest, hlength, hsubset⟩
    refine ⟨⟨⟨fun tool hmem => haccepted tool (hsubset tool hmem), hdigest⟩, hlength⟩, ?_⟩
    exact fun tool hmem => ⟨tool, (mem_approvedTools hnamed).mp (hsubset tool hmem), rfl⟩

-- Refreshing

theorem refresh_of_record
    (hrecord : registry.servers[(tenantId, serverId)]? = some record) :
    registry.refresh codec store tenantId serverId implementationDigest tools =
      if drifted codec record tenantId serverId implementationDigest tools = true then
        (writeStatus store registry tenantId serverId record .frozen).map fun frozen =>
          (frozen, true)
      else .ok (registry, false) := by
  rw [McpRegistry.refresh, record_eq_ok.mpr hrecord]
  rfl

/-- `refresh` of a record answers `false` if it passes as unchanged. -/
theorem refresh_false_iff
    (hrecord : registry.servers[(tenantId, serverId)]? = some record) :
    (∃ after, registry.refresh codec store tenantId serverId implementationDigest tools =
      .ok (after, false)) ↔
      drifted codec record tenantId serverId implementationDigest tools = false := by
  rw [refresh_of_record hrecord]
  split_ifs with hdrifted
  · refine iff_of_false ?_ (by rw [hdrifted]; exact Bool.noConfusion)
    rintro ⟨after, h⟩
    cases hfrozen : writeStatus store registry tenantId serverId record .frozen with
    | error e => rw [hfrozen] at h; nomatch h
    | ok frozen => rw [hfrozen] at h; nomatch h
  · exact iff_of_true ⟨registry, rfl⟩ (Bool.not_eq_true _ ▸ hdrifted)

theorem refresh_true_iff
    (hrecord : registry.servers[(tenantId, serverId)]? = some record) :
    (∃ after : McpRegistry VerifyingKey,
      registry.refresh codec store tenantId serverId implementationDigest tools =
        .ok (after, true) ∧
      after.servers[(tenantId, serverId)]? = some { record with status := .frozen }) ↔
      drifted codec record tenantId serverId implementationDigest tools = true ∧
        store.persist = .ok () := by
  rw [refresh_of_record hrecord, writeStatus]
  split_ifs with hdrifted
  · cases hstore : store.persist with
    | error e =>
      refine iff_of_false ?_ fun h => nomatch h.2
      rintro ⟨after, h, -⟩
      nomatch h
    | ok =>
      refine iff_of_true ⟨_, rfl, ?_⟩ ⟨hdrifted, rfl⟩
      exact (BTreeMap.getElem?_insert_ite ..).trans (if_pos rfl)
  · refine iff_of_false ?_ fun h => hdrifted h.1
    rintro ⟨after, h, -⟩
    nomatch h

theorem approved_of_run {steps : List (RegistryStep VerifyingKey)}
    (hrecord : (run codec steps).servers[(tenantId, serverId)]? = some record)
    (hstatus : record.status = .approved) :
    Named record ∧ Accepted codec tenantId serverId record := by
  obtain ⟨approved, hby⟩ := approvedBy_of_run hrecord hstatus
  have hnamed : Named record := by
    intro toolName tool hfound
    rw [hby.toolsKept] at hfound
    exact (mem_of_toolsByName hfound).2
  refine ⟨hnamed, fun tool hmem => hby.own tool ?_⟩
  have hfound := (mem_approvedTools hnamed).mp hmem
  rw [hby.toolsKept] at hfound
  exact (mem_of_toolsByName hfound).1

/-- **Refreshing** answers that nothing has changed exactly to what was approved, and freezes the
server otherwise, exactly if no list names a tool twice and the store does not refuse to freeze. -/
theorem refresh_detects_iff (codec : McpCodec Bytes VerifyingKey)
    (steps : List (RegistryStep VerifyingKey))
    (hrecord : (run codec steps).servers[(tenantId, serverId)]? = some record)
    (hstatus : record.status = .approved) (store : StoreAnswer) (implementationDigest : String)
    (tools : List ToolSchemaSnapshot)
    (hcollision : NoHashCollision codec (tools ++ approvedTools record)) :
    RefreshDetects codec store (run codec steps) tenantId serverId record implementationDigest
        tools ↔
      NamesNoToolTwice record implementationDigest tools ∧
        (store.persist = .ok () ∨ Unchanged record implementationDigest tools) := by
  obtain ⟨hnamed, haccepted⟩ := approved_of_run hrecord hstatus
  have hpasses : drifted codec record tenantId serverId implementationDigest tools = false ↔ _ :=
    drifted_eq_false_iff hnamed haccepted hcollision
  have hperm : tools.Perm (approvedTools record) ↔ _ := perm_approvedTools_iff hnamed
  have hunchanged : Unchanged record implementationDigest tools →
      drifted codec record tenantId serverId implementationDigest tools = false := by
    rintro ⟨hdigest, htools⟩
    obtain ⟨hlength, hsubset, -⟩ := hperm.mp htools
    exact hpasses.mpr ⟨hdigest, hlength, hsubset⟩
  rw [RefreshDetects, refresh_false_iff hrecord, refresh_true_iff hrecord]
  constructor
  · rintro ⟨hexact, hfreezes⟩
    constructor
    · intro hdigest hlength hsubset
      exact (hperm.mp (hexact.mp (hpasses.mpr ⟨hdigest, hlength, hsubset⟩)).2).2.2
    · by_cases hsame : Unchanged record implementationDigest tools
      · exact .inr hsame
      · exact .inl (hfreezes hsame).2
  · rintro ⟨hnames, hstore⟩
    have hexact : drifted codec record tenantId serverId implementationDigest tools = false →
        Unchanged record implementationDigest tools := by
      intro hsame
      obtain ⟨hdigest, hlength, hsubset⟩ := hpasses.mp hsame
      exact ⟨hdigest, hperm.mpr ⟨hlength, hsubset, hnames hdigest hlength hsubset⟩⟩
    refine ⟨⟨hexact, hunchanged⟩, fun hchanged => ⟨?_, hstore.resolve_right hchanged⟩⟩
    rw [← Bool.not_eq_false]
    exact fun hsame => hchanged (hexact hsame)

end Refresh

def sampleRefreshCodec : McpCodec String String :=
  { sampleMcpCodec with
    schemaHash := fun _ => some "3aceb96d9b246c331143a7504bc945ecd807fc2b11694e32e20c4dead730e1ed"
    snapshotHash := fun snapshot =>
      if snapshot.toolName = "read" then
        some "9071ed2dc30cf2b7b8ebe3faa7539adb3c7d0fece705c201adf057226676c89e"
      else some "5aba9971f777bc54d0fb926234ef9aa54797d1d876cf55b2ce68d3bcec01b93e" }

def sampleTool (toolName snapshotHash : String) : ToolSchemaSnapshot :=
  { sampleSnapshot "server" toolName with
    schemaHash := "3aceb96d9b246c331143a7504bc945ecd807fc2b11694e32e20c4dead730e1ed"
    snapshotHash := snapshotHash }

def sampleReadTool : ToolSchemaSnapshot :=
  sampleTool "read" "9071ed2dc30cf2b7b8ebe3faa7539adb3c7d0fece705c201adf057226676c89e"

def sampleWriteTool : ToolSchemaSnapshot :=
  sampleTool "write" "5aba9971f777bc54d0fb926234ef9aa54797d1d876cf55b2ce68d3bcec01b93e"

def approvingSteps : List (RegistryStep String) :=
  registeringSteps ++ [(none, .approve "tenant" "server" [sampleReadTool, sampleWriteTool])]

theorem approvingSteps_approved : ∃ record,
    (run sampleRefreshCodec approvingSteps).servers[("tenant", "server")]? = some record ∧
      record.status = .approved ∧ record.approvedDigest = some ("sha256:" ++ sampleHash 'd') ∧
      approvedTools record = [sampleReadTool, sampleWriteTool] := by
  have hrecord : (run sampleRefreshCodec approvingSteps).servers[("tenant", "server")]?.map
      (fun record => (record.status, record.approvedDigest, approvedTools record)) =
        some (.approved, some ("sha256:" ++ sampleHash 'd'),
          [sampleReadTool, sampleWriteTool]) := by
    rw [approvingSteps, run_registeringSteps sampleRefreshCodec rfl rfl rfl rfl]
    decide
  obtain ⟨record, hfound, htriple⟩ := Option.map_eq_some_iff.mp hrecord
  obtain ⟨hstatus, hpair⟩ := Prod.mk.inj htriple
  obtain ⟨hdigest, htools⟩ := Prod.mk.inj hpair
  exact ⟨record, hfound, hstatus, hdigest, htools⟩

theorem sampleRefreshCodec_noHashCollision :
    NoHashCollision sampleRefreshCodec [sampleReadTool, sampleWriteTool] := by
  decide

/-- A server that shows one of its two tools twice counts as unchanged. -/
theorem repeated_tool_unchanged : ∃ record,
    (run sampleRefreshCodec approvingSteps).servers[("tenant", "server")]? = some record ∧
      record.status = .approved ∧
      ¬RefreshDetects sampleRefreshCodec none (run sampleRefreshCodec approvingSteps) "tenant"
        "server" record ("sha256:" ++ sampleHash 'd') [sampleReadTool, sampleReadTool] := by
  obtain ⟨record, hfound, hstatus, hdigest, htools⟩ := approvingSteps_approved
  refine ⟨record, hfound, hstatus, fun h => ?_⟩
  obtain ⟨hnamed, haccepted⟩ := approved_of_run hfound hstatus
  have hsame : drifted sampleRefreshCodec record "tenant" "server" ("sha256:" ++ sampleHash 'd')
      [sampleReadTool, sampleReadTool] = false := by
    refine (drifted_eq_false_iff hnamed haccepted ?_).mpr ⟨hdigest, ?_, ?_⟩
    · refine sampleRefreshCodec_noHashCollision.mono fun tool hmem => ?_
      rw [htools] at hmem
      simpa using hmem
    · rw [htools]
      rfl
    · rw [htools]
      simp
  have hperm := (h.1.mp ((refresh_false_iff hfound).mpr hsame)).2
  rw [htools] at hperm
  exact absurd (hperm.map ToolSchemaSnapshot.toolName) (by decide)

theorem refresh_detects_approvingSteps : ∃ record,
    (run sampleRefreshCodec approvingSteps).servers[("tenant", "server")]? = some record ∧
      RefreshDetects sampleRefreshCodec none (run sampleRefreshCodec approvingSteps) "tenant"
        "server" record ("sha256:" ++ sampleHash 'd') [sampleWriteTool, sampleReadTool] := by
  obtain ⟨record, hfound, hstatus, -, htools⟩ := approvingSteps_approved
  refine ⟨record, hfound, (refresh_detects_iff sampleRefreshCodec approvingSteps hfound hstatus none
    ("sha256:" ++ sampleHash 'd') [sampleWriteTool, sampleReadTool] ?_).mpr ⟨?_, .inl rfl⟩⟩
  · refine sampleRefreshCodec_noHashCollision.mono fun tool hmem => ?_
    rw [htools] at hmem
    simp only [List.mem_append, List.mem_cons, List.not_mem_nil, or_false] at hmem ⊢
    exact hmem.elim Or.symm id
  · intro _ _ _
    decide

end AgentSphere.Mcp
