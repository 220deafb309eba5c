import AgentSphere.Mcp.Proxy

/-!
# Names of tools

A tool is known to authorizations by the identifier of its server and its own name, with a dot in
between. Both parts may contain dots, so that two different pairs can make the same identifier.
-/

namespace AgentSphere.Mcp

open Concurrency McpRegistry

-- Joined texts

/-- Two lists with a separator between their parts are equal if the parts are, or if one of them
has a further separator where the other one has its own. -/
theorem append_cons_eq_iff {α : Type*} {separator : α} {as bs as' bs' : List α} :
    as ++ separator :: bs = as' ++ separator :: bs' ↔
      (as = as' ∧ bs = bs') ∨
      (∃ rest, as' = as ++ separator :: rest ∧ bs = rest ++ separator :: bs') ∨
      ∃ rest, as = as' ++ separator :: rest ∧ bs' = rest ++ separator :: bs := by
  rw [List.append_eq_append_iff]
  constructor
  · rintro (⟨more, rfl, h⟩ | ⟨more, rfl, h⟩)
    · cases more with
      | nil =>
        rw [List.nil_append, List.cons.injEq] at h
        exact .inl ⟨by simp, h.2⟩
      | cons c rest =>
        rw [List.cons_append, List.cons.injEq] at h
        obtain ⟨rfl, rfl⟩ := h
        exact .inr (.inl ⟨rest, rfl, rfl⟩)
    · cases more with
      | nil =>
        rw [List.nil_append, List.cons.injEq] at h
        exact .inl ⟨by simp, h.2.symm⟩
      | cons c rest =>
        rw [List.cons_append, List.cons.injEq] at h
        obtain ⟨rfl, rfl⟩ := h
        exact .inr (.inr ⟨rest, rfl, rfl⟩)
  · rintro (⟨rfl, rfl⟩ | ⟨rest, rfl, rfl⟩ | ⟨rest, rfl, rfl⟩)
    · exact .inl ⟨[], by simp, rfl⟩
    · exact .inl ⟨separator :: rest, rfl, rfl⟩
    · exact .inr ⟨separator :: rest, rfl, rfl⟩

/-- The first server's identifier goes on, after a dot, in the second one's, and the tools make up
for the difference. -/
def Overlaps (serverId toolName serverId' toolName' : String) : Prop :=
  ∃ rest, serverId' = serverId ++ "." ++ rest ∧ toolName = rest ++ "." ++ toolName'

theorem overlaps_iff {serverId toolName serverId' toolName' : String} :
    Overlaps serverId toolName serverId' toolName' ↔
      ∃ rest, serverId'.toList = serverId.toList ++ '.' :: rest ∧
        toolName.toList = rest ++ '.' :: toolName'.toList := by
  constructor
  · rintro ⟨rest, rfl, rfl⟩
    exact ⟨rest.toList, by simp, by simp⟩
  · rintro ⟨rest, hserver, htool⟩
    refine ⟨String.ofList rest, ?_, ?_⟩
    · rw [← String.toList_inj, hserver]
      simp
    · rw [← String.toList_inj, htool]
      simp

/-- **Identifiers**: two tools have the same identifier exactly if they are the same or one pair
overlaps the other. -/
theorem namespacedId_eq_iff {serverId toolName serverId' toolName' : String} :
    namespacedId serverId toolName = namespacedId serverId' toolName' ↔
      (serverId = serverId' ∧ toolName = toolName') ∨
      Overlaps serverId toolName serverId' toolName' ∨
      Overlaps serverId' toolName' serverId toolName := by
  have hlists : namespacedId serverId toolName = namespacedId serverId' toolName' ↔
      serverId.toList ++ '.' :: toolName.toList = serverId'.toList ++ '.' :: toolName'.toList := by
    rw [← String.toList_inj, namespacedId, namespacedId]
    simp
  rw [hlists, append_cons_eq_iff, overlaps_iff, overlaps_iff, String.toList_inj, String.toList_inj]

section Approved

variable {Bytes VerifyingKey : Type} {codec : McpCodec Bytes VerifyingKey}

theorem namespacedToolId_of_validate {snapshot : ToolSchemaSnapshot}
    (h : validateToolSnapshot codec snapshot = .ok ()) :
    snapshot.namespacedToolId = namespacedId snapshot.serverId snapshot.toolName := by
  simp only [validateToolSnapshot, except_bind_eq_ok, require_eq_ok] at h
  obtain ⟨_, hshape, -⟩ := h
  exact hshape.2.2.2.2.2.2.2.1

theorem approvedTool_named {steps : List (RegistryStep VerifyingKey)} {tenantId : TenantId}
    {serverId toolName : String} {tool : ToolSchemaSnapshot}
    (h : (run codec steps).approvedTool tenantId serverId toolName = .ok tool) :
    tool.serverId = serverId ∧ tool.toolName = toolName ∧
      tool.namespacedToolId = namespacedId serverId toolName := by
  obtain ⟨record, hrecord, happroved, -, hfound⟩ := approvedTool_eq_ok.mp h
  obtain ⟨tools, hby⟩ := approvedBy_of_run hrecord happroved
  rw [hby.toolsKept] at hfound
  obtain ⟨hmem, hname⟩ := mem_of_toolsByName hfound
  have hown := hby.own tool hmem
  simp only [belongs, Bool.and_eq_true, decide_eq_true_eq] at hown
  obtain ⟨⟨⟨-, hserver⟩, -⟩, hvalid⟩ := hown
  have hok : validateToolSnapshot codec tool = .ok () := by
    cases hresult : validateToolSnapshot codec tool with
    | ok _ => rfl
    | error e =>
      rw [hresult] at hvalid
      cases hvalid
  refine ⟨hserver, hname, ?_⟩
  rw [namespacedToolId_of_validate hok, hserver, hname]

end Approved

section Apart

variable {Bytes VerifyingKey : Type}

def NamedApart (registry : McpRegistry VerifyingKey) : Prop :=
  ∀ (tenantId : TenantId) (serverId toolName serverId' toolName' : String)
    (tool tool' : ToolSchemaSnapshot),
    registry.approvedTool tenantId serverId toolName = .ok tool →
    registry.approvedTool tenantId serverId' toolName' = .ok tool' →
    tool.namespacedToolId = tool'.namespacedToolId →
      tool.serverId = tool'.serverId ∧ tool.toolName = tool'.toolName

/-- An action that is bound to one approved tool of a tenant is bound to no other one of a server
with the same version. -/
def BoundToOne (codec : CallCodec Bytes VerifyingKey) (registry : McpRegistry VerifyingKey) :
    Prop :=
  ∀ (request request' : McpCallRequest) (tool tool' : ToolSchemaSnapshot)
    (arguments arguments' : Value) (action : CanonicalAction),
    request.tenantId = request'.tenantId →
    registry.approvedTool request.tenantId request.serverId request.toolName = .ok tool →
    registry.approvedTool request'.tenantId request'.serverId request'.toolName = .ok tool' →
    tool.serverVersion = tool'.serverVersion →
    validateActionBinding codec request tool arguments action = .ok () →
    validateActionBinding codec request' tool' arguments' action = .ok () →
      request.serverId = request'.serverId ∧ request.toolName = request'.toolName

def Apart (registry : McpRegistry VerifyingKey) : Prop :=
  ∀ (tenantId : TenantId) (serverId toolName serverId' toolName' : String)
    (tool tool' : ToolSchemaSnapshot),
    registry.approvedTool tenantId serverId toolName = .ok tool →
    registry.approvedTool tenantId serverId' toolName' = .ok tool' →
      ¬Overlaps serverId toolName serverId' toolName'

theorem validateActionBinding_eq_ok {codec : CallCodec Bytes VerifyingKey}
    {request : McpCallRequest} {snapshot : ToolSchemaSnapshot} {arguments : Value}
    {action : CanonicalAction} :
    validateActionBinding codec request snapshot arguments action = .ok () ↔
      ActionIr.hash codec.canon action = .ok request.actionHash ∧
      action.agent.tenantId = request.tenantId ∧
      action.tool.toolId = snapshot.namespacedToolId ∧
      action.tool.toolVersion = snapshot.serverVersion ∧
      Value.object action.arguments = arguments := by
  simp only [validateActionBinding, except_bind_eq_ok, require_eq_ok, except_mapError_eq_ok]
  constructor
  · rintro ⟨hash, hhash, rfl, hrest⟩
    exact ⟨hhash, hrest⟩
  · rintro ⟨hhash, hrest⟩
    exact ⟨_, hhash, rfl, hrest⟩

theorem Overlaps.ne {serverId toolName serverId' toolName' : String}
    (h : Overlaps serverId toolName serverId' toolName') : serverId ≠ serverId' := by
  obtain ⟨rest, hserver, -⟩ := overlaps_iff.mp h
  rintro rfl
  simpa using congrArg List.length hserver

/-- **Names**: after any run, identifiers and the actions bound to them tell the approved tools of
a tenant apart exactly if no approved tool overlaps another one. -/
theorem tools_named_apart_iff (codec : CallCodec Bytes VerifyingKey)
    (steps : List (RegistryStep VerifyingKey)) :
    (NamedApart (run codec.registry steps) ∧ BoundToOne codec (run codec.registry steps)) ↔
      Apart (run codec.registry steps) := by
  constructor
  · rintro ⟨hnamed, -⟩ tenantId serverId toolName serverId' toolName' tool tool' htool htool' hover
    obtain ⟨hserver, -, hid⟩ := approvedTool_named htool
    obtain ⟨hserver', -, hid'⟩ := approvedTool_named htool'
    have hsame : tool.namespacedToolId = tool'.namespacedToolId := by
      rw [hid, hid', namespacedId_eq_iff]
      exact .inr (.inl hover)
    obtain ⟨hservers, -⟩ := hnamed _ _ _ _ _ _ _ htool htool' hsame
    exact hover.ne (hserver.symm.trans (hservers.trans hserver'))
  · intro hapart
    have hnamed : NamedApart (run codec.registry steps) := by
      intro tenantId serverId toolName serverId' toolName' tool tool' htool htool' hsame
      obtain ⟨hserver, hname, hid⟩ := approvedTool_named htool
      obtain ⟨hserver', hname', hid'⟩ := approvedTool_named htool'
      rw [hid, hid', namespacedId_eq_iff] at hsame
      rcases hsame with ⟨rfl, rfl⟩ | hover | hover
      · exact ⟨hserver.trans hserver'.symm, hname.trans hname'.symm⟩
      · exact absurd hover (hapart _ _ _ _ _ _ _ htool htool')
      · exact absurd hover (hapart _ _ _ _ _ _ _ htool' htool)
    refine ⟨hnamed, ?_⟩
    intro request request' tool tool' arguments arguments' action htenant htool htool' _ hbound
      hbound'
    obtain ⟨-, -, hid, -⟩ := validateActionBinding_eq_ok.mp hbound
    obtain ⟨-, -, hid', -⟩ := validateActionBinding_eq_ok.mp hbound'
    obtain ⟨hserver, hname, -⟩ := approvedTool_named htool
    obtain ⟨hserver', hname', -⟩ := approvedTool_named htool'
    rw [← htenant] at htool'
    obtain ⟨hservers, hnames⟩ :=
      hnamed _ _ _ _ _ _ _ htool htool' (hid.symm.trans hid')
    exact ⟨hserver.symm.trans (hservers.trans hserver'), hname.symm.trans (hnames.trans hname')⟩

end Apart

def overlappingSteps : List (RegistryStep String) :=
  [(none, .addPublisherKey "publisher-key" "key"), (none, .register (sampleServer "files")),
    (none, .register (sampleServer "files.archive")),
    (none, .approve "tenant" "files" [sampleSnapshot "files" "archive.read"]),
    (none, .approve "tenant" "files.archive" [sampleSnapshot "files.archive" "read"])]

/-- **Counterexample**: the tool `archive.read` of the server `files` and the tool `read` of the
server `files.archive` have the same identifier. -/
theorem overlapping_tools_share_name : ¬NamedApart (run sampleMcpCodec overlappingSteps) := by
  intro hnamed
  have hfound : (run sampleMcpCodec overlappingSteps).approvedTool "tenant" "files"
        "archive.read" = .ok (sampleSnapshot "files" "archive.read") ∧
      (run sampleMcpCodec overlappingSteps).approvedTool "tenant" "files.archive" "read" =
        .ok (sampleSnapshot "files.archive" "read") := by decide +kernel
  have hservers := (hnamed _ _ _ _ _ _ _ hfound.1 hfound.2 (by decide)).1
  exact absurd hservers (by decide)

end AgentSphere.Mcp
