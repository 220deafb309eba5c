import AgentSphere.Contracts.Basic
import AgentSphere.Lib.Program
import AgentSphere.Lib.Separated

/-!
# Assets of the agent registry

An asset is registered under its tenant and identifier. A later registration under them succeeds,
without being stored, if it has the digest of components and the ownership of the first one.
-/

namespace AgentSphere.Posture

open Concurrency Separated

def agentRegistrySchemaVersion : String := "agenttrust.agent-registry.v1"

inductive RegistryError where
  | configurationInvalid
  | assetInvalid
  | registrationConflict
  | capacityExceeded
  | relationshipInvalid
  | queryDenied
  deriving DecidableEq, Repr

structure Ownership where
  ownerSubject : String
  sponsorSubject : String
  confirmedAt : DateTime
  reviewDueAt : DateTime
  deriving DecidableEq

structure AgentBom where
  schemaVersion : String
  agentId : String
  components : BTreeMap String String
  bomDigest : String

structure AgentAsset where
  schemaVersion : String
  tenantId : TenantId
  agentId : String
  displayName : String
  ownership : Ownership
  environment : String
  agentType : String
  endpoints : BTreeSet String
  identityRefs : BTreeSet String
  toolRefs : BTreeSet String
  packRefs : BTreeSet String
  requestedPermissions : BTreeSet String
  approvedPermissions : BTreeSet String
  bom : AgentBom

structure AgentRegistry where
  maximumAssets : Nat
  assets : BTreeMap (TenantId × String) AgentAsset

def joined (components : BTreeMap String String) : String :=
  "\n".intercalate (components.toList.map fun component => component.1 ++ ":" ++ component.2)

def AgentBom.computeDigest (sha256 : String → String) (bom : AgentBom) : String :=
  sha256 (joined bom.components)

def validateAsset (sha256 : String → String) (asset : AgentAsset) : Except RegistryError Unit :=
  require (asset.schemaVersion = agentRegistrySchemaVersion ∧ asset.agentId ≠ "" ∧
    asset.displayName ≠ "" ∧ asset.ownership.ownerSubject ≠ "" ∧
    asset.ownership.sponsorSubject ≠ "" ∧
    asset.ownership.confirmedAt < asset.ownership.reviewDueAt ∧ asset.environment ≠ "" ∧
    asset.agentType ≠ "" ∧ asset.endpoints.isEmpty = false ∧ asset.identityRefs.isEmpty = false ∧
    asset.bom.schemaVersion = agentRegistrySchemaVersion ∧ asset.bom.agentId = asset.agentId ∧
    asset.bom.components.isEmpty = false ∧
    asset.bom.computeDigest sha256 = asset.bom.bomDigest) .assetInvalid

def AgentRegistry.register (sha256 : String → String) (registry : AgentRegistry)
    (asset : AgentAsset) : Except RegistryError (AgentAsset × AgentRegistry) := do
  validateAsset sha256 asset
  match registry.assets[(asset.tenantId, asset.agentId)]? with
  | some existing =>
    require (existing.bom.bomDigest = asset.bom.bomDigest ∧
      existing.ownership = asset.ownership) .registrationConflict
    pure (existing, registry)
  | none =>
    require (registry.assets.size < registry.maximumAssets) .capacityExceeded
    pure (asset, { registry with
      assets := registry.assets.insert (asset.tenantId, asset.agentId) asset })

@[mk_iff] structure Governs (stored asset : AgentAsset) : Prop where
  requested : stored.requestedPermissions = asset.requestedPermissions
  approved : stored.approvedPermissions = asset.approvedPermissions
  tools : stored.toolRefs = asset.toolRefs
  packs : stored.packRefs = asset.packRefs
  identities : stored.identityRefs = asset.identityRefs
  endpoints : stored.endpoints = asset.endpoints
  environment : stored.environment = asset.environment
  kind : stored.agentType = asset.agentType
  components : stored.bom.components = asset.bom.components

theorem Governs.refl (asset : AgentAsset) : Governs asset asset :=
  ⟨rfl, rfl, rfl, rfl, rfl, rfl, rfl, rfl, rfl⟩

-- Registrations

variable {sha256 : String → String} {registry after : AgentRegistry}
  {asset returned existing : AgentAsset}

theorem register_ok (h : registry.register sha256 asset = .ok (returned, after)) :
    after.assets[(asset.tenantId, asset.agentId)]? =
      some ((registry.assets[(asset.tenantId, asset.agentId)]?).getD asset) := by
  obtain ⟨-, -, h⟩ := except_bind_eq_ok.mp h
  cases hexisting : registry.assets[(asset.tenantId, asset.agentId)]? with
  | some existing =>
    rw [hexisting] at h
    obtain ⟨-, -, h⟩ := except_bind_eq_ok.mp h
    cases h
    exact hexisting
  | none =>
    rw [hexisting] at h
    obtain ⟨-, -, h⟩ := except_bind_eq_ok.mp h
    cases h
    simp

theorem register_existing (hvalid : validateAsset sha256 asset = .ok ())
    (hexisting : registry.assets[(asset.tenantId, asset.agentId)]? = some existing)
    (hdigest : existing.bom.bomDigest = asset.bom.bomDigest)
    (howner : existing.ownership = asset.ownership) :
    registry.register sha256 asset = .ok (existing, registry) := by
  refine except_bind_eq_ok.mpr ⟨(), hvalid, ?_⟩
  rw [hexisting]
  exact except_bind_eq_ok.mpr ⟨(), require_eq_ok.mpr ⟨hdigest, howner⟩, rfl⟩

/-- Every success leaves what was submitted exactly if no stored asset with the same digest and
ownership differs from it. -/
theorem register_governs_iff :
    (∀ returned after, registry.register sha256 asset = .ok (returned, after) →
      ∃ stored, after.assets[(asset.tenantId, asset.agentId)]? = some stored ∧
        Governs stored asset) ↔
    (validateAsset sha256 asset = .ok () →
      ∀ existing, registry.assets[(asset.tenantId, asset.agentId)]? = some existing →
        existing.bom.bomDigest = asset.bom.bomDigest → existing.ownership = asset.ownership →
        Governs existing asset) := by
  constructor
  · intro h hvalid existing hexisting hdigest howner
    obtain ⟨stored, hstored, hgoverns⟩ :=
      h _ _ (register_existing hvalid hexisting hdigest howner)
    rw [hexisting] at hstored
    cases hstored
    exact hgoverns
  · intro h returned after hok
    have hstored := register_ok hok
    refine ⟨_, hstored, ?_⟩
    obtain ⟨_, hvalid, hok⟩ := except_bind_eq_ok.mp hok
    cases hexisting : registry.assets[(asset.tenantId, asset.agentId)]? with
    | none => exact Governs.refl asset
    | some existing =>
      rw [hexisting] at hok
      obtain ⟨_, hsame, -⟩ := except_bind_eq_ok.mp hok
      rw [require_eq_ok] at hsame
      exact h hvalid existing hexisting hsame.1 hsame.2

-- Digests

variable {components other : BTreeMap String String} {kind digest : String}

theorem toList_joined (components : BTreeMap String String) : (joined components).toList =
    ['\n'].intercalate (components.toList.map fun component =>
      component.1.toList ++ ':' :: component.2.toList) := by
  rw [joined, String.toList_intercalate, List.map_map]
  refine congrArg _ (List.map_congr_left fun component _ => ?_)
  simp

theorem joined_eq_cons (h : components.isEmpty = false) : ∃ kind digest rest,
    components.toList = (kind, digest) :: rest ∧
      (joined components).toList = kind.toList ++ ':' :: (digest.toList ++
        rest.flatMap fun component =>
          '\n' :: (component.1.toList ++ ':' :: component.2.toList)) := by
  have hne : components.toList ≠ [] := by
    rw [← List.isEmpty_eq_false_iff, Std.ExtTreeMap.isEmpty_toList, h]
  obtain ⟨⟨kind, digest⟩, rest, hlist⟩ := List.exists_cons_of_ne_nil hne
  refine ⟨kind, digest, rest, hlist, ?_⟩
  rw [toList_joined, hlist, List.map_cons, intercalate_cons_flatMap, List.flatMap_map]
  simp

def single (kind digest : String) : BTreeMap String String :=
  (∅ : BTreeMap String String).insert kind digest

theorem toList_single : (single kind digest).toList = [(kind, digest)] := rfl

theorem joined_single : (joined (single kind digest)).toList =
    kind.toList ++ ':' :: digest.toList := by
  rw [toList_joined, toList_single]
  simp

theorem exists_other_cut {before after : List Char} (h : ':' ∈ before ∨ ':' ∈ after) :
    ∃ before' after', before' ≠ before ∧
      before' ++ ':' :: after' = before ++ ':' :: after := by
  rcases h with h | h
  · obtain ⟨start, rest, rfl⟩ := List.append_of_mem h
    refine ⟨start, rest ++ ':' :: after, ?_, by simp⟩
    intro heq
    simpa using congrArg List.length heq
  · obtain ⟨start, rest, rfl⟩ := List.append_of_mem h
    refine ⟨before ++ ':' :: start, rest, ?_, by simp⟩
    intro heq
    simpa using congrArg List.length heq

theorem exists_other_single (h : components.isEmpty = false)
    (hmany : ¬ ∃ kind digest, components.toList = [(kind, digest)] ∧ ':' ∉ kind.toList ∧
      ':' ∉ digest.toList) :
    ∃ kind digest, joined (single kind digest) = joined components ∧
      single kind digest ≠ components := by
  obtain ⟨kind, digest, rest, hlist, htext⟩ := joined_eq_cons h
  by_cases hrest : rest = []
  · subst hrest
    have hcolon : ':' ∈ kind.toList ∨ ':' ∈ digest.toList := by
      by_contra hfree
      rw [not_or] at hfree
      exact hmany ⟨kind, digest, hlist, hfree⟩
    obtain ⟨before, after, hne, hcut⟩ := exists_other_cut hcolon
    refine ⟨String.ofList before, String.ofList after, String.toList_inj.mp ?_, fun heq => ?_⟩
    · rw [joined_single, String.toList_ofList, String.toList_ofList, hcut, htext]
      simp
    · rw [← heq, toList_single] at hlist
      cases hlist
      exact hne String.toList_ofList.symm
  · refine ⟨kind, String.ofList (digest.toList ++ rest.flatMap fun component =>
      '\n' :: (component.1.toList ++ ':' :: component.2.toList)), String.toList_inj.mp ?_,
      fun heq => ?_⟩
    · rw [joined_single, String.toList_ofList, htext]
    · rw [← heq, toList_single, List.cons.injEq] at hlist
      exact hrest hlist.2.symm

theorem eq_single_of_joined (hlist : components.toList = [(kind, digest)])
    (hkind : ':' ∉ kind.toList) (hdigest : ':' ∉ digest.toList) (hother : other.isEmpty = false)
    (htext : joined other = joined components) : other = components := by
  obtain ⟨kind', digest', rest, hlist', htext'⟩ := joined_eq_cons hother
  have hcomponents : components = single kind digest := Std.ExtTreeMap.toList_inj.mp hlist
  rw [htext, hcomponents, joined_single, List.append_cons_inj_of_notMem hkind hdigest] at htext'
  obtain ⟨hkinds, -, hdigests⟩ := htext'
  have hrest : rest = [] := by
    by_contra hne
    obtain ⟨component, rest, rfl⟩ := List.exists_cons_of_ne_nil hne
    rw [hdigests] at hdigest
    exact hdigest (by simp)
  subst hrest
  rw [List.flatMap_nil, List.append_nil] at hdigests
  rw [String.toList_inj.mp hkinds, String.toList_inj.mp hdigests] at hcomponents
  rw [hcomponents]
  exact Std.ExtTreeMap.toList_inj.mp hlist'

theorem valid_of_joined (hvalid : validateAsset sha256 asset = .ok ())
    (hother : other.isEmpty = false) (htext : joined other = joined asset.bom.components) :
    validateAsset sha256 { asset with bom := { asset.bom with components := other } } =
      .ok () := by
  unfold validateAsset at hvalid ⊢
  rw [require_eq_ok] at hvalid ⊢
  obtain ⟨hschema, hagent, hname, howner, hsponsor, hdue, henvironment, hkind, hendpoints,
    hidentities, hbom, hsame, -, hdigest⟩ := hvalid
  refine ⟨hschema, hagent, hname, howner, hsponsor, hdue, henvironment, hkind, hendpoints,
    hidentities, hbom, hsame, hother, ?_⟩
  rw [← hdigest, AgentBom.computeDigest, AgentBom.computeDigest, htext]

/-- **Registrations and digests**: a success leaves what was submitted, and the digest is that of no
other components, exactly in these cases. -/
theorem registration_iff (sha256 : String → String) (hinj : Function.Injective sha256) :
    (∀ (registry : AgentRegistry) (asset : AgentAsset),
      (∀ returned after, registry.register sha256 asset = .ok (returned, after) →
        ∃ stored, after.assets[(asset.tenantId, asset.agentId)]? = some stored ∧
          Governs stored asset) ↔
      (validateAsset sha256 asset = .ok () →
        ∀ existing, registry.assets[(asset.tenantId, asset.agentId)]? = some existing →
          existing.bom.bomDigest = asset.bom.bomDigest → existing.ownership = asset.ownership →
          Governs existing asset)) ∧
    ∀ asset : AgentAsset, validateAsset sha256 asset = .ok () →
      ((∀ other : AgentAsset, validateAsset sha256 other = .ok () →
        other.bom.computeDigest sha256 = asset.bom.computeDigest sha256 →
          other.bom.components = asset.bom.components) ↔
      ∃ kind digest, asset.bom.components.toList = [(kind, digest)] ∧ ':' ∉ kind.toList ∧
        ':' ∉ digest.toList) := by
  have hnonempty : ∀ {asset : AgentAsset}, validateAsset sha256 asset = .ok () →
      asset.bom.components.isEmpty = false := by
    intro asset hvalid
    unfold validateAsset at hvalid
    rw [require_eq_ok] at hvalid
    exact hvalid.2.2.2.2.2.2.2.2.2.2.2.2.1
  refine ⟨fun registry asset => register_governs_iff, fun asset hvalid => ⟨?_, ?_⟩⟩
  · intro h
    by_contra hmany
    obtain ⟨kind, digest, htext, hne⟩ := exists_other_single (hnonempty hvalid) hmany
    have hsingle : (single kind digest).isEmpty = false := by simp [single]
    have hother := valid_of_joined hvalid hsingle htext
    exact hne (h _ hother (congrArg sha256 htext))
  · rintro ⟨kind, digest, hlist, hkind, hdigest⟩ other hother hsame
    exact eq_single_of_joined hlist hkind hdigest (hnonempty hother) (hinj hsame)

-- Samples

def sampleAsset (sha256 : String → String) (permissions : BTreeSet String)
    (kind digest : String) : AgentAsset where
  schemaVersion := agentRegistrySchemaVersion
  tenantId := "tenant-1"
  agentId := "agent-1"
  displayName := "Agent"
  ownership := ⟨"owner", "sponsor", 0, 1⟩
  environment := "production"
  agentType := "assistant"
  endpoints := (∅ : BTreeSet String).insert "https://agent-1"
  identityRefs := (∅ : BTreeSet String).insert "identity-1"
  toolRefs := ∅
  packRefs := ∅
  requestedPermissions := permissions
  approvedPermissions := permissions
  bom := {
    schemaVersion := agentRegistrySchemaVersion
    agentId := "agent-1"
    components := single kind digest
    bomDigest := sha256 (kind ++ ":" ++ digest) }

theorem sampleAsset_valid (sha256 : String → String) (permissions : BTreeSet String)
    (kind digest : String) :
    validateAsset sha256 (sampleAsset sha256 permissions kind digest) = .ok () := by
  have hdigest : joined (single kind digest) = kind ++ ":" ++ digest := by
    rw [← String.toList_inj, joined_single]
    simp
  refine require_eq_ok.mpr ⟨rfl, by simp [sampleAsset], by simp [sampleAsset],
    by simp [sampleAsset], by simp [sampleAsset], by simp [sampleAsset], by simp [sampleAsset],
    by simp [sampleAsset], by simp [sampleAsset], by simp [sampleAsset], rfl, rfl,
    by simp [sampleAsset, single], congrArg sha256 hdigest⟩

def sampleSha256 (value : String) : String :=
  if value = "model:m1" then "dfc51c3f0f15aac2a946296ed6d02578a0aa3f88836c0932394e558cc50c8bc2"
  else "." ++ value

theorem sampleSha256_injective : Function.Injective sampleSha256 := by
  have hdot : ∀ value : String,
      "." ++ value ≠ "dfc51c3f0f15aac2a946296ed6d02578a0aa3f88836c0932394e558cc50c8bc2" := by
    intro value heq
    have hhead := congrArg (fun text => text.toList.head?) heq
    rw [String.toList_append] at hhead
    cases hhead
  intro value other h
  unfold sampleSha256 at h
  split_ifs at h with hvalue hother hother
  · rw [hvalue, hother]
  · exact absurd h.symm (hdot other)
  · exact absurd h (hdot value)
  · exact String.toList_inj.mp (by simpa using congrArg String.toList h)

theorem registration_sample :
    validateAsset sampleSha256 (sampleAsset sampleSha256 ∅ "model" "m1") = .ok () ∧
    ∀ other, validateAsset sampleSha256 other = .ok () →
      other.bom.computeDigest sampleSha256 =
        (sampleAsset sampleSha256 ∅ "model" "m1").bom.computeDigest sampleSha256 →
      other.bom.components = (sampleAsset sampleSha256 ∅ "model" "m1").bom.components :=
  ⟨sampleAsset_valid sampleSha256 ∅ "model" "m1",
    ((registration_iff sampleSha256 sampleSha256_injective).2 _
      (sampleAsset_valid sampleSha256 ∅ "model" "m1")).mpr
      ⟨"model", "m1", rfl, by decide, by decide⟩⟩

/-- With any hash, a registration with other permissions succeeds, and two components have one
digest. -/
theorem registration_unnoticed : ¬ ∃ sha256 : String → String,
    (∀ (registry : AgentRegistry) (asset returned : AgentAsset) (after : AgentRegistry),
      registry.register sha256 asset = .ok (returned, after) →
        ∃ stored, after.assets[(asset.tenantId, asset.agentId)]? = some stored ∧
          Governs stored asset) ∨
    ∀ asset other : AgentAsset, validateAsset sha256 asset = .ok () →
      validateAsset sha256 other = .ok () →
      other.bom.computeDigest sha256 = asset.bom.computeDigest sha256 →
        other.bom.components = asset.bom.components := by
  rintro ⟨sha256, h | h⟩
  · have hkey : ((∅ : BTreeMap (TenantId × String) AgentAsset).insert ("tenant-1", "agent-1")
        (sampleAsset sha256 ∅ "model" "m1"))[("tenant-1", "agent-1")]? =
        some (sampleAsset sha256 ∅ "model" "m1") := by simp
    obtain ⟨stored, hstored, hgoverns⟩ := h ⟨10, _⟩
      (sampleAsset sha256 ((∅ : BTreeSet String).insert "pay") "model" "m1") _ _
      (register_existing (sampleAsset_valid sha256 _ "model" "m1") hkey rfl rfl)
    rw [show stored = sampleAsset sha256 ∅ "model" "m1" from
      Option.some.inj (hstored.symm.trans hkey)] at hgoverns
    have hsize := congrArg Std.ExtTreeSet.size hgoverns.requested
    cases hsize
  · have hcomponents := h _ _ (sampleAsset_valid sha256 ∅ "model" "m1:x")
      (sampleAsset_valid sha256 ∅ "model:m1" "x") (congrArg sha256 ?_)
    · have hentries := congrArg Std.ExtTreeMap.toList hcomponents
      have hkinds : ["model:m1".length] = ["model".length] :=
        congrArg (fun entries => entries.map fun entry => entry.1.length) hentries
      exact absurd hkinds (by decide)
    · rw [← String.toList_inj]
      exact joined_single.trans joined_single.symm

end AgentSphere.Posture
