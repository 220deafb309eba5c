import AgentSphere.Contracts.Authority
import AgentSphere.Lib.Program
import Mathlib.Data.Finset.Card
import Mathlib.Data.List.Dedup
import Mathlib.Order.Bounds.Image
import Mathlib.Tactic.MkIffOfInductiveProp

/-!
# Data labels

Every piece of data carries a label, and what is made of several pieces gets the merge of theirs.
How much a label protects is ordered: by classification, by tags, jurisdictions and restrictions,
and the other way round by confidence. The merge is the least label that protects as much as each
of its inputs.
-/

namespace AgentSphere

open Concurrency

def DataClassification.rank : DataClassification → Nat
  | .publicData => 0
  | .internal => 1
  | .confidential => 2
  | .restricted => 3
  | .regulated => 4

theorem DataClassification.rank_injective : Function.Injective DataClassification.rank := by
  intro a b h
  cases a <;> cases b <;> first | rfl | cases h

instance : LinearOrder DataClassification :=
  LinearOrder.lift' DataClassification.rank DataClassification.rank_injective

namespace DataGovernance

inductive DataError where
  | labelInvalid
  | dlpUnavailable
  | dlpDenied
  | secretDenied
  | flowDenied
  | policyInvalid
  | deploymentInvalid
  | contentInvalid
  | crossDomainInvalid
  | crossDomainReplayed
  deriving DecidableEq, Repr

inductive LabelConfidence where
  | unknown
  | inferred
  | deterministic
  | humanVerified
  deriving DecidableEq, Repr

def LabelConfidence.rank : LabelConfidence → Nat
  | .unknown => 0
  | .inferred => 1
  | .deterministic => 2
  | .humanVerified => 3

theorem LabelConfidence.rank_injective : Function.Injective LabelConfidence.rank := by
  intro a b h
  cases a <;> cases b <;> first | rfl | cases h

instance : LinearOrder LabelConfidence :=
  LinearOrder.lift' LabelConfidence.rank LabelConfidence.rank_injective

structure DataLineageRef where
  sourceId : String
  sourceHash : String
  transformationHashes : List String
  deriving DecidableEq

structure DataLabel where
  schemaVersion : String
  classification : DataClassification
  domainTags : Finset String
  jurisdictions : Finset String
  containsSecret : Bool
  containsPersonalData : Bool
  exportRestricted : Bool
  retentionLabel : String
  confidence : LabelConfidence
  lineage : DataLineageRef
  deriving DecidableEq

def dataSchemaVersion : String := "agenttrust.data-governance.v1"

def IsName (value : String) (maximum : Nat) : Prop :=
  value ≠ "" ∧ value.utf8ByteSize ≤ maximum ∧ value.toList.all isAsciiGraphic = true

instance (value : String) (maximum : Nat) : Decidable (IsName value maximum) :=
  inferInstanceAs (Decidable (_ ∧ _ ∧ _))

def validJurisdiction (value : String) : Prop :=
  value ≠ "" ∧ value.utf8ByteSize ≤ 64 ∧
    value.toList.all (fun c => c.isAlphanum || c == '-' || c == '_') = true

instance (value : String) : Decidable (validJurisdiction value) :=
  inferInstanceAs (Decidable (_ ∧ _ ∧ _))

@[mk_iff]
structure DataLabel.WellFormed (label : DataLabel) : Prop where
  schemaVersion : label.schemaVersion = dataSchemaVersion
  retentionLabel : IsName label.retentionLabel 128
  sourceId : IsName label.lineage.sourceId 512
  sourceHash : isDigest label.lineage.sourceHash = true
  transformations : label.lineage.transformationHashes.length ≤ 1024
  digests : ∀ hash ∈ label.lineage.transformationHashes, isDigest hash = true
  distinct : label.lineage.transformationHashes.toFinset.card =
    label.lineage.transformationHashes.length
  tagCount : label.domainTags.card ≤ 64
  tags : ∀ tag ∈ label.domainTags, IsName tag 256
  jurisdictionsPresent : label.jurisdictions ≠ ∅
  jurisdictionCount : label.jurisdictions.card ≤ 32
  jurisdictions : ∀ jurisdiction ∈ label.jurisdictions, validJurisdiction jurisdiction

@[mk_iff]
structure DataLabel.Consistent (label : DataLabel) : Prop where
  unknown : label.confidence = .unknown → .restricted ≤ label.classification
  secret : label.containsSecret = true →
    .restricted ≤ label.classification ∧ label.exportRestricted = true
  personal : label.containsPersonalData = true →
    label.classification = .regulated ∧ label.exportRestricted = true

instance (label : DataLabel) : Decidable label.WellFormed :=
  decidable_of_iff' _ label.wellFormed_iff

instance (label : DataLabel) : Decidable label.Consistent :=
  decidable_of_iff' _ label.consistent_iff

def validateLabel (label : DataLabel) : Except DataError Unit :=
  require (label.WellFormed ∧ label.Consistent) .labelInvalid

def retentionLabelFor : DataClassification → String
  | .publicData => "PUBLIC_365D"
  | .internal => "INTERNAL_180D"
  | .confidential => "CONFIDENTIAL_90D"
  | .restricted => "RESTRICTED_30D"
  | .regulated => "REGULATED_7D_REVIEW"

structure LabelCodec (Bytes : Type) where
  jcs : List DataLabel → Option Bytes
  sha256 : Bytes → Vector UInt8 32

def hex (bytes : List UInt8) : String :=
  String.ofList (bytes.flatMap fun byte =>
    [Uuid.hexChar ⟨byte.toNat / 16, Nat.div_lt_of_lt_mul byte.toNat_lt⟩,
      Uuid.hexChar ⟨byte.toNat % 16, Nat.mod_lt _ (by decide)⟩])

structure Gathered where
  domainTags : Finset String
  jurisdictions : Finset String
  transforms : List String

namespace LabelPropagator

variable {Bytes : Type}

def gather : List DataLabel → Gathered → Except DataError Gathered
  | [], gathered => .ok gathered
  | label :: labels, gathered => do
    validateLabel label
    require (gathered.transforms.length + label.lineage.transformationHashes.length < 1024)
      .labelInvalid
    gather labels {
      domainTags := gathered.domainTags ∪ label.domainTags
      jurisdictions := gathered.jurisdictions ∪ label.jurisdictions
      transforms := gathered.transforms ++ label.lineage.transformationHashes }

def available {α : Type} : Option α → Except DataError α
  | some a => .ok a
  | none => .error .labelInvalid

def merge (codec : LabelCodec Bytes) (labels : List DataLabel) (transformationHash : String) :
    Except DataError DataLabel := do
  require (labels ≠ [] ∧ labels.length ≤ 64 ∧ isDigest transformationHash = true) .labelInvalid
  let classification ← available (labels.map (·.classification)).max?
  let gathered ← gather labels ⟨∅, ∅, []⟩
  require (gathered.domainTags.card ≤ 64 ∧ gathered.jurisdictions.card ≤ 32 ∧
    gathered.transforms.length < 1024) .labelInvalid
  let transforms := gathered.transforms ++ [transformationHash]
  require (transforms.toFinset.card = transforms.length) .labelInvalid
  let bytes ← available (codec.jcs labels)
  return {
    schemaVersion := dataSchemaVersion
    classification
    domainTags := gathered.domainTags
    jurisdictions := gathered.jurisdictions
    containsSecret := labels.any (·.containsSecret)
    containsPersonalData := labels.any (·.containsPersonalData)
    exportRestricted := labels.any (·.exportRestricted)
    retentionLabel := retentionLabelFor classification
    confidence := (labels.map (·.confidence)).min?.getD .unknown
    lineage := {
      sourceId := "derived"
      sourceHash := hex (codec.sha256 bytes).toList
      transformationHashes := transforms } }

variable {codec : LabelCodec Bytes} {labels labels' : List DataLabel} {merged : DataLabel}
  {transformationHash : String} {gathered gathered' : Gathered}

theorem validateLabel_eq_ok {label : DataLabel} :
    validateLabel label = .ok () ↔ label.WellFormed ∧ label.Consistent :=
  require_eq_ok

theorem available_eq_ok {α : Type} {value : Option α} {a : α} :
    available value = .ok a ↔ value = some a := by
  cases value with
  | none => simp [available]
  | some b => simp [available]

def union (f : DataLabel → Finset String) (labels : List DataLabel) (all : Finset String) :
    Finset String :=
  labels.foldl (fun all label => all ∪ f label) all

theorem mem_union {f : DataLabel → Finset String} {all : Finset String} {x : String} :
    x ∈ union f labels all ↔ x ∈ all ∨ ∃ label ∈ labels, x ∈ f label := by
  unfold union
  induction labels generalizing all with
  | nil => simp
  | cons label labels ih =>
    rw [List.foldl_cons, ih, Finset.mem_union, or_assoc]
    simp

theorem gather_eq_ok (hroom : gathered.transforms.length < 1024) :
    gather labels gathered = .ok gathered' ↔
      (∀ label ∈ labels, validateLabel label = .ok ()) ∧
      (gathered.transforms ++
        labels.flatMap (·.lineage.transformationHashes)).length < 1024 ∧
      gathered' = {
        domainTags := union (·.domainTags) labels gathered.domainTags
        jurisdictions := union (·.jurisdictions) labels gathered.jurisdictions
        transforms := gathered.transforms ++
          labels.flatMap (·.lineage.transformationHashes) } := by
  induction labels generalizing gathered with
  | nil => simp [gather, union, hroom, eq_comm]
  | cons label labels ih =>
    have hgather : gather (label :: labels) gathered = .ok gathered' ↔
        validateLabel label = .ok () ∧
        gathered.transforms.length + label.lineage.transformationHashes.length < 1024 ∧
        gather labels {
          domainTags := gathered.domainTags ∪ label.domainTags
          jurisdictions := gathered.jurisdictions ∪ label.jurisdictions
          transforms := gathered.transforms ++ label.lineage.transformationHashes } =
            .ok gathered' := by
      simp only [gather, except_bind_eq_ok, require_eq_ok, Unique.exists_iff]
    rw [hgather]
    by_cases hfits : gathered.transforms.length + label.lineage.transformationHashes.length < 1024
    · rw [ih (by simpa using hfits)]
      simp only [hfits, true_and, List.mem_cons, forall_eq_or_imp, List.flatMap_cons, union,
        List.foldl_cons, List.append_assoc, and_assoc]
    · refine iff_of_false (fun h => hfits h.2.1) fun h => hfits ?_
      have hlength := h.2.1
      simp only [List.flatMap_cons, List.length_append] at hlength
      omega

theorem toFinset_card_eq_length {hashes : List String} :
    hashes.toFinset.card = hashes.length ↔ hashes.Nodup := by
  rw [List.card_toFinset, ← List.dedup_eq_self]
  exact ⟨fun h => (List.dedup_sublist hashes).eq_of_length h, fun h => by rw [h]⟩

/-- **Inversion**: what holds when labels have been merged, and what the merge is. -/
theorem merge_eq_ok : merge codec labels transformationHash = .ok merged ↔
    (labels ≠ [] ∧ labels.length ≤ 64 ∧ isDigest transformationHash = true) ∧
    ∃ classification, (labels.map (·.classification)).max? = some classification ∧
    (∀ label ∈ labels, validateLabel label = .ok ()) ∧
    (labels.flatMap (·.lineage.transformationHashes)).length < 1024 ∧
    (union (·.domainTags) labels ∅).card ≤ 64 ∧ (union (·.jurisdictions) labels ∅).card ≤ 32 ∧
    (labels.flatMap (·.lineage.transformationHashes) ++ [transformationHash]).Nodup ∧
    ∃ bytes, codec.jcs labels = some bytes ∧
      merged = {
        schemaVersion := dataSchemaVersion
        classification
        domainTags := union (·.domainTags) labels ∅
        jurisdictions := union (·.jurisdictions) labels ∅
        containsSecret := labels.any (·.containsSecret)
        containsPersonalData := labels.any (·.containsPersonalData)
        exportRestricted := labels.any (·.exportRestricted)
        retentionLabel := retentionLabelFor classification
        confidence := (labels.map (·.confidence)).min?.getD .unknown
        lineage := {
          sourceId := "derived"
          sourceHash := hex (codec.sha256 bytes).toList
          transformationHashes :=
            labels.flatMap (·.lineage.transformationHashes) ++ [transformationHash] } } := by
  have hstart : (⟨∅, ∅, []⟩ : Gathered).transforms.length < 1024 := by decide
  simp only [merge, except_bind_eq_ok, require_eq_ok, available_eq_ok, gather_eq_ok hstart,
    Unique.exists_iff, toFinset_card_eq_length]
  constructor
  · rintro ⟨hargs, classification, hmax, gathered, ⟨hvalid, hlength, rfl⟩,
      ⟨htags, hjurisdictions, -⟩, hnodup, bytes, hjcs, hmerged⟩
    exact ⟨hargs, classification, hmax, hvalid, hlength, htags, hjurisdictions, hnodup, bytes, hjcs,
      (Except.ok.inj hmerged).symm⟩
  · rintro ⟨hargs, classification, hmax, hvalid, hlength, htags, hjurisdictions, hnodup, bytes,
      hjcs, rfl⟩
    exact ⟨hargs, classification, hmax, _, ⟨hvalid, hlength, rfl⟩,
      ⟨htags, hjurisdictions, hlength⟩, hnodup, bytes, hjcs, rfl⟩

-- Protection

theorem isDigest_hex (bytes : Vector UInt8 32) : isDigest (hex bytes.toList) = true := by
  have hchars : ∀ c ∈ bytes.toList.flatMap fun byte : UInt8 =>
      [Uuid.hexChar ⟨byte.toNat / 16, Nat.div_lt_of_lt_mul byte.toNat_lt⟩,
        Uuid.hexChar ⟨byte.toNat % 16, Nat.mod_lt _ (by decide)⟩], ∃ d, c = Uuid.hexChar d := by
    intro c hc
    obtain ⟨byte, -, hc⟩ := List.mem_flatMap.mp hc
    simp only [List.mem_cons, List.not_mem_nil, or_false] at hc
    rcases hc with rfl | rfl
    · exact ⟨_, rfl⟩
    · exact ⟨_, rfl⟩
  have hdigit : ∀ d, ((Uuid.hexChar d).isDigit ||
      ('a' ≤ Uuid.hexChar d && Uuid.hexChar d ≤ 'f')) = true := by decide
  rw [isDigest, Bool.and_eq_true]
  refine ⟨?_, ?_⟩
  · rw [beq_iff_eq, hex, Uuid.utf8ByteSize_ofList]
    · simp
    · intro c hc
      obtain ⟨d, rfl⟩ := hchars c hc
      exact Uuid.hexChar_utf8Size d
  · rw [hex, String.toList_ofList, List.all_eq_true]
    intro c hc
    obtain ⟨d, rfl⟩ := hchars c hc
    exact hdigit d

end LabelPropagator

abbrev Protection :=
  DataClassification × Finset String × Finset String × Bool × Bool × Bool × LabelConfidenceᵒᵈ

def DataLabel.protection (label : DataLabel) : Protection :=
  (label.classification, label.domainTags, label.jurisdictions, label.containsSecret,
    label.containsPersonalData, label.exportRestricted, OrderDual.toDual label.confidence)

section Merging

open LabelPropagator

variable {Bytes : Type} {codec : LabelCodec Bytes} {labels labels' : List DataLabel}
  {merged merged' label : DataLabel} {transformationHash : String}

theorem DataLabel.protection_le_iff {label label' : DataLabel} :
    label.protection ≤ label'.protection ↔
      label.classification ≤ label'.classification ∧ label.domainTags ⊆ label'.domainTags ∧
      label.jurisdictions ⊆ label'.jurisdictions ∧
      (label.containsSecret = true → label'.containsSecret = true) ∧
      (label.containsPersonalData = true → label'.containsPersonalData = true) ∧
      (label.exportRestricted = true → label'.exportRestricted = true) ∧
      label'.confidence ≤ label.confidence := by
  simp only [DataLabel.protection, Prod.mk_le_mk, Bool.le_iff_imp]
  rfl

theorem min_confidence (hne : labels ≠ []) : ∃ label ∈ labels,
    (labels.map (·.confidence)).min?.getD .unknown = label.confidence ∧
    ∀ other ∈ labels, label.confidence ≤ other.confidence := by
  cases hmin : (labels.map (·.confidence)).min? with
  | none => exact absurd (List.map_eq_nil_iff.mp (List.min?_eq_none_iff.mp hmin)) hne
  | some confidence =>
    obtain ⟨hmem, hle⟩ := List.min?_eq_some_iff.mp hmin
    obtain ⟨label, hlabel, rfl⟩ := List.mem_map.mp hmem
    exact ⟨label, hlabel, rfl, fun other hother => hle _ (List.mem_map_of_mem hother)⟩

/-- **Protection**: a merge protects as much as every label that goes into it, and no more than
that. -/
theorem merge_isLUB (h : merge codec labels transformationHash = .ok merged) :
    IsLUB { protection | ∃ label ∈ labels, label.protection = protection } merged.protection := by
  obtain ⟨⟨hne, -⟩, classification, hmax, -, -, -, -, -, bytes, -, rfl⟩ := merge_eq_ok.mp h
  obtain ⟨hmem, hle⟩ := List.max?_eq_some_iff.mp hmax
  obtain ⟨least, hleast, hmin, hlowest⟩ := min_confidence hne
  obtain ⟨highest, hhighest, rfl⟩ := List.mem_map.mp hmem
  constructor
  · rintro _ ⟨label, hlabel, rfl⟩
    refine DataLabel.protection_le_iff.mpr
      ⟨hle _ (List.mem_map_of_mem hlabel), ?_, ?_, ?_, ?_, ?_, ?_⟩
    · exact fun tag htag => mem_union.mpr (.inr ⟨label, hlabel, htag⟩)
    · exact fun jurisdiction hin => mem_union.mpr (.inr ⟨label, hlabel, hin⟩)
    · exact fun hsecret => List.any_eq_true.mpr ⟨label, hlabel, hsecret⟩
    · exact fun hpersonal => List.any_eq_true.mpr ⟨label, hlabel, hpersonal⟩
    · exact fun hexport => List.any_eq_true.mpr ⟨label, hlabel, hexport⟩
    · exact hmin.trans_le (hlowest label hlabel)
  · rintro ⟨classification, tags, jurisdictions, secret, personal, export_, confidence⟩ hbound
    have hparts : ∀ label ∈ labels, label.classification ≤ classification ∧
        label.domainTags ⊆ tags ∧ label.jurisdictions ⊆ jurisdictions ∧
        (label.containsSecret = true → secret = true) ∧
        (label.containsPersonalData = true → personal = true) ∧
        (label.exportRestricted = true → export_ = true) ∧
        OrderDual.toDual label.confidence ≤ confidence := by
      intro label hlabel
      have hlabel' := hbound ⟨label, hlabel, rfl⟩
      simpa only [DataLabel.protection, Prod.mk_le_mk, Bool.le_iff_imp] using hlabel'
    simp only [DataLabel.protection, Prod.mk_le_mk, Bool.le_iff_imp, List.any_eq_true]
    refine ⟨(hparts highest hhighest).1, ?_, ?_, ?_, ?_, ?_, ?_⟩
    · intro tag htag
      obtain hnone | ⟨label, hlabel, htag⟩ := mem_union.mp htag
      · exact absurd hnone (Finset.notMem_empty tag)
      · exact (hparts label hlabel).2.1 htag
    · intro jurisdiction hin
      obtain hnone | ⟨label, hlabel, hin⟩ := mem_union.mp hin
      · exact absurd hnone (Finset.notMem_empty jurisdiction)
      · exact (hparts label hlabel).2.2.1 hin
    · rintro ⟨label, hlabel, hsecret⟩
      exact (hparts label hlabel).2.2.2.1 hsecret
    · rintro ⟨label, hlabel, hpersonal⟩
      exact (hparts label hlabel).2.2.2.2.1 hpersonal
    · rintro ⟨label, hlabel, hexport⟩
      exact (hparts label hlabel).2.2.2.2.2.1 hexport
    · rw [hmin]
      exact (hparts least hleast).2.2.2.2.2.2

theorem isName_retentionLabelFor (classification : DataClassification) :
    IsName (retentionLabelFor classification) 128 := by
  cases classification <;> decide

theorem le_regulated (classification : DataClassification) :
    classification ≤ .regulated := by
  cases classification <;> decide

/-- **Validity**: a merge is a valid label. -/
theorem merge_valid (h : merge codec labels transformationHash = .ok merged) :
    validateLabel merged = .ok () := by
  obtain ⟨hupper, -⟩ := merge_isLUB h
  obtain ⟨⟨hne, -, hdigest⟩, classification, hmax, hvalid, hlength, htags, hjurisdictions, hnodup,
    bytes, -, rfl⟩ := merge_eq_ok.mp h
  have hinput : ∀ label ∈ labels, label.WellFormed ∧ label.Consistent :=
    fun label hlabel => validateLabel_eq_ok.mp (hvalid label hlabel)
  have hbelow := fun label (hlabel : label ∈ labels) =>
    DataLabel.protection_le_iff.mp (hupper ⟨label, hlabel, rfl⟩)
  refine validateLabel_eq_ok.mpr ⟨?_, ?_⟩
  · have hsource : IsName "derived" 512 := by decide
    refine ⟨rfl, isName_retentionLabelFor _, hsource, isDigest_hex _, ?_, ?_, ?_, htags, ?_, ?_,
      hjurisdictions, ?_⟩
    · simp only [List.length_append, List.length_singleton]
      omega
    · intro hash hhash
      obtain hold | hnew := List.mem_append.mp hhash
      · obtain ⟨label, hlabel, hin⟩ := List.mem_flatMap.mp hold
        exact (hinput label hlabel).1.digests hash hin
      · obtain rfl := List.mem_singleton.mp hnew
        exact hdigest
    · exact toFinset_card_eq_length.mpr hnodup
    · intro tag htag
      obtain hnone | ⟨label, hlabel, hin⟩ := mem_union.mp htag
      · exact absurd hnone (Finset.notMem_empty tag)
      · exact (hinput label hlabel).1.tags tag hin
    · obtain ⟨label, labels, rfl⟩ := List.exists_cons_of_ne_nil hne
      have hpresent := (hinput label List.mem_cons_self).1.jurisdictionsPresent
      obtain ⟨jurisdiction, hin⟩ := Finset.nonempty_iff_ne_empty.mpr hpresent
      exact Finset.ne_empty_of_mem ((hbelow label List.mem_cons_self).2.2.1 hin)
    · intro jurisdiction hjurisdiction
      obtain hnone | ⟨label, hlabel, hin⟩ := mem_union.mp hjurisdiction
      · exact absurd hnone (Finset.notMem_empty jurisdiction)
      · exact (hinput label hlabel).1.jurisdictions jurisdiction hin
  · obtain ⟨least, hleast, hmin, -⟩ := min_confidence hne
    constructor
    · intro hunknown
      have hsource : least.confidence = .unknown := hmin.symm.trans hunknown
      exact ((hinput least hleast).2.unknown hsource).trans (hbelow least hleast).1
    · intro hsecret
      obtain ⟨label, hlabel, hlabelSecret⟩ := List.any_eq_true.mp hsecret
      obtain ⟨hrestricted, hexport⟩ := (hinput label hlabel).2.secret hlabelSecret
      exact ⟨hrestricted.trans (hbelow label hlabel).1, (hbelow label hlabel).2.2.2.2.2.1 hexport⟩
    · intro hpersonal
      obtain ⟨label, hlabel, hlabelPersonal⟩ := List.any_eq_true.mp hpersonal
      obtain ⟨hregulated, hexport⟩ := (hinput label hlabel).2.personal hlabelPersonal
      refine ⟨?_, (hbelow label hlabel).2.2.2.2.2.1 hexport⟩
      have hle : label.classification ≤ classification := (hbelow label hlabel).1
      rw [hregulated] at hle
      exact le_antisymm (le_regulated _) hle

theorem protection_eq_of_bounds {first second : List DataLabel} {hash hash' : String}
    (h : merge codec first hash = .ok merged) (h' : merge codec second hash' = .ok merged')
    (hbounds : ∀ bound : Protection, (∀ label ∈ first, label.protection ≤ bound) ↔
      ∀ label ∈ second, label.protection ≤ bound) : merged.protection = merged'.protection := by
  have hupper : ∀ (labels : List DataLabel) (bound : Protection),
      bound ∈ upperBounds { protection | ∃ label ∈ labels, label.protection = protection } ↔
        ∀ label ∈ labels, label.protection ≤ bound :=
    fun labels bound => ⟨fun hbound label hlabel => hbound ⟨label, hlabel, rfl⟩, by
      rintro hbound _ ⟨label, hlabel, rfl⟩
      exact hbound label hlabel⟩
  refine (merge_isLUB h).unique ⟨?_, fun bound hbound => (merge_isLUB h').2 ?_⟩
  · exact (hupper first _).mpr ((hbounds _).mpr ((hupper second _).mp (merge_isLUB h').1))
  · exact (hupper second _).mpr ((hbounds _).mp ((hupper first _).mp hbound))

theorem merge_fields {first second : List DataLabel} {hash hash' : String}
    (h : merge codec first hash = .ok merged) (h' : merge codec second hash' = .ok merged')
    (hsame : merged.protection = merged'.protection) :
    { merged' with lineage := merged.lineage } = merged := by
  obtain ⟨-, classification, -, -, -, -, -, -, bytes, -, hmerged⟩ := merge_eq_ok.mp h
  obtain ⟨-, classification', -, -, -, -, -, -, bytes', -, hmerged'⟩ := merge_eq_ok.mp h'
  have hschema : merged'.schemaVersion = merged.schemaVersion := by rw [hmerged, hmerged']
  have hretention : merged.retentionLabel = retentionLabelFor merged.classification := by
    rw [hmerged]
  have hretention' : merged'.retentionLabel = retentionLabelFor merged'.classification := by
    rw [hmerged']
  simp only [DataLabel.protection, Prod.mk.injEq, EmbeddingLike.apply_eq_iff_eq] at hsame
  obtain ⟨hclassification, htags, hjurisdictions, hsecret, hpersonal, hexport, hconfidence⟩ := hsame
  rw [← hclassification, ← hretention] at hretention'
  cases merged
  cases merged'
  simp only [DataLabel.mk.injEq, and_true]
  exact ⟨hschema, hclassification.symm, htags.symm, hjurisdictions.symm, hsecret.symm,
    hpersonal.symm, hexport.symm, hretention', hconfidence.symm⟩

theorem merge_perm (h : merge codec labels transformationHash = .ok merged)
    (hperm : labels'.Perm labels) {bytes : Bytes} (hjcs : codec.jcs labels' = some bytes) :
    ∃ merged', merge codec labels' transformationHash = .ok merged' := by
  obtain ⟨⟨hne, hcount, hdigest⟩, classification, hmax, hvalid, hlength, htags, hjurisdictions,
    hnodup, -⟩ := merge_eq_ok.mp h
  have hhashes := hperm.flatMap_right (·.lineage.transformationHashes)
  have hunion : ∀ f, union f labels' ∅ = union f labels ∅ := by
    intro f
    ext tag
    simp only [mem_union, hperm.mem_iff]
  refine ⟨_, merge_eq_ok.mpr
    ⟨⟨?_, ?_, hdigest⟩, classification, ?_, ?_, ?_, ?_, ?_, ?_, bytes, hjcs, rfl⟩⟩
  · rintro rfl
    exact hne hperm.nil_eq.symm
  · rw [hperm.length_eq]
    exact hcount
  · rw [List.max?_eq_some_iff] at hmax ⊢
    simpa only [(hperm.map _).mem_iff] using hmax
  · exact fun label hlabel => hvalid label (hperm.mem_iff.mp hlabel)
  · rw [hhashes.length_eq]
    exact hlength
  · rw [hunion]
    exact htags
  · rw [hunion]
    exact hjurisdictions
  · exact ((hhashes.append_right _).nodup_iff).mpr hnodup

theorem merge_lineage (h : merge codec labels transformationHash = .ok merged) :
    merged.lineage.transformationHashes.Nodup ∧
    transformationHash ∈ merged.lineage.transformationHashes ∧
    ∀ label ∈ labels, label.lineage.transformationHashes ⊆ merged.lineage.transformationHashes := by
  obtain ⟨-, classification, -, -, -, -, -, hnodup, bytes, -, rfl⟩ := merge_eq_ok.mp h
  refine ⟨hnodup, List.mem_append_right _ List.mem_cons_self, fun label hlabel hash hhash => ?_⟩
  exact List.mem_append_left _ (List.mem_flatMap.mpr ⟨label, hlabel, hhash⟩)

/-- **Propagation never lowers protection**: a merge protects at least as much as its inputs, has
all of their lineage, and does not depend on their order. -/
theorem merge_protects (h : merge codec labels transformationHash = .ok merged) :
    validateLabel merged = .ok () ∧
    (∀ label ∈ labels,
      label.classification ≤ merged.classification ∧ label.domainTags ⊆ merged.domainTags ∧
      label.jurisdictions ⊆ merged.jurisdictions ∧
      (label.containsSecret = true → merged.containsSecret = true) ∧
      (label.containsPersonalData = true → merged.containsPersonalData = true) ∧
      (label.exportRestricted = true → merged.exportRestricted = true) ∧
      merged.confidence ≤ label.confidence) ∧
    (merged.lineage.transformationHashes.Nodup ∧
      transformationHash ∈ merged.lineage.transformationHashes ∧
      ∀ label ∈ labels,
        label.lineage.transformationHashes ⊆ merged.lineage.transformationHashes) ∧
    (∀ labels' : List DataLabel, labels'.Perm labels →
      ((codec.jcs labels').isSome → ∃ merged', merge codec labels' transformationHash =
        .ok merged') ∧
      ∀ merged', merge codec labels' transformationHash = .ok merged' →
        { merged' with lineage := merged.lineage } = merged) ∧
    ∀ (further partly whole : List DataLabel) (hash hash' : String) (nested flat : DataLabel),
      partly.Perm (merged :: further) → merge codec partly hash = .ok nested →
      whole.Perm (labels ++ further) → merge codec whole hash' = .ok flat →
        nested.protection = flat.protection := by
  refine ⟨merge_valid h, ?_, merge_lineage h, ?_, ?_⟩
  · intro label hlabel
    exact DataLabel.protection_le_iff.mp ((merge_isLUB h).1 ⟨label, hlabel, rfl⟩)
  · intro labels' hperm
    refine ⟨fun hsome => ?_, fun merged' hmerged' => ?_⟩
    · obtain ⟨bytes, hjcs⟩ := Option.isSome_iff_exists.mp hsome
      exact merge_perm h hperm hjcs
    · refine merge_fields h hmerged' (protection_eq_of_bounds h hmerged' fun bound => ?_)
      simp only [hperm.mem_iff]
  · intro further partly whole hash hash' nested flat hpartly hnested hwhole hflat
    refine protection_eq_of_bounds hnested hflat fun bound => ?_
    have hmerged : merged.protection ≤ bound ↔ ∀ label ∈ labels, label.protection ≤ bound := by
      rw [isLUB_le_iff (merge_isLUB h)]
      exact ⟨fun hbound label hlabel => hbound ⟨label, hlabel, rfl⟩, by
        rintro hbound _ ⟨label, hlabel, rfl⟩
        exact hbound label hlabel⟩
    simp only [hpartly.mem_iff, hwhole.mem_iff, List.forall_mem_cons, List.forall_mem_append,
      hmerged]

end Merging

-- A sample merge

def sampleCodec : LabelCodec Unit := ⟨fun _ => some (), fun _ => Vector.replicate 32 0⟩

def sampleLabel (classification : DataClassification) (tag : String) (hash : Char) : DataLabel where
  schemaVersion := dataSchemaVersion
  classification
  domainTags := {tag}
  jurisdictions := {"CN"}
  containsSecret := false
  containsPersonalData := false
  exportRestricted := false
  retentionLabel := "default"
  confidence := .deterministic
  lineage := ⟨"source", sampleHash '0', [sampleHash hash]⟩

def sampleMerge : Except DataError DataLabel :=
  LabelPropagator.merge sampleCodec
    [sampleLabel .internal "a" '1', sampleLabel .confidential "b" '2'] (sampleHash '3')

/-- A merge at two concrete labels. -/
theorem merge_protects_sample : ∃ merged, sampleMerge = .ok merged ∧
    validateLabel merged = .ok () ∧ .confidential ≤ merged.classification := by
  obtain ⟨merged, hmerged⟩ : ∃ merged, sampleMerge = .ok merged := by
    have hok : sampleMerge.toOption.isSome = true := by decide
    cases h : sampleMerge with
    | ok merged => exact ⟨merged, rfl⟩
    | error e =>
      rw [h] at hok
      cases hok
  obtain ⟨hvalid, hcovers, -⟩ := merge_protects hmerged
  exact ⟨merged, hmerged, hvalid, (hcovers (sampleLabel .confidential "b" '2') (by simp)).1⟩

end DataGovernance

end AgentSphere
