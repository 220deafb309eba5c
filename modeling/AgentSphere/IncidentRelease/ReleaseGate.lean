import AgentSphere.IncidentRelease.Incidents

/-!
# The release gate

The gate looks at the first item of evidence of each required control and signs a certificate if
all of these are good. Whatever else is given for a control is not looked at, and ages are compared
in whole seconds, towards zero.
-/

namespace AgentSphere.IncidentRelease

open Concurrency

structure ReleaseGateDefinition where
  schemaVersion : String
  gateId : String
  version : String
  requiredControls : BTreeSet String
  maximumEvidenceAgeSeconds : Nat
  definitionDigest : String

structure GateEvidence where
  controlId : String
  evidenceRef : String
  evidenceDigest : String
  passed : Bool
  collectedAt : DateTime

structure ReleaseCertificate where
  schemaVersion : String
  certificateId : String
  releaseDigest : String
  gateId : String
  gateVersion : String
  definitionDigest : String
  evidenceDigests : BTreeMap String String
  validFrom : DateTime
  validUntil : DateTime
  engineCertificateOnly : Bool
  productionClosure : Bool
  keyId : String
  signature : String

structure ReleaseCodec (Bytes SigningKey VerifyingKey : Type) where
  /-- `serde_jcs::to_vec` of a certificate. -/
  certificateJcs : ReleaseCertificate → Option Bytes
  verifyingKey : SigningKey → VerifyingKey
  sign : SigningKey → Bytes → String
  readSignature : String → Option Bytes
  verifies : VerifyingKey → Bytes → Bytes → Bool

structure ReleaseGateEngine (SigningKey : Type) where
  keyId : String
  signingKey : SigningKey
  keyNamed : keyId.isEmpty = false

/-- `num_seconds` of the time since an item was collected, which truncates. -/
def ageSeconds (now collectedAt : DateTime) : Int := (now - collectedAt).tdiv 1000000000

def ReleaseGateDefinition.accepts (definition : ReleaseGateDefinition) (now : DateTime)
    (item : GateEvidence) : Bool :=
  item.passed && !item.evidenceRef.isEmpty && item.evidenceDigest.utf8ByteSize == 64 &&
    0 ≤ ageSeconds now item.collectedAt &&
    ageSeconds now item.collectedAt ≤ definition.maximumEvidenceAgeSeconds

def itemOf (evidence : List GateEvidence) (control : String) : Option GateEvidence :=
  evidence.find? (·.controlId == control)

def ReleaseGateDefinition.take (definition : ReleaseGateDefinition) (evidence : List GateEvidence)
    (now : DateTime) (digests : BTreeMap String String) (control : String) :
    Except IncidentError (BTreeMap String String) :=
  match itemOf evidence control with
  | none => .error .evidenceMissing
  | some item =>
    if definition.accepts now item then .ok (digests.insert control item.evidenceDigest)
    else .error .evidenceFailed

def ReleaseGateDefinition.collect (definition : ReleaseGateDefinition)
    (evidence : List GateEvidence) (now : DateTime) :
    Except IncidentError (BTreeMap String String) :=
  definition.requiredControls.toList.foldlM (definition.take evidence now) ∅

/-- `Duration::days(7)`, in nanoseconds. -/
def week : Int := 7 * 86400 * 1000000000

def ReleaseGateDefinition.Valid (definition : ReleaseGateDefinition) (releaseDigest : String) :
    Prop :=
  definition.schemaVersion = incidentSchemaVersion ∧ definition.gateId ≠ "" ∧
    definition.version ≠ "" ∧ definition.requiredControls.isEmpty = false ∧
    definition.maximumEvidenceAgeSeconds ≠ 0 ∧ definition.definitionDigest.utf8ByteSize = 64 ∧
    releaseDigest.utf8ByteSize = 64

instance (definition : ReleaseGateDefinition) (releaseDigest : String) :
    Decidable (definition.Valid releaseDigest) := inferInstanceAs (Decidable (_ ∧ _))

section Model

variable {Bytes SigningKey VerifyingKey : Type}

def ReleaseGateEngine.certificate (engine : ReleaseGateEngine SigningKey)
    (definition : ReleaseGateDefinition) (releaseDigest certificateId : String)
    (digests : BTreeMap String String) (now validUntil : DateTime) : ReleaseCertificate where
  schemaVersion := incidentSchemaVersion
  certificateId
  releaseDigest
  gateId := definition.gateId
  gateVersion := definition.version
  definitionDigest := definition.definitionDigest
  evidenceDigests := digests
  validFrom := now
  validUntil
  engineCertificateOnly := true
  productionClosure := false
  keyId := engine.keyId
  signature := ""

def ReleaseGateEngine.evaluate (codec : ReleaseCodec Bytes SigningKey VerifyingKey)
    (engine : ReleaseGateEngine SigningKey) (definition : ReleaseGateDefinition)
    (releaseDigest : String) (evidence : List GateEvidence) (now : DateTime)
    (certificateId : String) : Except IncidentError ReleaseCertificate := do
  require (definition.Valid releaseDigest) .gateDefinitionInvalid
  let digests ← definition.collect evidence now
  match now.add week with
  | none => .error .panicked
  | some validUntil =>
    let certificate := engine.certificate definition releaseDigest certificateId digests now
      validUntil
    match codec.certificateJcs certificate with
    | none => .error .canonicalization
    | some bytes => pure { certificate with signature := codec.sign engine.signingKey bytes }

def ReleaseCertificate.verify (codec : ReleaseCodec Bytes SigningKey VerifyingKey)
    (certificate : ReleaseCertificate) (key : VerifyingKey) (now : DateTime) :
    Except IncidentError Unit := do
  require (certificate.validFrom ≤ now ∧ now < certificate.validUntil ∧
    certificate.productionClosure = false ∧ certificate.engineCertificateOnly = true)
    .certificateInvalid
  match codec.readSignature certificate.signature with
  | none => .error .certificateInvalid
  | some signature =>
    match codec.certificateJcs { certificate with signature := "" } with
    | none => .error .canonicalization
    | some bytes => require (codec.verifies key bytes signature = true) .certificateInvalid

-- The evidence

variable {codec : ReleaseCodec Bytes SigningKey VerifyingKey}
  {engine : ReleaseGateEngine SigningKey} {definition : ReleaseGateDefinition}
  {releaseDigest certificateId control : String} {evidence evidence' : List GateEvidence}
  {now instant validUntil : DateTime} {digests m : BTreeMap String String}
  {certificate : ReleaseCertificate} {item other : GateEvidence} {controls : List String}

def ReleaseGateDefinition.Finds (definition : ReleaseGateDefinition) (evidence : List GateEvidence)
    (now : DateTime) (control : String) : Prop :=
  ∃ item, itemOf evidence control = some item ∧ definition.accepts now item = true

theorem foldlM_take_ok (h : controls.foldlM (definition.take evidence now) m = .ok digests) :
    (∀ control ∈ controls, definition.Finds evidence now control) ∧ ∀ control, digests[control]? =
      if control ∈ controls then (itemOf evidence control).map (·.evidenceDigest)
      else m[control]? := by
  induction controls generalizing m with
  | nil =>
    cases h
    simp
  | cons first controls ih =>
    rw [List.foldlM_cons, except_bind_eq_ok] at h
    obtain ⟨next, hnext, hrest⟩ := h
    obtain ⟨hfound, hdigests⟩ := ih hrest
    unfold ReleaseGateDefinition.take at hnext
    split at hnext
    · cases hnext
    · next item hitem =>
      split_ifs at hnext with haccepts
      cases hnext
      refine ⟨List.forall_mem_cons.mpr ⟨⟨item, hitem, haccepts⟩, hfound⟩, fun control => ?_⟩
      rw [hdigests, BTreeMap.getElem?_insert_ite]
      by_cases heq : first = control
      · subst heq
        simp [hitem]
      · simp [heq, Ne.symm heq]

theorem foldlM_take_of_finds (h : ∀ control ∈ controls, definition.Finds evidence now control) :
    ∃ digests, controls.foldlM (definition.take evidence now) m = .ok digests := by
  induction controls generalizing m with
  | nil => exact ⟨m, rfl⟩
  | cons first controls ih =>
    rw [List.forall_mem_cons] at h
    obtain ⟨⟨item, hitem, haccepts⟩, hrest⟩ := h
    obtain ⟨digests, hdigests⟩ := ih (m := m.insert first item.evidenceDigest) hrest
    refine ⟨digests, except_bind_eq_ok.mpr ⟨_, ?_, hdigests⟩⟩
    rw [ReleaseGateDefinition.take, hitem]
    exact if_pos haccepts

theorem collect_ok_iff : definition.collect evidence now = .ok digests ↔
    (∀ control ∈ definition.requiredControls, definition.Finds evidence now control) ∧
      ∀ control, digests[control]? = if control ∈ definition.requiredControls then
        (itemOf evidence control).map (·.evidenceDigest) else none := by
  simp only [← Std.ExtTreeSet.mem_toList]
  constructor
  · intro h
    simpa using foldlM_take_ok h
  · rintro ⟨hfinds, hdigests⟩
    obtain ⟨collected, hcollected⟩ := foldlM_take_of_finds (m := ∅) hfinds
    have hsame : collected = digests := by
      refine Std.ExtTreeMap.ext_getElem? fun control => ?_
      rw [hdigests, (foldlM_take_ok hcollected).2]
      simp
    rw [← hsame]
    exact hcollected

-- Certificates

theorem evaluate_ok_iff : engine.evaluate codec definition releaseDigest evidence now
    certificateId = .ok certificate ↔ definition.Valid releaseDigest ∧
      ∃ digests validUntil bytes, definition.collect evidence now = .ok digests ∧
        now.add week = some validUntil ∧ codec.certificateJcs (engine.certificate definition
          releaseDigest certificateId digests now validUntil) = some bytes ∧
        certificate = { engine.certificate definition releaseDigest certificateId digests now
          validUntil with signature := codec.sign engine.signingKey bytes } := by
  unfold ReleaseGateEngine.evaluate
  rw [except_bind_eq_ok]
  simp only [require_eq_ok, exists_const]
  refine and_congr_right fun _ => ?_
  rw [except_bind_eq_ok]
  refine exists_congr fun digests => ?_
  cases now.add week with
  | none => simp
  | some validUntil =>
    cases hbytes : codec.certificateJcs (engine.certificate definition releaseDigest certificateId
        digests now validUntil) with
    | none => simp [hbytes]
    | some bytes => simp [hbytes, pure, Except.pure, eq_comm]

theorem verify_issued_iff
    (hsign : ∀ key bytes, ∃ signature, codec.readSignature (codec.sign key bytes) =
      some signature ∧ codec.verifies (codec.verifyingKey key) bytes signature = true)
    (h : engine.evaluate codec definition releaseDigest evidence now certificateId =
      .ok certificate) :
    certificate.verify codec (codec.verifyingKey engine.signingKey) instant = .ok () ↔
      now ≤ instant ∧ instant < now + week := by
  obtain ⟨-, digests, validUntil, bytes, -, huntil, hbytes, rfl⟩ := evaluate_ok_iff.mp h
  obtain ⟨signature, hread, hverifies⟩ := hsign engine.signingKey bytes
  have hunsigned : ({ { engine.certificate definition releaseDigest certificateId digests now
      validUntil with signature := codec.sign engine.signingKey bytes } with signature := "" } :
        ReleaseCertificate) = engine.certificate definition releaseDigest certificateId digests now
      validUntil := rfl
  unfold ReleaseCertificate.verify
  rw [except_bind_eq_ok]
  simp only [require_eq_ok, exists_const, hread, hunsigned, hbytes, hverifies, and_true]
  rw [← DateTime.add_eq_some huntil]
  exact and_congr_right fun _ => and_iff_left ⟨rfl, rfl⟩

def issued (codec : ReleaseCodec Bytes SigningKey VerifyingKey)
    (engine : ReleaseGateEngine SigningKey) (definition : ReleaseGateDefinition)
    (releaseDigest : String) (evidence : List GateEvidence) (now : DateTime)
    (certificateId : String) : Option (BTreeMap String String) :=
  (engine.evaluate codec definition releaseDigest evidence now certificateId).toOption.map
    (·.evidenceDigests)

theorem issued_iff : issued codec engine definition releaseDigest evidence now certificateId =
    some digests ↔ ∃ certificate, engine.evaluate codec definition releaseDigest evidence now
      certificateId = .ok certificate ∧ certificate.evidenceDigests = digests := by
  unfold issued
  cases engine.evaluate codec definition releaseDigest evidence now certificateId with
  | error e => simp [Except.toOption]
  | ok certificate => simp [Except.toOption]

theorem issued_eq_some
    (htotal : ∀ certificate, ∃ bytes, codec.certificateJcs certificate = some bytes) :
    issued codec engine definition releaseDigest evidence now certificateId = some digests ↔
      definition.Valid releaseDigest ∧ (now.add week).isSome = true ∧
        definition.collect evidence now = .ok digests := by
  rw [issued_iff]
  constructor
  · rintro ⟨certificate, hok, rfl⟩
    obtain ⟨hvalid, digests, validUntil, bytes, hcollect, huntil, -, rfl⟩ := evaluate_ok_iff.mp hok
    exact ⟨hvalid, Option.isSome_of_mem huntil, hcollect⟩
  · rintro ⟨hvalid, hsome, hcollect⟩
    obtain ⟨validUntil, huntil⟩ := Option.isSome_iff_exists.mp hsome
    obtain ⟨bytes, hbytes⟩ := htotal (engine.certificate definition releaseDigest certificateId
      digests now validUntil)
    exact ⟨_, evaluate_ok_iff.mpr ⟨hvalid, digests, validUntil, bytes, hcollect, huntil, hbytes,
      rfl⟩, rfl⟩

-- Orders

def putFirst (p : GateEvidence → Bool) (evidence : List GateEvidence) : List GateEvidence :=
  evidence.filter p ++ evidence.filter fun item => !p item

theorem putFirst_perm (p : GateEvidence → Bool) (evidence : List GateEvidence) :
    (putFirst p evidence).Perm evidence := List.filter_append_perm p evidence

theorem itemOf_putFirst {p : GateEvidence → Bool} (hmem : item ∈ evidence) (hp : p item = true) :
    ∃ found, itemOf (putFirst p evidence) item.controlId = some found ∧ p found = true := by
  have hsome : ((evidence.filter p).find? (·.controlId == item.controlId)).isSome := by
    rw [List.find?_isSome]
    exact ⟨item, List.mem_filter.mpr ⟨hmem, hp⟩, beq_self_eq_true _⟩
  obtain ⟨found, hfound⟩ := Option.isSome_iff_exists.mp hsome
  refine ⟨found, ?_, (List.mem_filter.mp (List.mem_of_find?_eq_some hfound)).2⟩
  rw [itemOf, putFirst, List.find?_append, hfound]
  rfl

theorem mem_of_itemOf (h : itemOf evidence control = some item) :
    item ∈ evidence ∧ item.controlId = control :=
  ⟨List.mem_of_find?_eq_some h, by simpa using List.find?_some h⟩

theorem exists_itemOf (hmem : item ∈ evidence) :
    ∃ found, itemOf evidence item.controlId = some found :=
  Option.isSome_iff_exists.mp (List.find?_isSome.mpr ⟨item, hmem, beq_self_eq_true _⟩)

structure Good (definition : ReleaseGateDefinition) (now : DateTime) (item : GateEvidence) : Prop
    where
  passed : item.passed = true
  past : item.collectedAt ≤ now
  fresh : now - item.collectedAt ≤ definition.maximumEvidenceAgeSeconds * 1000000000

/-- What the order of the evidence should not change, what an issued certificate should stand for,
and when it should be valid. -/
structure Reliable (codec : ReleaseCodec Bytes SigningKey VerifyingKey)
    (engine : ReleaseGateEngine SigningKey) (definition : ReleaseGateDefinition)
    (releaseDigest : String) (evidence : List GateEvidence) (now : DateTime)
    (certificateId : String) : Prop where
  order : ∀ evidence', evidence'.Perm evidence →
    issued codec engine definition releaseDigest evidence' now certificateId =
      issued codec engine definition releaseDigest evidence now certificateId
  good : ∀ certificate, engine.evaluate codec definition releaseDigest evidence now
    certificateId = .ok certificate → ∀ item ∈ evidence,
      item.controlId ∈ definition.requiredControls → Good definition now item
  valid : ∀ certificate, engine.evaluate codec definition releaseDigest evidence now
    certificateId = .ok certificate → ∀ instant,
      certificate.verify codec (codec.verifyingKey engine.signingKey) instant = .ok () ↔
        now ≤ instant ∧ instant < now + week

section Reliable

variable (htotal : ∀ certificate, ∃ bytes, codec.certificateJcs certificate = some bytes)
include htotal

theorem issued_none (h : ¬ definition.Valid releaseDigest ∨ (now.add week).isSome = false ∨
    ∃ control ∈ definition.requiredControls, ∀ item ∈ evidence, item.controlId = control →
      definition.accepts now item = false) :
    issued codec engine definition releaseDigest evidence now certificateId = none := by
  refine Option.eq_none_iff_forall_ne_some.mpr fun digests hissued => ?_
  obtain ⟨hvalid, hweek, hcollect⟩ := (issued_eq_some htotal).mp hissued
  rcases h with hinvalid | hnone | ⟨control, hcontrol, hrefused⟩
  · exact hinvalid hvalid
  · rw [hweek] at hnone
    cases hnone
  · obtain ⟨item, hitem, haccepts⟩ := (collect_ok_iff.mp hcollect).1 control hcontrol
    obtain ⟨hmem, hcontrol⟩ := mem_of_itemOf hitem
    rw [hrefused item hmem hcontrol] at haccepts
    cases haccepts

theorem issued_of_agreed {evidence₁ evidence₂ : List GateEvidence}
    (h : ∀ item ∈ evidence, item.controlId ∈ definition.requiredControls →
      definition.accepts now item = true ∧ Good definition now item ∧
        ∀ other ∈ evidence, other.controlId = item.controlId →
          other.evidenceDigest = item.evidenceDigest)
    (h₁ : evidence₁.Perm evidence) (h₂ : evidence₂.Perm evidence)
    (hissued : issued codec engine definition releaseDigest evidence₁ now certificateId =
      some digests) :
    issued codec engine definition releaseDigest evidence₂ now certificateId = some digests := by
  rw [issued_eq_some htotal, collect_ok_iff] at hissued ⊢
  obtain ⟨hvalid, hweek, hfinds, hdigests⟩ := hissued
  have hsecond : ∀ control ∈ definition.requiredControls, ∃ first second,
      itemOf evidence₁ control = some first ∧ itemOf evidence₂ control = some second ∧
        definition.accepts now second = true ∧
        second.evidenceDigest = first.evidenceDigest := by
    intro control hcontrol
    obtain ⟨first, hfirst, -⟩ := hfinds control hcontrol
    obtain ⟨hmem, rfl⟩ := mem_of_itemOf hfirst
    obtain ⟨second, hfound⟩ := exists_itemOf (h₂.mem_iff.mpr (h₁.mem_iff.mp hmem))
    obtain ⟨hmem', heq⟩ := mem_of_itemOf hfound
    have hagreed := h first (h₁.mem_iff.mp hmem) hcontrol
    exact ⟨first, second, hfirst, hfound, (h second (h₂.mem_iff.mp hmem') (heq ▸ hcontrol)).1,
      hagreed.2.2 second (h₂.mem_iff.mp hmem') heq⟩
  refine ⟨hvalid, hweek, fun control hcontrol => ?_, fun control => ?_⟩
  · obtain ⟨-, second, -, hfound, haccepts, -⟩ := hsecond control hcontrol
    exact ⟨second, hfound, haccepts⟩
  · rw [hdigests]
    split_ifs with hcontrol
    · obtain ⟨first, second, hfirst, hfound, -, hdigest⟩ := hsecond control hcontrol
      rw [hfirst, hfound, Option.map_some, Option.map_some, hdigest]
    · rfl

/-- Where the order makes no difference and something is issued in some order, all the evidence of
the required controls is accepted, and agrees. -/
theorem agreed_of_order (hvalid : definition.Valid releaseDigest)
    (hweek : (now.add week).isSome = true)
    (haccepted : ∀ control ∈ definition.requiredControls, ∃ item ∈ evidence,
      item.controlId = control ∧ definition.accepts now item = true)
    (horder : ∀ evidence', evidence'.Perm evidence →
      issued codec engine definition releaseDigest evidence' now certificateId =
        issued codec engine definition releaseDigest evidence now certificateId) :
    (∃ digests, issued codec engine definition releaseDigest evidence now certificateId =
      some digests) ∧ ∀ item ∈ evidence, item.controlId ∈ definition.requiredControls →
        definition.accepts now item = true ∧ ∀ other ∈ evidence,
          other.controlId = item.controlId → other.evidenceDigest = item.evidenceDigest := by
  obtain ⟨digests, hissued⟩ : ∃ digests, issued codec engine definition releaseDigest evidence now
      certificateId = some digests := by
    -- the accepted items first, so that each control finds one
    have hfinds : ∀ control ∈ definition.requiredControls,
        definition.Finds (putFirst (definition.accepts now) evidence) now control := by
      intro control hcontrol
      obtain ⟨item, hmem, rfl, haccepts⟩ := haccepted control hcontrol
      exact itemOf_putFirst hmem haccepts
    obtain ⟨digests, hcollect⟩ := foldlM_take_of_finds (m := ∅) fun control hcontrol =>
      hfinds control (Std.ExtTreeSet.mem_toList.mp hcontrol)
    refine ⟨digests, ?_⟩
    rw [← horder _ (putFirst_perm (definition.accepts now) evidence)]
    exact (issued_eq_some htotal).mpr ⟨hvalid, hweek, hcollect⟩
  -- what is found first in any order is accepted and has the digest of the certificate
  have hfirst : ∀ p : GateEvidence → Bool, ∀ item ∈ evidence,
      item.controlId ∈ definition.requiredControls → p item = true →
      ∃ found, p found = true ∧ definition.accepts now found = true ∧
        digests[item.controlId]? = some found.evidenceDigest := by
    intro p item hmem hrequired hp
    have hother := (horder _ (putFirst_perm p evidence)).trans hissued
    obtain ⟨-, -, hcollect⟩ := (issued_eq_some htotal).mp hother
    obtain ⟨hfinds, hdigests⟩ := collect_ok_iff.mp hcollect
    obtain ⟨found, hfound, hpfound⟩ := itemOf_putFirst hmem hp
    obtain ⟨found', hfound', haccepts⟩ := hfinds _ hrequired
    obtain rfl := Option.some.inj (hfound.symm.trans hfound')
    exact ⟨found, hpfound, haccepts, by rw [hdigests, if_pos hrequired, hfound]; rfl⟩
  have hdigest : ∀ item ∈ evidence, item.controlId ∈ definition.requiredControls →
      digests[item.controlId]? = some item.evidenceDigest := by
    intro item hmem hrequired
    obtain ⟨found, hsame, -, hlookup⟩ := hfirst (·.evidenceDigest == item.evidenceDigest) item hmem
      hrequired (beq_self_eq_true _)
    rw [hlookup, beq_iff_eq.mp hsame]
  refine ⟨⟨digests, hissued⟩, fun item hmem hrequired => ⟨?_, fun other hmem' hcontrol => ?_⟩⟩
  · by_contra hrefused
    rw [Bool.not_eq_true] at hrefused
    obtain ⟨found, hnot, haccepts, -⟩ := hfirst (fun item => !definition.accepts now item) item hmem
      hrequired (by rw [hrefused]; rfl)
    rw [haccepts] at hnot
    cases hnot
  · have hitem := hdigest item hmem hrequired
    rw [← hcontrol] at hrequired hitem
    exact Option.some.inj ((hdigest other hmem' hrequired).symm.trans hitem)

end Reliable

/-- **The release gate** is reliable exactly if it issues nothing in any order, or all the evidence
of the required controls is accepted, good, and of one digest for each control. -/
theorem evaluate_reliable_iff (codec : ReleaseCodec Bytes SigningKey VerifyingKey)
    (htotal : ∀ certificate, ∃ bytes, codec.certificateJcs certificate = some bytes)
    (hsign : ∀ key bytes, ∃ signature, codec.readSignature (codec.sign key bytes) =
      some signature ∧ codec.verifies (codec.verifyingKey key) bytes signature = true)
    (engine : ReleaseGateEngine SigningKey) (definition : ReleaseGateDefinition)
    (releaseDigest : String) (evidence : List GateEvidence) (now : DateTime)
    (certificateId : String) :
    Reliable codec engine definition releaseDigest evidence now certificateId ↔
      ¬ definition.Valid releaseDigest ∨ (now.add week).isSome = false ∨
      (∃ control ∈ definition.requiredControls, ∀ item ∈ evidence, item.controlId = control →
        definition.accepts now item = false) ∨
      ∀ item ∈ evidence, item.controlId ∈ definition.requiredControls →
        definition.accepts now item = true ∧ Good definition now item ∧
          ∀ other ∈ evidence, other.controlId = item.controlId →
            other.evidenceDigest = item.evidenceDigest := by
  have hvalid : ∀ certificate, engine.evaluate codec definition releaseDigest evidence now
      certificateId = .ok certificate → ∀ instant,
        certificate.verify codec (codec.verifyingKey engine.signingKey) instant = .ok () ↔
          now ≤ instant ∧ instant < now + week :=
    fun certificate hok instant => verify_issued_iff hsign hok
  constructor
  · intro h
    by_cases hdefinition : definition.Valid releaseDigest
    · by_cases hweek : (now.add week).isSome = true
      · by_cases haccepted : ∀ control ∈ definition.requiredControls, ∃ item ∈ evidence,
            item.controlId = control ∧ definition.accepts now item = true
        · obtain ⟨⟨digests, hissued⟩, hagreed⟩ :=
            agreed_of_order htotal hdefinition hweek haccepted h.order
          obtain ⟨certificate, hok, -⟩ := issued_iff.mp hissued
          exact .inr (.inr (.inr fun item hmem hrequired => ⟨(hagreed item hmem hrequired).1,
            h.good certificate hok item hmem hrequired, (hagreed item hmem hrequired).2⟩))
        · push Not at haccepted
          simp only [ne_eq, Bool.not_eq_true] at haccepted
          exact .inr (.inr (.inl haccepted))
      · exact .inr (.inl (Bool.not_eq_true _ ▸ hweek))
    · exact .inl hdefinition
  · rw [← or_assoc, ← or_assoc, or_assoc (a := ¬ definition.Valid releaseDigest)]
    rintro (hnone | hagreed)
    · have hissued : ∀ evidence', evidence'.Perm evidence →
          issued codec engine definition releaseDigest evidence' now certificateId = none := by
        intro evidence' hperm
        refine issued_none htotal (hnone.imp_right (Or.imp_right ?_))
        rintro ⟨control, hcontrol, hrefused⟩
        exact ⟨control, hcontrol, fun item hmem => hrefused item (hperm.mem_iff.mp hmem)⟩
      refine ⟨fun evidence' hperm => ?_, fun certificate hok => ?_, hvalid⟩
      · rw [hissued evidence' hperm, hissued evidence (List.Perm.refl _)]
      · cases (issued_iff.mpr ⟨certificate, hok, rfl⟩).symm.trans (hissued _ (List.Perm.refl _))
    · refine ⟨fun evidence' hperm => Option.ext fun digests => ⟨?_, ?_⟩,
        fun certificate hok item hmem hrequired => (hagreed item hmem hrequired).2.1, hvalid⟩
      · exact issued_of_agreed htotal hagreed hperm (List.Perm.refl _)
      · exact issued_of_agreed htotal hagreed (List.Perm.refl _) hperm

end Model

section Sample

def sampleReleaseCodec : ReleaseCodec String String String where
  certificateJcs certificate := some (certificate.certificateId ++ certificate.releaseDigest)
  verifyingKey key := key
  sign key bytes := key ++ bytes
  readSignature text := some text
  verifies key bytes signature := signature == key ++ bytes

theorem certificateJcs_sample (certificate : ReleaseCertificate) :
    ∃ bytes, sampleReleaseCodec.certificateJcs certificate = some bytes := ⟨_, rfl⟩

theorem sign_sample (key bytes : String) : ∃ signature,
    sampleReleaseCodec.readSignature (sampleReleaseCodec.sign key bytes) = some signature ∧
      sampleReleaseCodec.verifies (sampleReleaseCodec.verifyingKey key) bytes signature = true :=
  ⟨_, rfl, beq_self_eq_true _⟩

def sampleReleaseEngine : ReleaseGateEngine String := ⟨"engine-1", "key-1", by decide⟩

def sampleGateDefinition : ReleaseGateDefinition where
  schemaVersion := incidentSchemaVersion
  gateId := "gate-1"
  version := "1.0.0"
  requiredControls := {"backup"}
  maximumEvidenceAgeSeconds := 3600
  definitionDigest := sampleHash 'd'

def sampleEvidence (passed : Bool) : GateEvidence where
  controlId := "backup"
  evidenceRef := "evidence:1"
  evidenceDigest := sampleHash 'e'
  passed
  collectedAt := 0

theorem accepts_sampleEvidence (passed : Bool) :
    sampleGateDefinition.accepts 0 (sampleEvidence passed) = passed := by
  cases passed with
  | false => rfl
  | true =>
    have hsize : (sampleHash 'e').utf8ByteSize = 64 := utf8ByteSize_sampleHash rfl
    simp [ReleaseGateDefinition.accepts, sampleEvidence, hsize, sampleGateDefinition, ageSeconds]

theorem valid_sample : sampleGateDefinition.Valid (sampleHash 'r') :=
  ⟨rfl, by decide, by decide, by decide, by decide, utf8ByteSize_sampleHash rfl,
    utf8ByteSize_sampleHash rfl⟩

/-- Of one item which passed, the other order does not make another certificate. -/
theorem reliable_sample :
    Reliable sampleReleaseCodec sampleReleaseEngine sampleGateDefinition (sampleHash 'r')
        [sampleEvidence true] 0 "certificate-1" ↔
      ¬ sampleGateDefinition.Valid (sampleHash 'r') ∨ (DateTime.add 0 week).isSome = false ∨
      (∃ control ∈ sampleGateDefinition.requiredControls, ∀ item ∈ [sampleEvidence true],
        item.controlId = control → sampleGateDefinition.accepts 0 item = false) ∨
      ∀ item ∈ [sampleEvidence true], item.controlId ∈ sampleGateDefinition.requiredControls →
        sampleGateDefinition.accepts 0 item = true ∧ Good sampleGateDefinition 0 item ∧
          ∀ other ∈ [sampleEvidence true], other.controlId = item.controlId →
            other.evidenceDigest = item.evidenceDigest :=
  evaluate_reliable_iff sampleReleaseCodec certificateJcs_sample sign_sample sampleReleaseEngine
    sampleGateDefinition (sampleHash 'r') [sampleEvidence true] 0 "certificate-1"

/-- The control has failed after it passed, and the release is certified. -/
theorem certified_failed :
    ¬ ∀ (definition : ReleaseGateDefinition) (evidence : List GateEvidence) (now : DateTime),
      Reliable sampleReleaseCodec sampleReleaseEngine definition (sampleHash 'r') evidence now
        "certificate-1" := by
  intro h
  have hreliable := h sampleGateDefinition [sampleEvidence true, sampleEvidence false] 0
  have hfinds : ∀ control ∈ sampleGateDefinition.requiredControls.toList,
      sampleGateDefinition.Finds [sampleEvidence true, sampleEvidence false] 0 control := by
    intro control hcontrol
    obtain rfl : "backup" = control := by
      simpa [sampleGateDefinition] using Std.ExtTreeSet.mem_toList.mp hcontrol
    exact ⟨sampleEvidence true, rfl, accepts_sampleEvidence true⟩
  obtain ⟨digests, hcollect⟩ := foldlM_take_of_finds (m := ∅) hfinds
  obtain ⟨certificate, hok, -⟩ := issued_iff.mp ((issued_eq_some certificateJcs_sample).mpr
    ⟨valid_sample, by decide, hcollect⟩)
  have hgood := hreliable.good certificate hok (sampleEvidence false) (by simp)
    (by simp [sampleGateDefinition, sampleEvidence])
  cases hgood.passed

end Sample

end AgentSphere.IncidentRelease
