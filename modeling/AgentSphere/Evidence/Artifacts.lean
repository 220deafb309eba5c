import AgentSphere.Evidence.Chain
import AgentSphere.Lib.Machine

/-!
# Stored artifacts

The in-memory store keeps bytes under their SHA-256. A second `put` of the same bytes is accepted,
also when the store is full, and writes the caller's classification, retention and policy over
those of the first.
-/

namespace AgentSphere.Evidence

open Concurrency Machine

/-- `contains_secret` of any bytes. The markers are ASCII: a lossy decoding contains one exactly
where the bytes do. -/
def bytesContainSecret (bytes : List UInt8) : Bool :=
  let text := bytes.map fun byte => if 65 ≤ byte ∧ byte ≤ 90 then byte + 32 else byte
  ["password=", "api_key=", "authorization: bearer", "-----begin private key-----"].any
    fun marker => text.tails.any fun rest => marker.toUTF8.data.toList.isPrefixOf rest

/-- A call of `put`, with what it reads from the clock. -/
structure ArtifactPut where
  bytes : List UInt8
  mediaType : String
  classification : String
  retentionSeconds : Nat
  accessPolicy : String
  now : DateTime

structure InMemoryArtifactStore where
  maximumArtifactBytes : Nat
  maximumArtifacts : Nat
  objects : BTreeMap ArtifactRef (StoredArtifact × List UInt8)

def artifactRefOf (digest : String) : ArtifactRef := "artifact:sha256:" ++ digest

def storedArtifact (sha256Hex : List UInt8 → String) (call : ArtifactPut) : StoredArtifact where
  artifactRef := artifactRefOf (sha256Hex call.bytes)
  sha256 := sha256Hex call.bytes
  mediaType := call.mediaType
  classification := call.classification
  retentionSeconds := call.retentionSeconds
  accessPolicy := call.accessPolicy
  bytes := call.bytes.length
  createdAt := call.now

namespace InMemoryArtifactStore

variable (sha256Hex : List UInt8 → String) (store : InMemoryArtifactStore)

def new (maximumArtifactBytes maximumArtifacts : Nat) : InMemoryArtifactStore where
  maximumArtifactBytes := maximumArtifactBytes
  maximumArtifacts := maximumArtifacts
  objects := ∅

/-- The checks of `put` on the call itself. -/
def Admits (call : ArtifactPut) : Prop :=
  ¬(call.bytes.isEmpty ∨ store.maximumArtifactBytes < call.bytes.length ∨
    call.mediaType.isEmpty ∨ call.classification.isEmpty ∨ call.retentionSeconds = 0 ∨
    bytesContainSecret call.bytes)

instance (call : ArtifactPut) : Decidable (store.Admits call) := inferInstanceAs (Decidable ¬_)

def put (call : ArtifactPut) : Except EvidenceError StoredArtifact × InMemoryArtifactStore :=
  if ¬store.Admits call then (.error .artifactDenied, store)
  else if store.maximumArtifacts ≤ store.objects.size ∧
      artifactRefOf (sha256Hex call.bytes) ∉ store.objects then
    (.error .capacityExceeded, store)
  else
    let artifact := storedArtifact sha256Hex call
    (.ok artifact,
      { store with
        objects := store.objects.insert artifact.artifactRef (artifact, call.bytes) })

def get (artifactRef : ArtifactRef) : Except EvidenceError (List UInt8) :=
  match store.objects[artifactRef]? with
  | some (_, bytes) => .ok bytes
  | none => .error .artifactNotFound

end InMemoryArtifactStore

open InMemoryArtifactStore

abbrev ArtifactEvent :=
  Served InMemoryArtifactStore ArtifactPut (Except EvidenceError StoredArtifact)

variable {sha256Hex : List UInt8 → String} {store : InMemoryArtifactStore}
  {events : List ArtifactEvent} {call : ArtifactPut}

theorem artifactRefOf_inj {digest digest' : String} :
    artifactRefOf digest = artifactRefOf digest' ↔ digest = digest' := by
  refine ⟨fun h => ?_, congrArg _⟩
  have htext : ("artifact:sha256:" ++ digest).toList = ("artifact:sha256:" ++ digest').toList :=
    congrArg String.toList h
  rw [String.toList_append, String.toList_append] at htext
  exact String.toList_inj.mp (List.append_cancel_left htext)

namespace InMemoryArtifactStore

def withArtifact (sha256Hex : List UInt8 → String) (store : InMemoryArtifactStore)
    (call : ArtifactPut) : InMemoryArtifactStore :=
  { store with
    objects := store.objects.insert (artifactRefOf (sha256Hex call.bytes))
      (storedArtifact sha256Hex call, call.bytes) }

theorem withArtifact_getElem? (artifactRef : ArtifactRef) :
    (store.withArtifact sha256Hex call).objects[artifactRef]? =
      if artifactRefOf (sha256Hex call.bytes) = artifactRef then
        some (storedArtifact sha256Hex call, call.bytes)
      else store.objects[artifactRef]? :=
  BTreeMap.getElem?_insert_ite ..

/-- A call is refused and changes nothing, or it is admitted and stored, where the store has room
or has the bytes. -/
theorem put_cases (sha256Hex : List UInt8 → String) (store : InMemoryArtifactStore)
    (call : ArtifactPut) :
    (∃ e, store.put sha256Hex call = (.error e, store) ∧
      (store.Admits call → store.objects[artifactRefOf (sha256Hex call.bytes)]? = none)) ∨
    (store.Admits call ∧ (store.objects.size < store.maximumArtifacts ∨
        artifactRefOf (sha256Hex call.bytes) ∈ store.objects) ∧
      store.put sha256Hex call =
        (.ok (storedArtifact sha256Hex call), store.withArtifact sha256Hex call)) := by
  unfold put
  by_cases hadmits : store.Admits call
  · rw [if_neg (not_not.mpr hadmits)]
    split_ifs with hfull
    · exact .inl ⟨_, rfl, fun _ => Std.ExtTreeMap.getElem?_eq_none hfull.2⟩
    · rw [not_and_or, not_not, not_le] at hfull
      exact .inr ⟨hadmits, hfull, rfl⟩
  · rw [if_pos hadmits]
    exact .inl ⟨_, rfl, fun h => absurd h hadmits⟩

theorem get_eq_ok {artifactRef : ArtifactRef} {bytes : List UInt8} :
    store.get artifactRef = .ok bytes ↔
      ∃ stored, store.objects[artifactRef]? = some (stored, bytes) := by
  unfold get
  cases store.objects[artifactRef]? with
  | none => simp
  | some entry => simp [Prod.ext_iff]

end InMemoryArtifactStore

/-- The store is addressed by content: what stands under a reference are the bytes of an earlier
call with the digest in the reference. -/
structure Addressed (sha256Hex : List UInt8 → String) (events : List ArtifactEvent)
    (store : InMemoryArtifactStore) : Prop where
  entry : ∀ (artifactRef : ArtifactRef) stored bytes,
    store.objects[artifactRef]? = some (stored, bytes) →
    artifactRef = artifactRefOf (sha256Hex bytes) ∧ stored.artifactRef = artifactRef ∧
      stored.sha256 = sha256Hex bytes ∧ stored.bytes = bytes.length ∧
      ∃ event ∈ events, event.call.bytes = bytes
  answer : ∀ event ∈ events, ∀ artifact, event.answer = .ok artifact →
    artifact.artifactRef = artifactRefOf (sha256Hex event.call.bytes) ∧
      store.get artifact.artifactRef = .ok event.call.bytes
  bounded : store.objects.size ≤ store.maximumArtifacts

def NewDigest (sha256Hex : List UInt8 → String) (events : List ArtifactEvent)
    (call : ArtifactPut) : Prop :=
  ∀ event ∈ events, sha256Hex event.call.bytes = sha256Hex call.bytes →
    event.call.bytes = call.bytes

theorem Addressed.put (h : Addressed sha256Hex events store)
    (hnew : NewDigest sha256Hex events call) :
    Addressed sha256Hex (events ++ [Machine.serve (InMemoryArtifactStore.put sha256Hex) store call])
      (store.put sha256Hex call).2 := by
  obtain ⟨e, heq, -⟩ | ⟨-, hroom, heq⟩ := store.put_cases sha256Hex call
  · rw [heq]
    refine ⟨fun artifactRef stored bytes hfound => ?_, fun event hevent artifact hanswer => ?_,
      h.bounded⟩
    · obtain ⟨hkey, href, hdigest, hlength, event, hevent, hbytes⟩ :=
        h.entry artifactRef stored bytes hfound
      exact ⟨hkey, href, hdigest, hlength, event, List.mem_append_left _ hevent, hbytes⟩
    · obtain hevent | hevent := List.mem_append.mp hevent
      · exact h.answer event hevent artifact hanswer
      · obtain rfl := List.mem_singleton.mp hevent
        rw [Machine.serve_answer, heq] at hanswer
        nomatch hanswer
  · rw [heq]
    refine ⟨fun artifactRef stored bytes hfound => ?_, fun event hevent artifact hanswer => ?_, ?_⟩
    · rw [withArtifact_getElem?] at hfound
      split_ifs at hfound with hkey
      · obtain ⟨rfl, rfl⟩ := Prod.mk.inj (Option.some.inj hfound)
        exact ⟨hkey.symm, hkey, rfl, rfl, _, List.mem_append_right _ (List.mem_singleton_self _),
          rfl⟩
      · obtain ⟨hkey', href, hdigest, hlength, event, hevent, hbytes⟩ :=
          h.entry artifactRef stored bytes hfound
        exact ⟨hkey', href, hdigest, hlength, event, List.mem_append_left _ hevent, hbytes⟩
    · obtain hevent | hevent := List.mem_append.mp hevent
      · obtain ⟨href, hget⟩ := h.answer event hevent artifact hanswer
        refine ⟨href, get_eq_ok.mpr ?_⟩
        rw [withArtifact_getElem?]
        split_ifs with hkey
        · rw [href, artifactRefOf_inj] at hkey
          rw [hnew event hevent hkey.symm]
          exact ⟨_, rfl⟩
        · exact get_eq_ok.mp hget
      · obtain rfl := List.mem_singleton.mp hevent
        rw [Machine.serve_answer, heq] at hanswer
        obtain rfl := Except.ok.inj hanswer
        refine ⟨rfl, get_eq_ok.mpr ⟨storedArtifact sha256Hex call, ?_⟩⟩
        rw [withArtifact_getElem?]
        exact if_pos rfl
    · show (Std.ExtTreeMap.insert ..).size ≤ store.maximumArtifacts
      rw [Std.ExtTreeMap.size_insert]
      have hbounded := h.bounded
      split_ifs with hmem
      · exact hbounded
      · obtain hroom | hmem' := hroom
        · exact hroom
        · exact absurd hmem' hmem

def sampleSha256Hex (_ : List UInt8) : String :=
  "8f434346648f6b96df89dda901c5176b10a6d83961dd3c1ac88b59b2dc327aa4"

end AgentSphere.Evidence
