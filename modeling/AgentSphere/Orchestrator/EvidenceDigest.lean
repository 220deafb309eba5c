import AgentSphere.Orchestrator.Runs

/-!
# The digest of an evidence set

`digest_evidence` hashes the references in order, each one followed by a line feed. Nothing keeps
line feeds out of a reference, so that the text which is hashed tells the lines of the references
but not where a reference ends: two sets with the same lines in the same order have the same
digest.
-/

namespace AgentSphere.Orchestrator

section Terminated

variable {α : Type} [DecidableEq α] (a : α)

theorem splitOn_flatMap_terminated (values : List (List α)) :
    (values.flatMap fun value => value ++ [a]).splitOn a =
      (values.flatMap fun value => value.splitOn a) ++ [[]] := by
  induction values with
  | nil => rfl
  | cons value values ih =>
    rw [List.flatMap_cons, List.flatMap_cons, List.append_assoc, List.singleton_append,
      List.splitOn_append_cons_self, ih, List.append_assoc]

theorem flatMap_terminated_eq_iff (values values' : List (List α)) :
    ((values.flatMap fun value => value ++ [a]) = values'.flatMap fun value => value ++ [a]) ↔
      (values.flatMap fun value => value.splitOn a) =
        values'.flatMap fun value => value.splitOn a := by
  constructor
  · intro htext
    have hparts := congrArg (List.splitOn a) htext
    rw [splitOn_flatMap_terminated, splitOn_flatMap_terminated] at hparts
    exact List.append_cancel_right hparts
  · intro hparts
    have hcut : (values.flatMap fun value => value ++ [a]).splitOn a =
        (values'.flatMap fun value => value ++ [a]).splitOn a := by
      rw [splitOn_flatMap_terminated, splitOn_flatMap_terminated, hparts]
    have hjoined := congrArg (List.intercalate [a]) hcut
    rwa [List.intercalate_splitOn, List.intercalate_splitOn] at hjoined

end Terminated

-- What the digest tells

def evidenceText (values : BTreeSet String) : String :=
  values.toList.foldl (fun text value => text ++ value ++ "\n") ""

def evidenceLines (values : BTreeSet String) : List (List Char) :=
  values.toList.flatMap fun value => value.toList.splitOn '\n'

theorem digestEvidence_eq (hash : Hasher) (values : BTreeSet String) :
    digestEvidence hash values = hash.text (evidenceText values) := rfl

theorem toList_foldl_terminated (values : List String) (text : String) :
    (values.foldl (fun text value => text ++ value ++ "\n") text).toList =
      text.toList ++ (values.map String.toList).flatMap fun value => value ++ ['\n'] := by
  induction values generalizing text with
  | nil => simp
  | cons value values ih =>
    rw [List.foldl_cons, ih, String.toList_append, String.toList_append]
    simp

theorem evidenceText_eq_iff (values values' : BTreeSet String) :
    evidenceText values = evidenceText values' ↔ evidenceLines values = evidenceLines values' := by
  have hlines : ∀ values : BTreeSet String, evidenceLines values =
      (values.toList.map String.toList).flatMap fun value => value.splitOn '\n' := fun values =>
    (List.flatMap_map ..).symm
  rw [← String.toList_inj, evidenceText, evidenceText, toList_foldl_terminated,
    toList_foldl_terminated, hlines, hlines, ← flatMap_terminated_eq_iff]
  simp

def OneLineEach (values : BTreeSet String) : Prop :=
  ∀ value ∈ values.toList, '\n' ∉ value.toList

instance (values : BTreeSet String) : Decidable (OneLineEach values) :=
  inferInstanceAs (Decidable (∀ value ∈ values.toList, _))

theorem OneLineEach.lines {values : BTreeSet String} (h : OneLineEach values) :
    evidenceLines values = values.toList.map String.toList := by
  have hsingle : ∀ value ∈ values.toList, value.toList.splitOn '\n' = [value.toList] :=
    fun value hvalue => List.splitOn_eq_singleton (h value hvalue)
  rw [evidenceLines, List.flatMap_congr hsingle]
  exact List.map_eq_flatMap.symm

theorem OneLineEach.eq_of_lines {values values' : BTreeSet String} (h : OneLineEach values)
    (h' : OneLineEach values') (hlines : evidenceLines values = evidenceLines values') :
    values = values' := by
  rw [h.lines, h'.lines] at hlines
  have hvalues := List.map_injective_iff.mpr (fun _ _ => String.toList_inj.mp) hlines
  exact Std.ExtTreeSet.ext_toList (.of_eq hvalues)

theorem applyResolvedTransition_event {hash : Hasher} {current s : RuntimeWorkflowState}
    {command : RuntimeWorkflowCommand} {facts : ResolvedTransitionFacts} {eventId : Uuid}
    {now : DateTime} (h : applyResolvedTransition hash current command facts eventId now = .ok s) :
    ∃ event, s.events.getLast? = some event ∧
      event.evidenceDigest = digestEvidence hash s.evidenceRefs := by
  obtain ⟨target, rfl⟩ := applyResolvedTransition_ok h
  exact ⟨_, List.getLast?_concat, rfl⟩

/-- **The digest of an evidence set** determines it against another one, if no two texts have the
same hash, exactly if the two are equal or differ in their lines. -/
theorem evidence_digest_iff {hash : Hasher} (hinj : Function.Injective hash.text) :
    (∀ values values' : BTreeSet String,
      (digestEvidence hash values = digestEvidence hash values' → values = values') ↔
        values = values' ∨ evidenceLines values ≠ evidenceLines values') ∧
    (∀ values values' : BTreeSet String, OneLineEach values → OneLineEach values' →
      digestEvidence hash values = digestEvidence hash values' → values = values') ∧
    ∀ current current' command command' facts facts' eventId eventId' now now' s s',
      applyResolvedTransition hash current command facts eventId now = .ok s →
      applyResolvedTransition hash current' command' facts' eventId' now' = .ok s' →
      ∃ event event', s.events.getLast? = some event ∧ s'.events.getLast? = some event' ∧
        ((event.evidenceDigest = event'.evidenceDigest → s.evidenceRefs = s'.evidenceRefs) ↔
          s.evidenceRefs = s'.evidenceRefs ∨
            evidenceLines s.evidenceRefs ≠ evidenceLines s'.evidenceRefs) := by
  have hdigest : ∀ values values' : BTreeSet String,
      digestEvidence hash values = digestEvidence hash values' ↔
        evidenceLines values = evidenceLines values' := by
    intro values values'
    rw [digestEvidence_eq, digestEvidence_eq, hinj.eq_iff, evidenceText_eq_iff]
  have hexact : ∀ values values' : BTreeSet String,
      (digestEvidence hash values = digestEvidence hash values' → values = values') ↔
        values = values' ∨ evidenceLines values ≠ evidenceLines values' := by
    intro values values'
    rw [hdigest, imp_iff_not_or, or_comm]
  refine ⟨hexact, ?_, ?_⟩
  · intro values values' hone hone' hsame
    exact hone.eq_of_lines hone' ((hdigest values values').mp hsame)
  · intro current current' command command' facts facts' eventId eventId' now now' s s' hs hs'
    obtain ⟨event, hlast, hevent⟩ := applyResolvedTransition_event hs
    obtain ⟨event', hlast', hevent'⟩ := applyResolvedTransition_event hs'
    refine ⟨event, event', hlast, hlast', ?_⟩
    rw [hevent, hevent']
    exact hexact s.evidenceRefs s'.evidenceRefs

def sampleEvidenceHasher : Hasher where
  text value :=
    if value = "a\n" then "87428fc522803d31065e7bce3cf03fe475096631e5e07bbd7a0fde60c4cf25c7"
    else if value = "b\n" then
      "0263829989b6fd954f72baaf2fc64bc2e2f01d692d4de72986ea808f6e99813f"
    else "." ++ value
  object := fun _ => ""

theorem sampleEvidenceHasher_injective : Function.Injective sampleEvidenceHasher.text := by
  have hdot : ∀ value digest : String, digest.toList.head? ≠ some '.' → "." ++ value ≠ digest := by
    rintro value _ hhead rfl
    exact hhead (by rw [String.toList_append]; rfl)
  have ha : ∀ value : String,
      "." ++ value ≠ "87428fc522803d31065e7bce3cf03fe475096631e5e07bbd7a0fde60c4cf25c7" :=
    fun value => hdot value _ (by decide)
  have hb : ∀ value : String,
      "." ++ value ≠ "0263829989b6fd954f72baaf2fc64bc2e2f01d692d4de72986ea808f6e99813f" :=
    fun value => hdot value _ (by decide)
  intro value value' h
  simp only [sampleEvidenceHasher] at h
  split at h
  · next hvalue =>
    split at h
    · next hvalue' => rw [hvalue, hvalue']
    · split at h
      · exact absurd h (by decide)
      · exact absurd h.symm (ha value')
  · split at h
    · next hvalue =>
      split at h
      · exact absurd h (by decide)
      · split at h
        · next hvalue' => rw [hvalue, hvalue']
        · exact absurd h.symm (hb value')
    · split at h
      · exact absurd h (ha value)
      · split at h
        · exact absurd h (hb value)
        · exact String.toList_inj.mp (by simpa using congrArg String.toList h)

/-- The sets `{a}` and `{b}` have different digests. -/
theorem evidence_digest_iff_sampleEvidence :
    digestEvidence sampleEvidenceHasher {"a"} ≠ digestEvidence sampleEvidenceHasher {"b"} := by
  have hone : OneLineEach {"a"} := by decide
  have hone' : OneLineEach {"b"} := by decide
  intro hsame
  have heq := (evidence_digest_iff sampleEvidenceHasher_injective).2.1 {"a"} {"b"} hone hone' hsame
  have hmem : "a" ∈ ({"b"} : BTreeSet String) := heq ▸ by decide
  exact absurd hmem (by decide)

def sampleEvidenceFacts (evidenceRefs : BTreeSet String) : ResolvedTransitionFacts where
  evidenceRefs := evidenceRefs
  ledgerStatus := none
  evaluation := none
  compensationVerified := false
  credentialRevoked := false
  supervisorAcknowledged := false
  execution := none

/-- One reference of two lines has the digest of the two lines. -/
theorem split_reference_same_digest :
    ∃ values values' : BTreeSet String,
      (sampleEvidenceFacts values).validate = .ok () ∧
        (sampleEvidenceFacts values').validate = .ok () ∧
      digestEvidence sampleEvidenceHasher values = digestEvidence sampleEvidenceHasher values' ∧
      values ≠ values' := by
  refine ⟨{"a\nb"}, {"a", "b"}, rfl, rfl, ?_, ?_⟩
  · decide
  · intro heq
    have hmem : "a\nb" ∈ ({"a", "b"} : BTreeSet String) := heq ▸ by decide
    exact absurd hmem (by decide)

end AgentSphere.Orchestrator
