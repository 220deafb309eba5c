import AgentSphere.ActionIr.Canonical

/-!
# Secrets by key name

`normalize` refuses a draft whose payload names a member after a secret, however deep. The other
JSON values of an action, its extensions and the target of its expected outcome, go into the
canonical action without that check.
-/

namespace AgentSphere.ActionIr

open Concurrency

def SensitiveName (key : String) : Prop := ∃ name ∈ sensitiveKeys, eqIgnoreAsciiCase key name

inductive HasSensitiveMember : Value → Prop where
  | named {members : List (String × Value)} {key : String} {child : Value} :
      (key, child) ∈ members → SensitiveName key → HasSensitiveMember (.object members)
  | member {members : List (String × Value)} {key : String} {child : Value} :
      (key, child) ∈ members → HasSensitiveMember child → HasSensitiveMember (.object members)
  | item {items : List Value} {child : Value} :
      child ∈ items → HasSensitiveMember child → HasSensitiveMember (.array items)

-- The check

theorem contains_sensitiveKeys {key : String} :
    sensitiveKeys.contains (toAsciiLowercase key) = true ↔ SensitiveName key := by
  have hlower : ∀ name ∈ sensitiveKeys, toAsciiLowercase name = name := by decide +kernel
  rw [List.contains_iff_mem]
  constructor
  · intro hmem
    refine ⟨toAsciiLowercase key, hmem, ?_⟩
    rw [eqIgnoreAsciiCase, beq_iff_eq]
    exact (hlower _ hmem).symm
  · rintro ⟨name, hname, heq⟩
    rw [eqIgnoreAsciiCase, beq_iff_eq] at heq
    have hkey : toAsciiLowercase key = name := heq.trans (hlower name hname)
    exact hkey ▸ hname

theorem hasSensitiveMember_object {members : List (String × Value)} :
    HasSensitiveMember (.object members) ↔
      ∃ member ∈ members, SensitiveName member.1 ∨ HasSensitiveMember member.2 := by
  constructor
  · rintro (⟨hmem, hname⟩ | ⟨hmem, hchild⟩)
    · exact ⟨_, hmem, .inl hname⟩
    · exact ⟨_, hmem, .inr hchild⟩
  · rintro ⟨⟨key, child⟩, hmem, hname | hchild⟩
    · exact .named hmem hname
    · exact .member hmem hchild

theorem hasSensitiveMember_array {items : List Value} :
    HasSensitiveMember (.array items) ↔ ∃ child ∈ items, HasSensitiveMember child := by
  constructor
  · rintro (_ | _ | ⟨hmem, hchild⟩)
    exact ⟨_, hmem, hchild⟩
  · rintro ⟨child, hmem, hchild⟩
    exact .item hmem hchild

mutual

theorem rejectSensitiveKeys_eq_ok : ∀ (v : Value) (path : String),
    rejectSensitiveKeys v path = .ok () ↔ ¬HasSensitiveMember v
  | .object members, path => by
    rw [rejectSensitiveKeys, rejectSensitiveMembers_eq_ok, hasSensitiveMember_object]
  | .array items, path => by
    rw [rejectSensitiveKeys, rejectSensitiveItems_eq_ok, hasSensitiveMember_array]
  | .null, path => iff_of_true rfl nofun
  | .bool _, path => iff_of_true rfl nofun
  | .number _, path => iff_of_true rfl nofun
  | .string _, path => iff_of_true rfl nofun

theorem rejectSensitiveMembers_eq_ok : ∀ (members : List (String × Value)) (path : String),
    rejectSensitiveMembers members path = .ok () ↔
      ¬∃ member ∈ members, SensitiveName member.1 ∨ HasSensitiveMember member.2
  | [], path => iff_of_true rfl (by simp)
  | (key, child) :: members, path => by
    rw [rejectSensitiveMembers]
    split_ifs with hkey
    · have hname := contains_sensitiveKeys.mp hkey
      exact iff_of_false nofun fun hnone => hnone ⟨_, List.mem_cons_self, .inl hname⟩
    · have hname := mt contains_sensitiveKeys.mpr hkey
      simp only [except_bind_eq_ok, exists_const, List.exists_mem_cons_iff, not_or, hname,
        rejectSensitiveKeys_eq_ok child, rejectSensitiveMembers_eq_ok members, not_false_eq_true,
        true_and]

theorem rejectSensitiveItems_eq_ok : ∀ (items : List Value) (path : String) (index : Nat),
    rejectSensitiveItems items path index = .ok () ↔
      ¬∃ child ∈ items, HasSensitiveMember child
  | [], path, index => iff_of_true rfl (by simp)
  | child :: items, path, index => by
    rw [rejectSensitiveItems]
    simp only [except_bind_eq_ok, exists_const, List.exists_mem_cons_iff, not_or,
      rejectSensitiveKeys_eq_ok child, rejectSensitiveItems_eq_ok items]

end

-- Normalization

structure SecretFree (action : CanonicalAction) : Prop where
  payload : ¬HasSensitiveMember (.object action.payload.data)
  extensions : ∀ member ∈ action.extensions, ¬HasSensitiveMember member.2
  target : ¬HasSensitiveMember action.expectedOutcome.target

variable {Bytes Digest : Type}

/-- **Which canonical actions are free of secrets**: those of the drafts whose extensions and
whose expected target are. The payload is checked. -/
theorem normalize_secretFree_iff {canon : Canon Bytes Digest} {draft : ActionDraft}
    {ctx : NormalizationContext} {action : CanonicalAction}
    (h : normalize canon draft ctx = .ok action) :
    SecretFree action ↔
      (∀ member ∈ draft.extensions, ¬HasSensitiveMember member.2) ∧
        ¬HasSensitiveMember draft.expectedOutcome.target := by
  obtain ⟨locator, haccepted, rfl⟩ := normalize_eq_ok.mp h
  have hpayload : ¬HasSensitiveMember (.object draft.payload.data) :=
    (rejectSensitiveKeys_eq_ok _ _).mp haccepted.secrets
  constructor
  · intro hfree
    exact ⟨hfree.extensions, hfree.target⟩
  · rintro ⟨hextensions, htarget⟩
    exact ⟨hpayload, hextensions, htarget⟩

theorem normalize_secretFree_iff_samplePlain :
    SecretFree (canonicalAction samplePlain "org/repository") :=
  (normalize_secretFree_iff samplePlain_normalizes).mpr ⟨nofun, nofun⟩

def sampleWithPassword : ActionDraft :=
  { samplePlain with extensions := [("x-note", .object [("password", .string "hunter2")])] }

/-- It is normalized, and the password stays in the action. -/
theorem extension_secret_kept :
    ∃ action, normalize sampleCanon sampleWithPassword .default = .ok action ∧
      ∃ member ∈ action.extensions, HasSensitiveMember member.2 := by
  refine ⟨canonicalAction sampleWithPassword "org/repository", ?_, _, List.mem_singleton_self _,
    .named List.mem_cons_self ⟨"password", by decide, by decide +kernel⟩⟩
  exact normalize_eq_ok.mpr ⟨"org/repository",
    ⟨by decide +kernel, by decide +kernel, by decide +kernel, by decide +kernel,
      by decide +kernel, by decide +kernel, by decide +kernel⟩, rfl⟩

end AgentSphere.ActionIr
