import AgentSphere.Lib.Pairings
import AgentSphere.Lib.Program
import AgentSphere.Models.Requests

/-!
# Billing statements

A statement of a provider is compared with the evidence of the requests. The lines are found by the
identifier that the provider gave to a request, and the identifiers of the lines have to be
distinct. Those of the evidence need not be: two requests with one identifier are compared with the
same line, and then there is a line that nothing was compared with.
-/

namespace AgentSphere.Models

open Concurrency Pairings

structure ProviderUsageLine where
  providerKey : String
  providerRequestId : String
  inputTokens : Nat
  outputTokens : Nat
  billedMicrounits : Nat

structure BillingReconciliation where
  schemaVersion : String
  matchedRequests : Nat
  totalMeteredMicrounits : Nat
  totalBilledMicrounits : Nat
  statementDigest : String

/-- `u64::checked_add`; an overflow ends the reconciliation. -/
def checkedAdd (a b : Nat) : Except ModelError Nat :=
  if a + b < 2 ^ 64 then .ok (a + b) else .error .billingMismatch

/-- `Option::ok_or(ModelError::BillingMismatch)`. -/
def matchedOr {α : Type} : Option α → Except ModelError α
  | some a => .ok a
  | none => .error .billingMismatch

def ProviderUsageLine.Identified (line : ProviderUsageLine) : Prop :=
  line.providerRequestId ≠ "" ∧ line.providerKey ≠ ""

instance (line : ProviderUsageLine) : Decidable line.Identified :=
  inferInstanceAs (Decidable (_ ∧ _))

def ModelEvidence.Agrees (item : ModelEvidence) (line : ProviderUsageLine) : Prop :=
  line.providerKey = item.providerKey ∧ line.inputTokens = item.inputTokens ∧
    line.outputTokens = item.outputTokens ∧ line.billedMicrounits = item.costMicrounits

instance (item : ModelEvidence) (line : ProviderUsageLine) : Decidable (item.Agrees line) :=
  inferInstanceAs (Decidable (_ ∧ _ ∧ _ ∧ _))

def indexLines : List ProviderUsageLine → BTreeMap String ProviderUsageLine →
    Except ModelError (BTreeMap String ProviderUsageLine)
  | [], byRequest => .ok byRequest
  | line :: lines, byRequest => do
    require (line.Identified ∧ byRequest[line.providerRequestId]? = none) .billingMismatch
    indexLines lines (byRequest.insert line.providerRequestId line)

def meterEvidence (byRequest : BTreeMap String ProviderUsageLine) :
    List ModelEvidence → Nat → Nat → Except ModelError (Nat × Nat)
  | [], totalMetered, totalBilled => .ok (totalMetered, totalBilled)
  | item :: items, totalMetered, totalBilled => do
    let line ← matchedOr byRequest[item.providerRequestId]?
    require (item.Agrees line) .billingMismatch
    let totalMetered ← checkedAdd totalMetered item.costMicrounits
    let totalBilled ← checkedAdd totalBilled line.billedMicrounits
    meterEvidence byRequest items totalMetered totalBilled

def reconcileProviderBilling (digest : List ProviderUsageLine → Option String)
    (evidence : List ModelEvidence) (statement : List ProviderUsageLine) :
    Except ModelError BillingReconciliation := do
  require (evidence ≠ [] ∧ evidence.length = statement.length ∧ evidence.length ≤ 1000000)
    .billingMismatch
  let byRequest ← indexLines statement ∅
  let (totalMetered, totalBilled) ← meterEvidence byRequest evidence 0 0
  let statementDigest ← matchedOr (digest statement)
  return {
    schemaVersion := modelSchemaVersion
    matchedRequests := evidence.length
    totalMeteredMicrounits := totalMetered
    totalBilledMicrounits := totalBilled
    statementDigest }

-- What is asked of a statement

def Bills (item : ModelEvidence) (line : ProviderUsageLine) : Prop :=
  item.providerRequestId = line.providerRequestId ∧ item.Agrees line

structure Reconcilable (digest : List ProviderUsageLine → Option String)
    (evidence : List ModelEvidence) (statement : List ProviderUsageLine) : Prop where
  present : evidence ≠ []
  sameLength : evidence.length = statement.length
  bounded : evidence.length ≤ 1000000
  identified : ∀ line ∈ statement, line.Identified
  distinct : (statement.map (·.providerRequestId)).Nodup
  billed : ∀ item ∈ evidence, ∃ line ∈ statement, Bills item line
  total : (evidence.map (·.costMicrounits)).sum < 2 ^ 64
  canonical : (digest statement).isSome = true

/-- Evidence and statement are paired, every line has one piece of evidence, and the total is that
of the statement. -/
structure Reconciled (evidence : List ModelEvidence) (statement : List ProviderUsageLine)
    (reconciliation : BillingReconciliation) : Prop where
  paired : Paired Bills evidence statement
  once : ∀ j : Fin statement.length, ∃! i : Fin evidence.length,
    Bills (evidence.get i) (statement.get j)
  total : reconciliation.totalBilledMicrounits = (statement.map (·.billedMicrounits)).sum

section Reconciliation

variable {digest : List ProviderUsageLine → Option String} {evidence : List ModelEvidence}
  {statement lines : List ProviderUsageLine} {line : ProviderUsageLine}
  {byRequest byRequest' : BTreeMap String ProviderUsageLine}

theorem checkedAdd_eq_ok {a b c : Nat} : checkedAdd a b = .ok c ↔ a + b < 2 ^ 64 ∧ c = a + b := by
  unfold checkedAdd
  by_cases h : a + b < 2 ^ 64
  · rw [if_pos h, Except.ok.injEq]
    exact ⟨fun heq => ⟨h, heq.symm⟩, fun heq => heq.2.symm⟩
  · rw [if_neg h]
    exact ⟨nofun, fun heq => absurd heq.1 h⟩

theorem matchedOr_eq_ok {α : Type} {value : Option α} {a : α} :
    matchedOr value = .ok a ↔ value = some a := by
  cases value with
  | none => simp [matchedOr]
  | some b => simp [matchedOr]

def enter (lines : List ProviderUsageLine) (byRequest : BTreeMap String ProviderUsageLine) :
    BTreeMap String ProviderUsageLine :=
  lines.foldl (fun byRequest line => byRequest.insert line.providerRequestId line) byRequest

theorem indexLines_eq_ok :
    indexLines lines byRequest = .ok byRequest' ↔
      (∀ line ∈ lines, line.Identified ∧ byRequest[line.providerRequestId]? = none) ∧
      (lines.map (·.providerRequestId)).Nodup ∧ byRequest' = enter lines byRequest := by
  induction lines generalizing byRequest with
  | nil => simp [indexLines, enter, eq_comm]
  | cons line lines ih =>
    simp only [indexLines, except_bind_eq_ok, require_eq_ok, Unique.exists_iff, ih,
      List.forall_mem_cons, List.map_cons, List.nodup_cons, List.mem_map, not_exists, not_and]
    have hfresh : (∀ other ∈ lines, other.Identified ∧
        (byRequest.insert line.providerRequestId line)[other.providerRequestId]? = none) ↔
        (∀ other ∈ lines, other.Identified ∧ byRequest[other.providerRequestId]? = none) ∧
          ∀ other ∈ lines, other.providerRequestId ≠ line.providerRequestId := by
      rw [← forall₂_and]
      refine forall₂_congr fun other _ => ?_
      rw [BTreeMap.getElem?_insert_ite, and_assoc]
      refine and_congr_right fun _ => ?_
      split
      · rename_i heq
        simp [heq]
      · rename_i hne
        simp [Ne.symm hne]
    rw [hfresh]
    constructor
    · rintro ⟨hline, ⟨hlines, hnew⟩, hdistinct, hmap⟩
      exact ⟨⟨hline, hlines⟩, ⟨hnew, hdistinct⟩, hmap⟩
    · rintro ⟨⟨hline, hlines⟩, ⟨hnew, hdistinct⟩, hmap⟩
      exact ⟨hline, ⟨hlines, hnew⟩, hdistinct, hmap⟩

theorem getElem?_enter (hdistinct : (lines.map (·.providerRequestId)).Nodup) {id : String} :
    (enter lines byRequest)[id]? = some line ↔
      line ∈ lines ∧ line.providerRequestId = id ∨
        byRequest[id]? = some line ∧ ∀ other ∈ lines, other.providerRequestId ≠ id := by
  induction lines generalizing byRequest with
  | nil => simp [enter]
  | cons first lines ih =>
    obtain ⟨hnew, hdistinct⟩ := List.nodup_cons.mp hdistinct
    have hstep : enter (first :: lines) byRequest =
        enter lines (byRequest.insert first.providerRequestId first) := rfl
    rw [hstep, ih hdistinct, BTreeMap.getElem?_insert_ite]
    by_cases hid : first.providerRequestId = id
    · -- no later line has the identifier of the first one
      have hlater : ∀ other ∈ lines, other.providerRequestId ≠ id := by
        rintro other hother rfl
        exact hnew (List.mem_map.mpr ⟨other, hother, hid.symm⟩)
      rw [if_pos hid]
      constructor
      · rintro (⟨hmem, rfl⟩ | ⟨hfirst, -⟩)
        · exact absurd rfl (hlater line hmem)
        · obtain rfl := Option.some.inj hfirst
          exact .inl ⟨List.mem_cons_self, hid⟩
      · rintro (⟨hmem, hline⟩ | ⟨-, hnone⟩)
        · rcases List.mem_cons.mp hmem with rfl | hmem
          · exact .inr ⟨rfl, hlater⟩
          · exact absurd hline (hlater line hmem)
        · exact absurd hid (hnone first List.mem_cons_self)
    · rw [if_neg hid, List.forall_mem_cons, List.mem_cons]
      constructor
      · rintro (⟨hmem, hline⟩ | ⟨hold, hnone⟩)
        · exact .inl ⟨.inr hmem, hline⟩
        · exact .inr ⟨hold, hid, hnone⟩
      · rintro (⟨rfl | hmem, hline⟩ | ⟨hold, -, hnone⟩)
        · exact absurd hline hid
        · exact .inl ⟨hmem, hline⟩
        · exact .inr ⟨hold, hnone⟩

theorem getElem?_enter_empty (hdistinct : (statement.map (·.providerRequestId)).Nodup)
    {id : String} :
    (enter statement ∅)[id]? = some line ↔ line ∈ statement ∧ line.providerRequestId = id := by
  rw [getElem?_enter hdistinct]
  simp

theorem meterEvidence_eq_ok {totalMetered totalBilled : Nat} {totals : Nat × Nat}
    (hmetered : totalMetered < 2 ^ 64) (hbilled : totalBilled < 2 ^ 64) :
    meterEvidence byRequest evidence totalMetered totalBilled = .ok totals ↔
      (∀ item ∈ evidence, ∃ line, byRequest[item.providerRequestId]? = some line ∧
        item.Agrees line) ∧
      totalMetered + (evidence.map (·.costMicrounits)).sum < 2 ^ 64 ∧
      totalBilled + (evidence.map (·.costMicrounits)).sum < 2 ^ 64 ∧
      totals = (totalMetered + (evidence.map (·.costMicrounits)).sum,
        totalBilled + (evidence.map (·.costMicrounits)).sum) := by
  induction evidence generalizing totalMetered totalBilled with
  | nil =>
    simp only [meterEvidence, Except.ok.injEq, List.map_nil, List.sum_nil, Nat.add_zero, hmetered,
      hbilled, true_and, List.not_mem_nil, false_imp_iff, implies_true]
    exact eq_comm
  | cons item items ih =>
    simp only [meterEvidence, except_bind_eq_ok, matchedOr_eq_ok, require_eq_ok, checkedAdd_eq_ok,
      Unique.exists_iff, List.forall_mem_cons, List.map_cons, List.sum_cons]
    constructor
    · rintro ⟨line, hline, hagrees, metered, ⟨hroom, rfl⟩, billed, ⟨hroom', rfl⟩, hrest⟩
      obtain ⟨hitems, hsum, hsum', rfl⟩ := (ih hroom hroom').mp hrest
      rw [hagrees.2.2.2] at hsum' ⊢
      rw [Nat.add_assoc] at hsum hsum' ⊢
      rw [Nat.add_assoc]
      exact ⟨⟨⟨line, hline, hagrees⟩, hitems⟩, hsum, hsum', rfl⟩
    · rintro ⟨⟨⟨line, hline, hagrees⟩, hitems⟩, hsum, hsum', rfl⟩
      have hcost := hagrees.2.2.2
      refine ⟨line, hline, hagrees, _, ⟨by omega, rfl⟩, _, ⟨by omega, rfl⟩, ?_⟩
      refine (ih (by omega) (by omega)).mpr ⟨hitems, by omega, by omega, ?_⟩
      rw [hcost, Nat.add_assoc, Nat.add_assoc]

theorem reconcileProviderBilling_eq_ok {reconciliation : BillingReconciliation} :
    reconcileProviderBilling digest evidence statement = .ok reconciliation ↔
      Reconcilable digest evidence statement ∧ ∃ statementDigest,
        digest statement = some statementDigest ∧ reconciliation = {
          schemaVersion := modelSchemaVersion
          matchedRequests := evidence.length
          totalMeteredMicrounits := (evidence.map (·.costMicrounits)).sum
          totalBilledMicrounits := (evidence.map (·.costMicrounits)).sum
          statementDigest } := by
  simp only [reconcileProviderBilling, except_bind_eq_ok, require_eq_ok, Unique.exists_iff,
    indexLines_eq_ok, meterEvidence_eq_ok (show 0 < 2 ^ 64 by decide) (show 0 < 2 ^ 64 by decide),
    matchedOr_eq_ok, Nat.zero_add]
  constructor
  · rintro ⟨⟨hpresent, hlength, hbounded⟩, _, ⟨hlines, hdistinct, rfl⟩, _,
      ⟨hitems, htotal, -, rfl⟩, statementDigest, hdigest, hresult⟩
    refine ⟨⟨hpresent, hlength, hbounded, fun line hline => (hlines line hline).1, hdistinct,
      fun item hitem => ?_, htotal, by rw [hdigest]; rfl⟩, statementDigest, hdigest,
      (Except.ok.inj hresult).symm⟩
    obtain ⟨line, hfound, hagrees⟩ := hitems item hitem
    obtain ⟨hline, hid⟩ := (getElem?_enter_empty hdistinct).mp hfound
    exact ⟨line, hline, hid.symm, hagrees⟩
  · rintro ⟨h, statementDigest, hdigest, rfl⟩
    refine ⟨⟨h.present, h.sameLength, h.bounded⟩, _,
      ⟨fun line hline => ⟨h.identified line hline, by simp⟩, h.distinct, rfl⟩, _,
      ⟨fun item hitem => ?_, h.total, h.total, rfl⟩, statementDigest, hdigest, rfl⟩
    obtain ⟨line, hline, hid, hagrees⟩ := h.billed item hitem
    exact ⟨line, (getElem?_enter_empty h.distinct).mpr ⟨hline, hid.symm⟩, hagrees⟩

/-- **When an accepted statement is reconciled**: the identifiers of the evidence are distinct, or
the statement is not accepted at all. -/
theorem reconciled_iff (digest : List ProviderUsageLine → Option String)
    (evidence : List ModelEvidence) (statement : List ProviderUsageLine) :
    (∀ reconciliation,
      reconcileProviderBilling digest evidence statement = .ok reconciliation →
        Reconciled evidence statement reconciliation) ↔
    (evidence.map (·.providerRequestId)).Nodup ∨ ¬Reconcilable digest evidence statement := by
  have hkey : ∀ item line, Bills item line →
      item.providerRequestId = line.providerRequestId := fun _ _ h => h.1
  constructor
  · intro hreconciled
    by_cases h : Reconcilable digest evidence statement
    · obtain ⟨statementDigest, hdigest⟩ := Option.isSome_iff_exists.mp h.canonical
      have hpaired := (hreconciled _ (reconcileProviderBilling_eq_ok.mpr
        ⟨h, statementDigest, hdigest, rfl⟩)).paired
      exact .inl ((hpaired.nodup_iff hkey).mpr h.distinct)
    · exact .inr h
  · rintro hcases reconciliation hok
    obtain ⟨h, statementDigest, -, rfl⟩ := reconcileProviderBilling_eq_ok.mp hok
    have hdistinct := hcases.resolve_right (not_not.mpr h)
    have hpaired : Paired Bills evidence statement :=
      paired_of_keys hkey hdistinct h.sameLength h.billed
    exact ⟨hpaired, fun j => hpaired.existsUnique hkey h.distinct j,
      hpaired.sum_eq fun _ _ hbills => hbills.2.2.2.2.symm⟩

end Reconciliation

-- A line that nothing was compared with

def sampleEvidence (providerRequestId : String) : ModelEvidence where
  requestHash := "hash"
  providerKey := "provider:model:1"
  providerRequestId
  routeReasons := ["unit_cost:1"]
  dataPolicyVersion := "data-v1"
  dataPolicyDecisionDigest := "digest"
  inputTokens := 2
  outputTokens := 3
  costMicrounits := 5
  outputHash := "hash"
  createdAt := 0

def sampleLine (providerRequestId : String) (billedMicrounits : Nat) : ProviderUsageLine where
  providerKey := "provider:model:1"
  providerRequestId
  inputTokens := 2
  outputTokens := 3
  billedMicrounits

theorem sampleStatement_reconcilable : Reconcilable (fun _ => some "digest")
    [sampleEvidence "request-1", sampleEvidence "request-1"]
    [sampleLine "request-1" 5, sampleLine "request-2" 900] where
  present := nofun
  sameLength := rfl
  bounded := by decide
  identified := by decide
  distinct := by decide
  billed item hitem := by
    obtain rfl : item = sampleEvidence "request-1" := by simpa using hitem
    exact ⟨sampleLine "request-1" 5, List.mem_cons_self, rfl, by decide⟩
  total := by decide
  canonical := rfl

/-- **Counterexample**: the identifier of one request occurs twice, and the bill for a request that
was never metered is accepted. -/
theorem unmetered_line_accepted : ∃ reconciliation,
    reconcileProviderBilling (fun _ => some "digest")
      [sampleEvidence "request-1", sampleEvidence "request-1"]
      [sampleLine "request-1" 5, sampleLine "request-2" 900] = .ok reconciliation ∧
    ¬Reconciled [sampleEvidence "request-1", sampleEvidence "request-1"]
      [sampleLine "request-1" 5, sampleLine "request-2" 900] reconciliation ∧
    reconciliation.totalBilledMicrounits = 10 := by
  refine ⟨_, reconcileProviderBilling_eq_ok.mpr
    ⟨sampleStatement_reconcilable, "digest", rfl, rfl⟩, fun hreconciled => ?_, by decide⟩
  exact absurd hreconciled.total (by decide)

end AgentSphere.Models
