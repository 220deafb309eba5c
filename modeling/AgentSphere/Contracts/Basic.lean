import AgentSphere.Contracts.Json
import AgentSphere.Contracts.Text
import Std.Data.ExtTreeMap.Lemmas
import Std.Data.ExtTreeSet.Lemmas

/-!
# Shared contracts

Identifiers, closed enumerations and the small records that several services exchange.
Identifiers are the strings they wrap. A `BTreeMap` is an ordered map that is equal to another
exactly when it holds the same entries, and it iterates in key order.
-/

namespace AgentSphere

abbrev BTreeMap (K V : Type) [Ord K] := Std.ExtTreeMap K V compare
abbrev BTreeSet (K : Type) [Ord K] := Std.ExtTreeSet K compare

instance instOrdPair {α β : Type} [Ord α] [Ord β] : Ord (α × β) := lexOrd

@[simp] theorem BTreeMap.getElem?_insert_ite {K V : Type} [Ord K] [Std.TransOrd K]
    [Std.LawfulEqOrd K] [DecidableEq K] (m : BTreeMap K V) (k k' : K) (v : V) :
    (m.insert k v)[k']? = if k = k' then some v else m[k']? := by
  rw [Std.ExtTreeMap.getElem?_insert]
  simp only [Std.compare_eq_iff_eq]

theorem BTreeMap.ofList_toList {K V : Type} [Ord K] [Std.TransOrd K] [Std.LawfulEqOrd K]
    [DecidableEq K] (m : BTreeMap K V) : Std.ExtTreeMap.ofList m.toList compare = m := by
  refine Std.ExtTreeMap.ext_getElem? fun k => ?_
  cases hk : m[k]? with
  | some v =>
    exact Std.ExtTreeMap.getElem?_ofList_of_mem Std.ReflCmp.compare_self
      Std.ExtTreeMap.distinct_keys_toList
      (Std.ExtTreeMap.mem_toList_iff_getElem?_eq_some.mpr hk)
  | none =>
    refine Std.ExtTreeMap.getElem?_ofList_of_contains_eq_false ?_
    rw [Std.ExtTreeMap.map_fst_toList_eq_keys, List.contains_eq_mem]
    refine decide_eq_false fun hmem => ?_
    rw [Std.ExtTreeMap.mem_keys, Std.ExtTreeMap.mem_iff_isSome_getElem?, hk] at hmem
    cases hmem

def require {ε : Type} (condition : Prop) [Decidable condition] (error : ε) : Except ε Unit :=
  if condition then .ok () else .error error

@[simp] theorem require_eq_ok {ε : Type} {condition : Prop} [Decidable condition] {error : ε}
    {u : Unit} : require condition error = .ok u ↔ condition := by
  unfold require
  by_cases h : condition
  · simp [h]
  · simp [h]

abbrev TenantId := String
abbrev TaskId := String
abbrev StepId := String
abbrev ActionId := String
abbrev AgentInstanceId := String
abbrev ApprovalId := String
abbrev ExecutionId := String
abbrev ToolId := String
abbrev ToolVersion := String
abbrev PolicyVersion := String
abbrev ArtifactRef := String
abbrev SchemaVersion := String
abbrev ResourceVersion := String
abbrev IdempotencyKey := String
abbrev ActionHash := String

abbrev DateTime := Int

/-- `chrono::Duration::seconds`, in nanoseconds; it panics beyond the range of milliseconds. -/
def durationSeconds (seconds : Int) : Option Int :=
  if -9223372036854775 ≤ seconds ∧ seconds ≤ 9223372036854775 then some (seconds * 1000000000)
  else none

theorem durationSeconds_eq_some {seconds duration : Int}
    (h : durationSeconds seconds = some duration) : duration = seconds * 1000000000 := by
  unfold durationSeconds at h
  split at h
  · exact (Option.some.inj h).symm
  · cases h

/-- The sum of an instant and a duration; it panics beyond the instants of `chrono`. -/
def DateTime.add (instant : DateTime) (duration : Int) : Option DateTime :=
  if -8334601228800000000000 ≤ instant + duration ∧
      instant + duration ≤ 8210266876799999999999 then
    some (instant + duration)
  else none

theorem DateTime.add_eq_some {instant result : DateTime} {duration : Int}
    (h : instant.add duration = some result) : result = instant + duration := by
  unfold DateTime.add at h
  split at h
  · exact (Option.some.inj h).symm
  · cases h

def asI64 (n : Nat) : Int := (BitVec.ofNat 64 n).toInt

theorem asI64_le (n : Nat) : asI64 n ≤ n := by
  rw [asI64, BitVec.toInt_ofNat', Int.bmod_def]
  split <;> omega

inductive ExecutionStatus where
  | prepared
  | running
  | succeeded
  | failed
  | timedOut
  | cancelled
  | killed
  | compensating
  | compensated
  | compensationFailed
  | unknown
  deriving DecidableEq, Repr

/-- The name `{:?}` prints. -/
def ExecutionStatus.debug : ExecutionStatus → String
  | .prepared => "Prepared"
  | .running => "Running"
  | .succeeded => "Succeeded"
  | .failed => "Failed"
  | .timedOut => "TimedOut"
  | .cancelled => "Cancelled"
  | .killed => "Killed"
  | .compensating => "Compensating"
  | .compensated => "Compensated"
  | .compensationFailed => "CompensationFailed"
  | .unknown => "Unknown"

inductive EffectClass where
  | pure
  | idempotent
  | compensatable
  | irreversible
  deriving DecidableEq, Repr

structure ToolRef where
  toolId : ToolId
  toolVersion : ToolVersion
  deriving DecidableEq, Repr

end AgentSphere
