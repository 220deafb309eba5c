import AgentSphere.Contracts.Authority
import AgentSphere.Sandbox.Basic

/-!
# Budgets of executions

A budget bounds what is kept of the output of an execution: at most so many bytes of its standard
output and so many of its standard error. `validate` compares the sum of both bounds with what the
authorization allows. The sum is one of 64 bits: where overflows are not checked it wraps around,
so that two large bounds pass for a small sum.

The numbers of a machine have 64 bits. What a reader returns is given as it is: one chunk for each
read, up to the end of the stream or to the error that ends it.
-/

namespace AgentSphere.Sandbox

-- Budgets

structure ResourceBudget where
  cpuMillis : UInt64
  memoryBytes : UInt64
  pids : UInt32
  diskBytes : UInt64
  maxStdoutBytes : UInt64
  maxStderrBytes : UInt64
  timeoutMs : UInt64
  deriving DecidableEq

namespace ResourceBudget

variable (budget : ResourceBudget) (authorization : ExecutionAuthorization)

/-- The checks of `validate` before the sum. -/
def RefusedEarly : Prop :=
  budget.cpuMillis = 0 ∨ budget.memoryBytes = 0 ∨ budget.pids = 0 ∨ budget.diskBytes = 0 ∨
    budget.timeoutMs = 0 ∨ authorization.maxExecutionMs < budget.timeoutMs.toNat

instance : Decidable (budget.RefusedEarly authorization) :=
  inferInstanceAs (Decidable (_ ∨ _))

/-- The sum of `validate` does not fit in 64 bits. -/
def SumOverflows : Prop := 2 ^ 64 ≤ budget.maxStdoutBytes.toNat + budget.maxStderrBytes.toNat

instance : Decidable budget.SumOverflows := Nat.decLe _ _

/-- `validate`, in a build that checks for overflows or in one that does not. -/
def validate (overflowChecks : Bool) : Except SandboxError Unit :=
  if budget.RefusedEarly authorization then .error .resourceLimitInvalid
  else if overflowChecks = true ∧ budget.SumOverflows then .error .panicked
  else if authorization.maxResultBytes < (budget.maxStdoutBytes + budget.maxStderrBytes).toNat then
    .error .resourceLimitInvalid
  else .ok ()

end ResourceBudget

-- Streams

structure Chunk where
  bytes : List UInt8
  some : bytes ≠ []
  fits : bytes.length ≤ 8192

structure BoundedOutput where
  bytes : List UInt8
  truncated : Bool
  deriving DecidableEq

section Reading

variable {ε : Type}

/-- The loop of `read_bounded`, with what is stored so far. The reads end with the stream. -/
def readLoop (limit : UInt64) (stored : List UInt8) (truncated : Bool) :
    List (Except ε Chunk) → Except ε BoundedOutput
  | [] => .ok ⟨stored, truncated⟩
  | .error e :: _ => .error e
  | .ok chunk :: reads =>
    let remaining := limit.toNat - stored.length
    let take := min remaining chunk.bytes.length
    readLoop limit (stored ++ chunk.bytes.take take)
      (truncated || decide (take < chunk.bytes.length)) reads

def readBounded (limit : UInt64) (reads : List (Except ε Chunk)) : Except ε BoundedOutput :=
  readLoop limit [] false reads

theorem readLoop_map_ok {limit : UInt64} (chunks : List Chunk) (seen : List UInt8) :
    readLoop limit (seen.take limit.toNat) (decide (limit.toNat < seen.length))
        (chunks.map (.ok : Chunk → Except ε Chunk)) =
      .ok ⟨(seen ++ chunks.flatMap Chunk.bytes).take limit.toNat,
        decide (limit.toNat < (seen ++ chunks.flatMap Chunk.bytes).length)⟩ := by
  induction chunks generalizing seen with
  | nil => simp [readLoop]
  | cons chunk chunks ih =>
    have hstored : seen.take limit.toNat ++ chunk.bytes.take
        (min (limit.toNat - (seen.take limit.toNat).length) chunk.bytes.length) =
          (seen ++ chunk.bytes).take limit.toNat := by
      have hremaining : limit.toNat - min limit.toNat seen.length = limit.toNat - seen.length := by
        omega
      rw [List.take_append, List.length_take, hremaining, ← List.take_eq_take_min]
    have htruncated : (decide (limit.toNat < seen.length) || decide
        (min (limit.toNat - (seen.take limit.toNat).length) chunk.bytes.length <
          chunk.bytes.length)) = decide (limit.toNat < (seen ++ chunk.bytes).length) := by
      rw [← Bool.decide_or, List.length_take, List.length_append]
      refine decide_eq_decide.mpr ?_
      omega
    rw [List.map_cons, readLoop, hstored, htruncated, ih (seen ++ chunk.bytes),
      List.flatMap_cons, List.append_assoc]

/-- The first bytes of a stream are kept, up to the limit, however it is read; it is truncated if it
is longer. -/
theorem readBounded_map_ok (limit : UInt64) (chunks : List Chunk) :
    readBounded limit (chunks.map (.ok : Chunk → Except ε Chunk)) =
      .ok ⟨(chunks.flatMap Chunk.bytes).take limit.toNat,
        decide (limit.toNat < (chunks.flatMap Chunk.bytes).length)⟩ := by
  have h : readLoop limit _ _ (chunks.map (.ok : Chunk → Except ε Chunk)) = _ :=
    readLoop_map_ok chunks []
  simpa [readBounded] using h

theorem length_of_readLoop {limit : UInt64} {stored : List UInt8} {truncated : Bool}
    {reads : List (Except ε Chunk)} {output : BoundedOutput} (hstored : stored.length ≤ limit.toNat)
    (h : readLoop limit stored truncated reads = .ok output) :
    output.bytes.length ≤ limit.toNat := by
  induction reads generalizing stored truncated with
  | nil =>
    obtain rfl := Except.ok.inj h
    exact hstored
  | cons read reads ih =>
    cases read with
    | error e => cases h
    | ok chunk =>
      refine ih ?_ h
      rw [List.length_append, List.length_take]
      omega

theorem length_of_readBounded {limit : UInt64} {reads : List (Except ε Chunk)}
    {output : BoundedOutput} (h : readBounded limit reads = .ok output) :
    output.bytes.length ≤ limit.toNat :=
  length_of_readLoop (Nat.zero_le _) h

end Reading

-- What is kept

/-- What is kept of both streams under an accepted budget is within the authorization, and no
arithmetic of `validate` overflows: where overflows are checked, it does not panic. -/
structure Bounded (ε : Type) (overflowChecks : Bool) (budget : ResourceBudget)
    (authorization : ExecutionAuthorization) : Prop where
  retained : budget.validate authorization overflowChecks = .ok () →
    ∀ (stdout stderr : List (Except ε Chunk)) out err,
      readBounded budget.maxStdoutBytes stdout = .ok out →
      readBounded budget.maxStderrBytes stderr = .ok err →
        out.bytes.length + err.bytes.length ≤ authorization.maxResultBytes
  exact : budget.validate authorization true ≠ .error .panicked

section Kept

variable {ε : Type} {overflowChecks : Bool} {budget : ResourceBudget}
  {authorization : ExecutionAuthorization}

theorem le_of_validate (hfits : ¬budget.SumOverflows)
    (h : budget.validate authorization overflowChecks = .ok ()) :
    budget.maxStdoutBytes.toNat + budget.maxStderrBytes.toNat ≤ authorization.maxResultBytes := by
  unfold ResourceBudget.validate at h
  split_ifs at h with hearly hpanics hlarge
  rw [UInt64.toNat_add, Nat.mod_eq_of_lt (Nat.lt_of_not_le hfits)] at hlarge
  exact Nat.le_of_not_lt hlarge

theorem validate_panics_iff :
    budget.validate authorization true = .error .panicked ↔
      ¬budget.RefusedEarly authorization ∧ budget.SumOverflows := by
  unfold ResourceBudget.validate
  split_ifs with hearly hpanics hlarge
  · simp [hearly]
  · simpa [hearly] using hpanics
  · simpa [hearly] using hpanics
  · simpa [hearly] using hpanics

/-- What is kept is within the authorization, without overflows, exactly if the budget is refused
before the sum or the sum fits in 64 bits. What is kept of a stream are its first bytes. -/
theorem retained_bounded_iff (overflowChecks : Bool) (budget : ResourceBudget)
    (authorization : ExecutionAuthorization) :
    (Bounded ε overflowChecks budget authorization ↔ budget.RefusedEarly authorization ∨
      budget.maxStdoutBytes.toNat + budget.maxStderrBytes.toNat < 2 ^ 64) ∧
    ∀ (limit : UInt64) (chunks : List Chunk),
      readBounded limit (chunks.map (.ok : Chunk → Except ε Chunk)) =
        .ok ⟨(chunks.flatMap Chunk.bytes).take limit.toNat,
          decide (limit.toNat < (chunks.flatMap Chunk.bytes).length)⟩ := by
  refine ⟨⟨?_, fun h => ⟨?_, ?_⟩⟩, readBounded_map_ok⟩
  · intro hbounded
    by_contra! hover
    exact hbounded.exact (validate_panics_iff.mpr hover)
  · intro hvalid stdout stderr out err hout herr
    have hearly : ¬budget.RefusedEarly authorization := by
      intro hearly
      rw [ResourceBudget.validate, if_pos hearly] at hvalid
      cases hvalid
    have hsum := le_of_validate (Nat.not_le_of_lt (h.resolve_left hearly)) hvalid
    have hlength := length_of_readBounded hout
    have hlength' := length_of_readBounded herr
    omega
  · intro hpanics
    obtain ⟨hearly, hover⟩ := validate_panics_iff.mp hpanics
    exact absurd hover (Nat.not_le_of_lt (h.resolve_left hearly))

end Kept

-- Two large bounds

deriving instance Inhabited for ExecutionAuthorization

def sampleSmallResult : ExecutionAuthorization :=
  { (default : ExecutionAuthorization) with maxExecutionMs := 1000, maxResultBytes := 1 }

def sampleLargeBounds : ResourceBudget where
  cpuMillis := 1000
  memoryBytes := 1024
  pids := 1
  diskBytes := 1024
  maxStdoutBytes := 18446744073709551615
  maxStderrBytes := 1
  timeoutMs := 1000

/-- **Counterexample**: the sum of the bounds wraps around to zero, the budget is accepted, and more
is kept than is authorized. Where overflows are checked, `validate` panics. -/
theorem large_bounds_accepted :
    sampleLargeBounds.validate sampleSmallResult false = .ok () ∧
    sampleLargeBounds.validate sampleSmallResult true = .error .panicked ∧
    ¬Bounded Unit false sampleLargeBounds sampleSmallResult ∧
    ∃ output, readBounded sampleLargeBounds.maxStdoutBytes
        [(.ok ⟨[1, 2], by decide, by decide⟩ : Except Unit Chunk)] = .ok output ∧
      sampleSmallResult.maxResultBytes < output.bytes.length := by
  have hpanics : sampleLargeBounds.validate sampleSmallResult true = .error .panicked := by
    decide
  exact ⟨by decide, hpanics, fun h => h.exact hpanics, ⟨[1, 2], false⟩,
    by decide, by decide⟩

end AgentSphere.Sandbox
