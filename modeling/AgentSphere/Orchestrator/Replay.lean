import AgentSphere.Orchestrator.Runs

/-!
# Commands take effect once

A command that was accepted is remembered under its identifier and under its idempotency key.
From then on it is answered from the state alone, and anything else that uses one of its two
names is refused, in every later state of the run.
-/

namespace AgentSphere.Orchestrator

open Concurrency Relation

inductive Step (hash : Hasher) : Watch × RuntimeWorkflowState → Watch × RuntimeWorkflowState → Prop
  | returned {w w' : Watch} {request : RuntimeTransitionRequest} {s' : RuntimeWorkflowState}
      (run : watch.Runs (apply hash request).run w (.ok s') w') :
      Step hash (w, request.current) (w', s')
  | refused {w w' : Watch} {request : RuntimeTransitionRequest} {e : RuntimeTransitionError}
      (run : watch.Runs (apply hash request).run w (.error e) w') :
      Step hash (w, request.current) (w', request.current)

def CollisionFree (hash : Hasher) : Prop :=
  ∀ c d, runtimeCommandFingerprint hash c = runtimeCommandFingerprint hash d →
    canonicalCommand c = canonicalCommand d

def Differs (c d : RuntimeWorkflowCommand) : Prop :=
  c.commandType ≠ d.commandType ∨ c.expectedStateVersion ≠ d.expectedStateVersion ∨
    c.payloadDigest ≠ d.payloadDigest ∨ c.requestedBy ≠ d.requestedBy ∨
    c.tenantId ≠ d.tenantId ∨ c.taskId ≠ d.taskId ∨ c.commandId ≠ d.commandId ∨
    c.requestIdempotencyKey ≠ d.requestIdempotencyKey

theorem commandTypeName_injective {a b : RuntimeCommandType}
    (h : commandTypeName a = commandTypeName b) : a = b := by
  revert h
  cases a <;> cases b <;> decide

theorem natToString_injective {m n : Nat} (h : toString m = toString n) : m = n := by
  have hdigits : Nat.toDigits 10 m = Nat.toDigits 10 n := by
    rw [← Nat.toList_repr, ← Nat.toList_repr]
    exact congrArg String.toList h
  rw [← Nat.ofDigitChars_ten_toDigits (n := m), hdigits, Nat.ofDigitChars_ten_toDigits]

theorem not_differs_of_canonicalCommand {c d : RuntimeWorkflowCommand}
    (h : canonicalCommand c = canonicalCommand d) : ¬ Differs c d := by
  simp only [canonicalCommand, List.cons.injEq, Prod.mk.injEq, true_and, and_true] at h
  obtain ⟨hid, htype, hversion, hpayload, hkey, hby, -, htask, htenant⟩ := h
  have htype := commandTypeName_injective htype
  have hversion : c.expectedStateVersion = d.expectedStateVersion :=
    natToString_injective hversion
  unfold Differs
  simp [hid, htype, hversion, hpayload, hkey, hby, htask, htenant]

-- What a state remembers

structure Settled (hash : Hasher) (s : RuntimeWorkflowState) (c : RuntimeWorkflowCommand) :
    Prop where
  command : c.commandId ∈ s.processedCommands
  fingerprint : s.processedCommandFingerprints[c.commandId]? =
    some (runtimeCommandFingerprint hash c)
  key : s.processedIdempotencyKeys[c.requestIdempotencyKey]? =
    some (runtimeCommandFingerprint hash c)
  tenant : s.tenantId = c.tenantId
  task : s.taskId = c.taskId

theorem Accepts.settled {hash : Hasher} {s s' : RuntimeWorkflowState} {c : RuntimeWorkflowCommand}
    (h : Accepts hash s c s') (htenant : s.tenantId = c.tenantId) (htask : s.taskId = c.taskId) :
    Settled hash s' c := by
  obtain ⟨-, -, facts, target, eventId, now, -, rfl⟩ := h
  exact ⟨by simp [acceptCommand], by simp [acceptCommand], by simp [acceptCommand], htenant, htask⟩

theorem Settled.accepts {hash : Hasher} {s s' : RuntimeWorkflowState}
    {c d : RuntimeWorkflowCommand} (hc : Settled hash s c) (h : Accepts hash s d s') :
    Settled hash s' c := by
  obtain ⟨hid, hkey⟩ := replay_eq_none.mp h.fresh
  have hid : d.commandId ≠ c.commandId := by
    rintro heq
    exact hid (heq ▸ hc.command)
  have hkey : d.requestIdempotencyKey ≠ c.requestIdempotencyKey := by
    intro heq
    refine hkey (Std.ExtTreeMap.mem_iff_isSome_getElem?.mpr ?_)
    rw [heq, hc.key]
    rfl
  obtain ⟨-, -, facts, target, eventId, now, -, rfl⟩ := h
  refine ⟨?_, ?_, ?_, hc.tenant, hc.task⟩
  · exact Std.ExtTreeSet.mem_insert.mpr (.inr hc.command)
  · simpa [acceptCommand, hid] using hc.fingerprint
  · simpa [acceptCommand, hkey] using hc.key

theorem Settled.replay_self {hash : Hasher} {s : RuntimeWorkflowState} {c : RuntimeWorkflowCommand}
    (hc : Settled hash s c) : replay hash s c = some (.ok s) := by
  have hcontains : s.processedCommands.contains c.commandId = true := hc.command
  simp only [replay, hcontains, hc.fingerprint, if_true]

structure Explained (hash : Hasher) (s : RuntimeWorkflowState) : Prop where
  wellFormed : stateOk s = true
  commands : ∀ commandId fingerprint,
    s.processedCommandFingerprints[commandId]? = some fingerprint →
      ∃ c, c.commandId = commandId ∧ runtimeCommandFingerprint hash c = fingerprint ∧
        Settled hash s c
  keys : ∀ key fingerprint, s.processedIdempotencyKeys[key]? = some fingerprint →
    ∃ c, c.requestIdempotencyKey = key ∧ runtimeCommandFingerprint hash c = fingerprint ∧
      Settled hash s c

theorem Fresh.explained {s : RuntimeWorkflowState} (hash : Hasher) (hfresh : Fresh s)
    (hok : stateOk s = true) : Explained hash s where
  wellFormed := hok
  commands := by simp [hfresh.processedCommandFingerprints]
  keys := by simp [hfresh.processedIdempotencyKeys]

/-- **Step lemma**: an accepted command explains the entries it adds. -/
theorem Explained.accepts {hash : Hasher} {s s' : RuntimeWorkflowState}
    {d : RuntimeWorkflowCommand} (hs : Explained hash s) (h : Accepts hash s d s')
    (htenant : s.tenantId = d.tenantId) (htask : s.taskId = d.taskId) : Explained hash s' := by
  have hd := h.settled htenant htask
  have hmaps : ∃ fingerprint, fingerprint = runtimeCommandFingerprint hash d ∧
      s'.processedCommandFingerprints =
        s.processedCommandFingerprints.insert d.commandId fingerprint ∧
      s'.processedIdempotencyKeys =
        s.processedIdempotencyKeys.insert d.requestIdempotencyKey fingerprint := by
    obtain ⟨-, -, facts, target, eventId, now, -, rfl⟩ := h
    exact ⟨_, rfl, rfl, rfl⟩
  obtain ⟨_, rfl, hfingerprints, hkeys⟩ := hmaps
  refine ⟨h.stateOk hs.wellFormed, ?_, ?_⟩
  · intro commandId fingerprint hentry
    rw [hfingerprints, BTreeMap.getElem?_insert_ite] at hentry
    split at hentry
    · next hid => exact ⟨d, hid, Option.some.inj hentry, hd⟩
    · obtain ⟨c, hid, hfingerprint, hc⟩ := hs.commands commandId fingerprint hentry
      exact ⟨c, hid, hfingerprint, hc.accepts h⟩
  · intro key fingerprint hentry
    rw [hkeys, BTreeMap.getElem?_insert_ite] at hentry
    split at hentry
    · next hkey => exact ⟨d, hkey, Option.some.inj hentry, hd⟩
    · obtain ⟨c, hkey, hfingerprint, hc⟩ := hs.keys key fingerprint hentry
      exact ⟨c, hkey, hfingerprint, hc.accepts h⟩

section Reuse

variable {hash : Hasher} {s : RuntimeWorkflowState} {c d : RuntimeWorkflowCommand}

theorem Settled.of_fingerprint (hcollision : CollisionFree hash) (hc : Settled hash s c)
    (h : runtimeCommandFingerprint hash c = runtimeCommandFingerprint hash d) :
    Settled hash s d := by
  have hcanonical := hcollision c d h
  simp only [canonicalCommand, List.cons.injEq, Prod.mk.injEq, true_and, and_true] at hcanonical
  obtain ⟨hid, -, -, -, hkey, -, -, htask, htenant⟩ := hcanonical
  exact ⟨hid ▸ hc.command, by rw [← hid, hc.fingerprint, h], by rw [← hkey, hc.key, h],
    hc.tenant.trans htenant, hc.task.trans htask⟩

theorem Explained.settled_of_replay (hs : Explained hash s) (hcollision : CollisionFree hash)
    (h : replay hash s d = some (.ok s)) : Settled hash s d := by
  simp only [replay] at h
  split at h
  · split at h
    · next hentry =>
      obtain ⟨c, -, hfingerprint, hc⟩ := hs.commands _ _ hentry
      exact hc.of_fingerprint hcollision hfingerprint
    · cases h
  · split at h
    · next existing hentry =>
      split at h
      · next heq =>
        obtain ⟨c, -, hfingerprint, hc⟩ := hs.keys _ _ hentry
        exact hc.of_fingerprint hcollision (hfingerprint.trans heq)
      · cases h
    · cases h

theorem Settled.replay_isSome (hc : Settled hash s c)
    (hreuse : d.commandId = c.commandId ∨ d.requestIdempotencyKey = c.requestIdempotencyKey) :
    ∃ answer, replay hash s d = some answer := by
  refine Option.ne_none_iff_exists'.mp fun hnone => ?_
  obtain ⟨hid, hkey⟩ := replay_eq_none.mp hnone
  rcases hreuse with heq | heq
  · exact hid (heq ▸ hc.command)
  · refine hkey (Std.ExtTreeMap.mem_iff_isSome_getElem?.mpr ?_)
    rw [heq, hc.key]
    rfl

theorem replay_cases {answer : Except RuntimeTransitionError RuntimeWorkflowState}
    (h : replay hash s d = some answer) :
    answer = .ok s ∨ answer = .error .idempotencyConflict := by
  simp only [replay] at h
  split at h
  · split at h <;> cases h
    · exact .inl rfl
    · exact .inr rfl
  · split at h
    · split at h <;> cases h
      · exact .inl rfl
      · exact .inr rfl
    · cases h

theorem Explained.replay_conflict (hs : Explained hash s) (hcollision : CollisionFree hash)
    (hc : Settled hash s c)
    (hreuse : d.commandId = c.commandId ∨ d.requestIdempotencyKey = c.requestIdempotencyKey)
    (hdiffers : Differs c d) : replay hash s d = some (.error .idempotencyConflict) := by
  obtain ⟨answer, hanswer⟩ := hc.replay_isSome hreuse
  obtain rfl | rfl := replay_cases hanswer
  · -- were it recognised, it would be settled, and then its fingerprint would be the stored one
    have hd := hs.settled_of_replay hcollision hanswer
    have hsame : runtimeCommandFingerprint hash c = runtimeCommandFingerprint hash d := by
      rcases hreuse with heq | heq
      · exact Option.some.inj (hc.fingerprint.symm.trans (heq ▸ hd.fingerprint))
      · exact Option.some.inj (hc.key.symm.trans (heq ▸ hd.key))
    exact absurd hdiffers (not_differs_of_canonicalCommand (hcollision c d hsame))
  · exact hanswer

end Reuse

-- One request

theorem validateRequest_ok {hash : Hasher} {now : DateTime} {request : RuntimeTransitionRequest}
    (h : validateRequest hash now request = .ok ()) :
    request.schemaVersion = transitionRequestSchemaVersion ∧
      commandOk hash now request.command = true ∧
      request.current.tenantId = request.command.tenantId ∧
      request.current.taskId = request.command.taskId := by
  unfold validateRequest at h
  split at h
  · next hchecks => exact ⟨hchecks.1, hchecks.2.2.1, hchecks.2.2.2.1, hchecks.2.2.2.2⟩
  · cases h

theorem validateRequest_error {hash : Hasher} {now : DateTime}
    {request : RuntimeTransitionRequest} {e : RuntimeTransitionError}
    (h : validateRequest hash now request = .error e) : e = .requestInvalid := by
  unfold validateRequest at h
  split at h <;> cases h
  rfl

theorem commandOk_mono {hash : Hasher} {now later : DateTime} {c : RuntimeWorkflowCommand}
    (hle : now ≤ later) (h : commandOk hash now c = true) : commandOk hash later c = true := by
  simp only [commandOk, Bool.and_eq_true, decide_eq_true_eq] at h ⊢
  obtain ⟨hrest, htime⟩ := h
  refine ⟨hrest, ?_⟩
  exact Int.le_trans htime (Int.add_le_add_right hle _)

theorem apply_run (hash : Hasher) (request : RuntimeTransitionRequest) :
    (apply hash request).run = .perform .utcNow fun now =>
      match validateRequest hash now request with
      | .ok _ => (applyValidated hash request).run
      | .error e => .done (.error e) := by
  refine congrArg (Program.perform EngineCall.utcNow) (funext fun now => ?_)
  show (Attempt.ofExcept (validateRequest hash now request) >>=
    fun _ => applyValidated hash request).run = _
  cases validateRequest hash now request with
  | ok u => rfl
  | error e => rfl

theorem watch_now_le {α : Type} {p : Program EngineCall EngineCall.Answer α} {w w' : Watch} {a : α}
    (h : watch.Runs p w a w') : w.now ≤ w'.now := by
  induction h with
  | done a w => exact Int.le_refl _
  | @perform c k w w' a x possible _ ih =>
    cases c with
    | utcNow => exact Int.le_trans possible ih
    | newUuid => exact ih
    | port port s d => exact ih

theorem validated_of_runs {hash : Hasher} {request : RuntimeTransitionRequest}
    {s' : RuntimeWorkflowState} {w w' : Watch}
    (hrun : watch.Runs (apply hash request).run w (.ok s') w') :
    ∃ now, now ≤ w'.now ∧ validateRequest hash now request = .ok () := by
  rw [apply_run] at hrun
  cases hrun with
  | perform now _ hrest =>
    cases hvalid : validateRequest hash now request with
    | error e =>
      simp only [hvalid] at hrest
      cases hrest
    | ok u =>
      exact ⟨now, watch_now_le hrest, hvalid⟩

theorem ensures_apply_of_replay {hash : Hasher} {request : RuntimeTransitionRequest}
    {answer : Except RuntimeTransitionError RuntimeWorkflowState}
    (hreplay : replay hash request.current request.command = some answer)
    {Post : Except RuntimeTransitionError RuntimeWorkflowState → Watch → Prop} {w : Watch}
    (hvalid : ∀ now, w.now ≤ now → validateRequest hash now request = .ok () →
      Post answer { w with now })
    (hinvalid : ∀ now, w.now ≤ now → validateRequest hash now request ≠ .ok () →
      Post (.error .requestInvalid) { w with now }) :
    watch.Ensures Post (apply hash request).run w := by
  have hquiet : (applyValidated hash request).run = .done answer := by
    unfold applyValidated
    rw [hreplay]
    rfl
  rw [apply_run, Monitor.ensures_perform]
  refine ⟨trivial, fun now hnow => ?_⟩
  cases hcheck : validateRequest hash now request with
  | ok u =>
    rw [hquiet]
    exact hvalid now hnow hcheck
  | error e =>
    obtain rfl := validateRequest_error hcheck
    exact hinvalid now hnow (by simp [hcheck])

theorem Settled.ensures_asked {hash : Hasher} {request : RuntimeTransitionRequest}
    {c : RuntimeWorkflowCommand} (hc : Settled hash request.current c) (w : Watch) :
    watch.Ensures
      (fun _ w' => ∀ port,
        w'.asked.count (port, c.commandId) = w.asked.count (port, c.commandId))
      (apply hash request).run w := by
  by_cases hid : request.command.commandId = c.commandId
  · obtain ⟨answer, hreplay⟩ := hc.replay_isSome (.inl hid)
    exact ensures_apply_of_replay hreplay (fun _ _ _ _ => rfl) (fun _ _ _ _ => rfl)
  · have hkeeps : Keeps watch (fun w' => ∀ port,
        w'.asked.count (port, c.commandId) = w.asked.count (port, c.commandId))
        request.command := by
      intro w' call hw' hconcerns
      refine ⟨trivial, fun answer _ port => ?_⟩
      cases call with
      | utcNow => exact hw' port
      | newUuid => exact hw' port
      | port asked s d =>
        obtain rfl : d = request.command := hconcerns
        show (w'.asked ++ [(asked, request.command.commandId)]).count (port, c.commandId) = _
        have hother : (port, c.commandId) ∉ [(asked, request.command.commandId)] := by
          simp only [List.mem_singleton, Prod.mk.injEq, not_and]
          exact fun _ heq => hid heq.symm
        rw [List.count_append, hw' port, List.count_eq_zero_of_not_mem hother, Nat.add_zero]
    exact (returns_apply hash request hkeeps w fun _ => rfl).mono fun _ _ h => h.1

-- Runs

/-- **Step lemma** for the memory of a state. -/
theorem Explained.step {hash : Hasher} {x x' : Watch × RuntimeWorkflowState}
    (hs : Explained hash x.2) (hstep : Step hash x x') : Explained hash x'.2 := by
  cases hstep with
  | refused run => exact hs
  | returned run =>
    obtain ⟨now, -, hvalid⟩ := validated_of_runs run
    obtain ⟨-, -, htenant, htask⟩ := validateRequest_ok hvalid
    obtain ⟨-, rfl⟩ | haccepts := answered_of_runs run
    · exact hs
    · exact hs.accepts haccepts htenant htask

/-- **Step lemma** for a settled command. -/
theorem Settled.step {hash : Hasher} {x x' : Watch × RuntimeWorkflowState}
    {c : RuntimeWorkflowCommand} (hc : Settled hash x.2 c) (hstep : Step hash x x') :
    Settled hash x'.2 c ∧
      ∀ port, x'.1.asked.count (port, c.commandId) = x.1.asked.count (port, c.commandId) := by
  cases hstep with
  | @refused w w' request e run => exact ⟨hc, (hc.ensures_asked w).of_runs run⟩
  | @returned w w' request s' run =>
    refine ⟨?_, (hc.ensures_asked w).of_runs run⟩
    obtain ⟨-, rfl⟩ | haccepts := answered_of_runs run
    · exact hc
    · exact hc.accepts haccepts

theorem Settled.steps {hash : Hasher} {x x' : Watch × RuntimeWorkflowState}
    {c : RuntimeWorkflowCommand} (hc : Settled hash x.2 c)
    (hrun : ReflTransGen (Step hash) x x') :
    Settled hash x'.2 c ∧
      ∀ port, x'.1.asked.count (port, c.commandId) = x.1.asked.count (port, c.commandId) := by
  induction hrun with
  | refl => exact ⟨hc, fun _ => rfl⟩
  | tail _ hlast ih =>
    obtain ⟨hsettled, hcount⟩ := ih
    obtain ⟨hnext, hstep⟩ := hsettled.step hlast
    exact ⟨hnext, fun port => (hstep port).trans (hcount port)⟩

theorem watch_now_le_steps {hash : Hasher} {x x' : Watch × RuntimeWorkflowState}
    (hrun : ReflTransGen (Step hash) x x') : x.1.now ≤ x'.1.now := by
  induction hrun with
  | refl => exact Int.le_refl _
  | tail _ hlast ih =>
    refine Int.le_trans ih ?_
    cases hlast with
    | returned run => exact watch_now_le run
    | refused run => exact watch_now_le run

theorem Explained.settled_of_runs {hash : Hasher} {request : RuntimeTransitionRequest}
    {s : RuntimeWorkflowState} {w w' : Watch} (hs : Explained hash request.current)
    (hcollision : CollisionFree hash)
    (hrun : watch.Runs (apply hash request).run w (.ok s) w') :
    Settled hash s request.command := by
  obtain ⟨now, -, hvalid⟩ := validated_of_runs hrun
  obtain ⟨-, -, htenant, htask⟩ := validateRequest_ok hvalid
  obtain ⟨hreplay, rfl⟩ | haccepts := answered_of_runs hrun
  · exact hs.settled_of_replay hcollision hreplay
  · exact haccepts.settled htenant htask

/-- Once a command was applied, the same request returns that state in every later one and asks
nothing, and a different command under one of its names is refused. -/
theorem command_settled_for_good {hash : Hasher} (hcollision : CollisionFree hash)
    {start s s' : RuntimeWorkflowState} {request : RuntimeTransitionRequest}
    {w₀ w₁ w₂ w₃ : Watch} (hfresh : Fresh start) (hok : stateOk start = true)
    (hbefore : ReflTransGen (Step hash) (w₀, start) (w₁, request.current))
    (happlied : watch.Runs (apply hash request).run w₁ (.ok s) w₂)
    (hafter : ReflTransGen (Step hash) (w₂, s) (w₃, s')) :
    watch.Ensures (fun r w => r = .ok s' ∧ w.asked = w₃.asked)
      (apply hash { request with current := s' }).run w₃ ∧
    (∀ other : RuntimeTransitionRequest, other.current = s' →
      (other.command.commandId = request.command.commandId ∨
        other.command.requestIdempotencyKey = request.command.requestIdempotencyKey) →
      Differs request.command other.command →
      watch.Ensures
        (fun r w => w.asked = w₃.asked ∧
          (validateRequest hash w.now other = .ok () → r = .error .idempotencyConflict) ∧
          (validateRequest hash w.now other ≠ .ok () → r = .error .requestInvalid))
        (apply hash other).run w₃) ∧
    ∀ port, w₃.asked.count (port, request.command.commandId) =
      w₂.asked.count (port, request.command.commandId) := by
  have hexplained : Explained hash request.current :=
    invariant_of_steps (P := fun x => Explained hash x.2) (fun _ _ hs hstep => hs.step hstep)
      (hfresh.explained hash hok) hbefore
  have hlater : Explained hash s' :=
    invariant_of_steps (P := fun x => Explained hash x.2) (fun _ _ hs hstep => hs.step hstep)
      (hexplained.step (.returned happlied)) hafter
  obtain ⟨hsettled, hcount⟩ := (hexplained.settled_of_runs hcollision happlied).steps hafter
  refine ⟨?_, ?_, hcount⟩
  · -- the command was in order before, and the clock has only moved on
    obtain ⟨now, hnow, hvalid⟩ := validated_of_runs happlied
    obtain ⟨hversion, hcommand, -, -⟩ := validateRequest_ok hvalid
    have hle : now ≤ w₃.now := Int.le_trans hnow (watch_now_le_steps hafter)
    refine ensures_apply_of_replay hsettled.replay_self (fun _ _ _ => ⟨rfl, rfl⟩) ?_
    intro later hlater' hinvalid
    refine absurd ?_ hinvalid
    exact if_pos ⟨hversion, hlater.wellFormed,
      commandOk_mono (Int.le_trans hle hlater') hcommand, hsettled.tenant, hsettled.task⟩
  · rintro other rfl hreuse hdiffers
    have hconflict := hlater.replay_conflict hcollision hsettled hreuse hdiffers
    refine ensures_apply_of_replay hconflict ?_ ?_
    · exact fun now _ hvalid => ⟨rfl, fun _ => rfl, fun hinvalid => absurd hvalid hinvalid⟩
    · exact fun now _ hinvalid => ⟨rfl, fun hvalid => absurd hvalid hinvalid, fun _ => rfl⟩

theorem escape_inj {a b rest rest' : List Char} {mark : Char} (hmark : mark ≠ '.')
    (h : a.flatMap (['.', ·]) ++ mark :: rest = b.flatMap (['.', ·]) ++ mark :: rest') :
    a = b ∧ rest = rest' := by
  induction a generalizing b with
  | nil =>
    cases b with
    | nil => simpa using h
    | cons y b => simp [hmark] at h
  | cons x a ih =>
    cases b with
    | nil => simp [hmark.symm] at h
    | cons y b =>
      simp only [List.flatMap_cons, List.cons_append, List.nil_append, List.cons.injEq,
        true_and] at h
      obtain ⟨rfl, htail⟩ := h
      obtain ⟨rfl, hrest⟩ := ih htail
      exact ⟨rfl, hrest⟩

theorem sampleEncode_injective {xs ys : List (String × String)}
    (h : sampleEncode xs = sampleEncode ys) : xs = ys := by
  induction xs generalizing ys with
  | nil =>
    cases ys with
    | nil => rfl
    | cons y ys => simp [sampleEncode] at h
  | cons x xs ih =>
    cases ys with
    | nil => simp [sampleEncode] at h
    | cons y ys =>
      obtain ⟨hkey, h⟩ := escape_inj (by decide) h
      obtain ⟨hvalue, h⟩ := escape_inj (by decide) h
      rw [ih h, Prod.ext (String.toList_inj.mp hkey) (String.toList_inj.mp hvalue)]

theorem sampleHasher_collisionFree : CollisionFree sampleHasher := by
  -- an encoded command begins with a dot, the digest of the start does not
  have hdigest : ∀ c : RuntimeWorkflowCommand,
      "d2153375c848d2442cca862f1b4dd4ebb752177bb7dd4385e18d44710f5857d0" ≠
        String.ofList (sampleEncode (canonicalCommand c)) := by
    intro c h
    have hhead := (congrArg (fun text : String => text.toList.head?) h).trans
      (congrArg List.head? String.toList_ofList)
    have hdot : (sampleEncode (canonicalCommand c)).head? = some '.' := rfl
    rw [hdot] at hhead
    exact absurd hhead (by decide)
  intro c d h
  simp only [runtimeCommandFingerprint, sampleHasher] at h
  split at h
  · next hc =>
    split at h
    · next hd => rw [hc, hd]
    · exact absurd h (hdigest d)
  · split at h
    · exact absurd h.symm (hdigest c)
    · exact sampleEncode_injective (String.ofList_injective h)

def sampleOutage : (call : EngineCall) → call.Answer
  | .utcNow => (0 : Int)
  | .newUuid => zeroUuid
  | .port .. => .error .unavailable

theorem command_settled_for_good_sampleStart :
    ∃ s w, watch.Ensures (fun r w' => r = .ok s ∧ w'.asked = w.asked)
      (apply sampleHasher { sampleRequest with current := s }).run w := by
  obtain ⟨s, w, hrun, -⟩ := sampleRequest_returned
  exact ⟨s, w, (command_settled_for_good sampleHasher_collisionFree sampleCreated_fresh
    sampleCreated_ok .refl hrun .refl).1⟩

def sampleFailed (answer : Except RuntimeTransitionError RuntimeWorkflowState × Watch) : Bool :=
  match answer with
  | (.ok _, _) => false
  | (.error e, w) => e == .factResolution .unavailable && w.now == sampleRetry.now &&
      w.asked == sampleRetry.asked

theorem sampleOutage_failed :
    sampleFailed (watch.eval sampleOutage (apply sampleHasher sampleRequest).run ⟨0, []⟩) =
      true := by
  decide

theorem sampleRequest_failed :
    watch.Runs (apply sampleHasher sampleRequest).run ⟨0, []⟩
      (.error (.factResolution .unavailable)) sampleRetry := by
  have hrun := runs_sample sampleOutage rfl (apply sampleHasher sampleRequest).run
    (w := ⟨0, []⟩) (Int.le_refl 0)
  have hfailed := sampleOutage_failed
  generalize watch.eval sampleOutage (apply sampleHasher sampleRequest).run ⟨0, []⟩ = answer
    at hrun hfailed
  obtain ⟨r, w⟩ := answer
  cases r with
  | ok s => cases hfailed
  | error e =>
    simp only [sampleFailed, Bool.and_eq_true, beq_iff_eq] at hfailed
    obtain ⟨⟨rfl, hnow⟩, hasked⟩ := hfailed
    obtain rfl : w = sampleRetry := by
      cases w
      simp_all
    exact hrun

/-- A reuse of the identifier for another tenant is not answered as a conflict, and the resolver
may be asked twice for one command: by an attempt that failed and by the one that succeeded. -/
theorem reuse_not_always_conflict_nor_asked_once :
    (∃ s w, watch.Runs (apply sampleHasher sampleRequest).run sampleRetry (.ok s) w ∧
      ∃ other : RuntimeTransitionRequest, other.current = s ∧
        other.command.commandId = sampleStart.commandId ∧
        other.command.tenantId ≠ sampleStart.tenantId ∧
        watch.Runs (apply sampleHasher other).run w (.error .requestInvalid) w) ∧
    ∃ e s w, watch.Runs (apply sampleHasher sampleRequest).run ⟨0, []⟩ (.error e) sampleRetry ∧
      watch.Runs (apply sampleHasher sampleRequest).run sampleRetry (.ok s) w ∧
      w.asked.count (.evidenceVerify, sampleStart.commandId) = 2 := by
  obtain ⟨s, w, hrun, hcount⟩ := sampleRequest_returned
  refine ⟨⟨s, w, hrun, ?_⟩, _, s, w, sampleRequest_failed, hrun, hcount⟩
  have htenant : s.tenantId = "tenant-1" := by
    obtain ⟨-, rfl⟩ | haccepts := answered_of_runs hrun
    · rfl
    · exact haccepts.identity.2.1
  refine ⟨{ sampleRequest with
      current := s, command := { sampleStart with tenantId := "tenant-2" } },
    rfl, rfl, show "tenant-2" ≠ "tenant-1" by decide, ?_⟩
  rw [apply_run]
  have hinvalid : validateRequest sampleHasher w.now { sampleRequest with
      current := s, command := { sampleStart with tenantId := "tenant-2" } } =
      .error .requestInvalid := by
    refine if_neg fun h => ?_
    have hother : s.tenantId = "tenant-2" := h.2.2.2.1
    rw [htenant] at hother
    exact absurd hother (by decide)
  refine Monitor.Runs.perform w.now (Int.le_refl _) ?_
  simp only [hinvalid]
  exact Monitor.Runs.done _ _

end AgentSphere.Orchestrator
