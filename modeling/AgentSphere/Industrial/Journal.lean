import AgentSphere.Industrial.Writes

/-!
# What the journal says about a write

A commit that writes has recorded before that it is about to, and records afterwards, exactly once,
what has come of it: that nothing was written, that the write was verified, or that the outcome is
not known. One early exit would leave no entry, the one for a target that is no number; but such an
action is never prepared.
-/

namespace AgentSphere.Industrial

open Concurrency Attempt IndustrialGateway

section Journaling

variable {Bytes VerifyingKey : Type}

inductive Terminal where
  | noop (action : PreparedIndustrialAction)
  | unknown (action : PreparedIndustrialAction)
  | commit (receipt : IndustrialCommitReceipt)

def terminalOf : GatewayCall VerifyingKey → Option Terminal
  | .recordNoop action _ => some (.noop action)
  | .recordUnknown action _ => some (.unknown action)
  | .recordCommit receipt => some (.commit receipt)
  | _ => none

def terminals (entries : List (GatewayEntry VerifyingKey)) : List Terminal :=
  entries.filterMap fun entry => terminalOf entry.1

def isWrite : GatewayCall VerifyingKey → Bool
  | .compareAndSet .. => true
  | _ => false

def Neutral (call : GatewayCall VerifyingKey) : Prop :=
  isWrite call = false ∧ terminalOf call = none

def Untouched (entries : List (GatewayEntry VerifyingKey)) : Prop :=
  ∀ entry ∈ entries, Neutral entry.1

structure Truthful (action : PreparedIndustrialAction)
    (answer : Except IndustrialError TelemetrySample)
    (result : Except IndustrialError IndustrialCommitReceipt) (terminal : Terminal) : Prop where
  noop_iff : terminal = .noop action ↔ answer = .error .resourceVersionChanged
  commit_iff : (∃ receipt, terminal = .commit receipt) ↔ ∃ receipt, result = .ok receipt
  receipt : ∀ receipt, result = .ok receipt → receipt.preparationId = action.preparationId ∧
    terminal = .commit { receipt with journalDigest := "" }
  unknown : answer ≠ .error .resourceVersionChanged → (∀ receipt, result ≠ .ok receipt) →
    terminal = .unknown action ∧ result = .error .outcomeUnknown

def Ends (action : PreparedIndustrialAction) (answer : Except IndustrialError TelemetrySample)
    (entries : List (GatewayEntry VerifyingKey))
    (result : Except IndustrialError IndustrialCommitReceipt)
    (entries' : List (GatewayEntry VerifyingKey)) : Prop :=
  ∃ more terminal, entries' = entries ++ more ∧ (∀ entry ∈ more, isWrite entry.1 = false) ∧
    terminals more = [terminal] ∧ Truthful action answer result terminal

def Journaled (auth : EdgeAuthorization) (result : Except IndustrialError IndustrialCommitReceipt)
    (entries : List (GatewayEntry VerifyingKey)) : Prop :=
  Untouched entries ∨ ∃ before channel action answer, Untouched before ∧
    (∃ digest, ⟨.recordDispatching action auth, .ok digest⟩ ∈ before) ∧
    Ends action answer (before ++ [⟨.compareAndSet channel action, answer⟩]) result entries

def JournalWorks : (call : GatewayCall VerifyingKey) → call.Answer → Prop
  | .recordPrepared _, answer | .recordDispatching .., answer | .recordCommit _, answer
  | .recordSafeStopIntent _, answer | .recordSafeStopCompleted _, answer =>
    ∃ digest, answer = .ok digest ∧ isDigest digest = true
  | .recordNoop .., answer | .recordUnknown .., answer | .recordSafeStopUnknown .., answer =>
    answer = .ok ()
  | .loadPrepared .., answer => ∃ loaded, answer = .ok loaded
  | _, _ => True

def NumericTarget (codec : IndustrialCodec Bytes VerifyingKey) :
    (call : GatewayCall VerifyingKey) → call.Answer → Prop
  | .findPrepared _, answer =>
    ∀ action, answer = some action → ∃ target, codec.asF64 action.targetValue = some target
  | .loadPrepared .., answer =>
    ∀ action, answer = .ok (some action) → ∃ target, codec.asF64 action.targetValue = some target
  | _, _ => True

def MayJournal (entries : List (GatewayEntry VerifyingKey)) : GatewayCall VerifyingKey → Prop
  | .compareAndSet _ action => Untouched entries ∧
    ∃ auth digest, ⟨.recordDispatching action auth, .ok digest⟩ ∈ entries
  | .recordNoop .. | .recordUnknown .. | .recordCommit _ =>
    (∃ entry ∈ entries, isWrite entry.1 = true) ∧ terminals entries = []
  | _ => True

def journaling (codec : IndustrialCodec Bytes VerifyingKey) :
    Monitor (GatewayCall VerifyingKey) GatewayCall.Answer (List (GatewayEntry VerifyingKey)) :=
  recording MayJournal fun call answer => JournalWorks call answer ∧ NumericTarget codec call answer

variable {codec : IndustrialCodec Bytes VerifyingKey} {gateway : IndustrialGateway}
  {entries entries' : List (GatewayEntry VerifyingKey)} {call : GatewayCall VerifyingKey}
  {auth : EdgeAuthorization} {channel : AssetChannel} {action : PreparedIndustrialAction}
  {answer : Except IndustrialError TelemetrySample}
  {result : Except IndustrialError IndustrialCommitReceipt}

theorem Neutral.mayJournal (h : Neutral call) : MayJournal entries call := by
  obtain ⟨hwrite, hterminal⟩ := h
  cases call with
  | compareAndSet => cases hwrite
  | recordNoop | recordUnknown | recordCommit => cases hterminal
  | _ => exact trivial

theorem Preparing.neutral (h : Preparing call) : Neutral call := by
  cases call with
  | compareAndSet | recordNoop | recordUnknown | recordCommit => exact h.elim
  | _ => exact ⟨rfl, rfl⟩

theorem Checking.neutral (h : Checking call) : Neutral call := h.preparing.neutral

theorem Completing.neutral (h : Completing call) : Neutral call := by
  cases call with
  | compareAndSet | recordNoop | recordUnknown | recordCommit => exact h.elim
  | _ => exact ⟨rfl, rfl⟩

@[simp] theorem mem_journaling_next {entry : GatewayEntry VerifyingKey} {x : call.Answer} :
    entry ∈ (journaling codec).next entries call x ↔ entry ∈ entries ∨ entry = ⟨call, x⟩ := by
  simp [journaling, recording]

theorem Untouched.next (h : Untouched entries) {x : call.Answer} (hcall : Neutral call) :
    Untouched ((journaling codec).next entries call x) := by
  intro entry hentry
  obtain hold | rfl := mem_journaling_next.mp hentry
  · exact h entry hold
  · exact hcall

theorem Untouched.append (h : Untouched entries) (h' : Untouched entries') :
    Untouched (entries ++ entries') := by
  intro entry hentry
  obtain hold | hnew := List.mem_append.mp hentry
  · exact h entry hold
  · exact h' entry hnew

theorem Untouched.terminals_eq_nil (h : Untouched entries) : terminals entries = [] :=
  List.filterMap_eq_nil_iff.mpr fun entry hentry => (h entry hentry).2

theorem terminals_append :
    terminals (entries ++ entries') = terminals entries ++ terminals entries' :=
  List.filterMap_append

theorem journaled_ok {digest : String} (h : isDigest digest = true) :
    journaled (.ok digest) = .ok digest :=
  except_bind_eq_ok.mpr ⟨digest, rfl, except_bind_eq_ok.mpr ⟨(), require_eq_ok.mpr h, rfl⟩⟩

-- What each kind of entry agrees with

theorem Truthful.of_noop :
    Truthful action (.error .resourceVersionChanged) (.error .resourceVersionChanged)
      (.noop action) := by
  refine ⟨by simp, by simp, ?_, fun hanswer => absurd rfl hanswer⟩
  rintro receipt ⟨⟩

theorem Truthful.of_unknown (h : answer ≠ .error .resourceVersionChanged) :
    Truthful action answer (.error .outcomeUnknown) (.unknown action) := by
  refine ⟨by simp [h], by simp, ?_, fun _ _ => ⟨rfl, rfl⟩⟩
  rintro receipt ⟨⟩

theorem Truthful.of_commit {after : TelemetrySample} {receipt : IndustrialCommitReceipt}
    (hpreparation : receipt.preparationId = action.preparationId)
    (hplain : receipt.journalDigest = "") (journalDigest : String) :
    Truthful action (.ok after) (.ok { receipt with journalDigest := journalDigest })
      (.commit receipt) where
  noop_iff := by simp
  commit_iff := by simp
  receipt := by
    rintro _ ⟨⟩
    refine ⟨hpreparation, ?_⟩
    rw [← hplain]
  unknown _ h := absurd rfl (h _)

-- The end of a write

def Underway (entries : List (GatewayEntry VerifyingKey)) : Prop :=
  (∃ entry ∈ entries, isWrite entry.1 = true) ∧ terminals entries = []

theorem Underway.next (h : Underway entries) {x : call.Answer} (hcall : Neutral call) :
    Underway ((journaling codec).next entries call x) := by
  obtain ⟨⟨entry, hentry, hwrite⟩, hnone⟩ := h
  refine ⟨⟨entry, mem_journaling_next.mpr (.inl hentry), hwrite⟩, ?_⟩
  show terminals (entries ++ [⟨call, x⟩]) = []
  rw [terminals_append, hnone, List.nil_append]
  exact List.filterMap_eq_nil_iff.mpr fun entry hentry => by
    obtain rfl := List.mem_singleton.mp hentry
    exact hcall.2

theorem Ends.of_next {x : call.Answer} (hcall : Neutral call)
    (h : Ends action answer ((journaling codec).next entries call x) result entries') :
    Ends action answer entries result entries' := by
  obtain ⟨more, terminal, rfl, hwrites, hterminals, htruthful⟩ := h
  refine ⟨⟨call, x⟩ :: more, terminal, List.append_assoc .., ?_, ?_, htruthful⟩
  · rintro entry (_ | ⟨_, hentry⟩)
    · exact hcall.1
    · exact hwrites entry hentry
  · have hnone : terminals (⟨call, x⟩ :: more) = terminals more :=
      List.filterMap_cons_none hcall.2
    rw [hnone, hterminals]

theorem Ends.of_terminal {x : call.Answer} {terminal : Terminal} (hwrite : isWrite call = false)
    (hterminal : terminalOf call = some terminal)
    (htruthful : Truthful action answer result terminal) :
    Ends action answer entries result ((journaling codec).next entries call x) := by
  refine ⟨[⟨call, x⟩], terminal, rfl, ?_, ?_, htruthful⟩
  · intro entry hentry
    obtain rfl := List.mem_singleton.mp hentry
    exact hwrite
  · exact List.filterMap_cons_some hterminal

theorem journaling_ask_bind {f : call.Answer → Gatewaying VerifyingKey IndustrialCommitReceipt}
    (hcall : Neutral call)
    (hrest : ∀ x, (journaling codec).Ensures
      (Ends action answer ((journaling codec).next entries call x)) (f x).run
      ((journaling codec).next entries call x)) :
    (journaling codec).Ensures (Ends action answer entries) (ask call >>= f).run entries :=
  Monitor.ask_bind hcall.mayJournal fun x => (hrest x).mono fun _ _ => .of_next hcall

theorem journaling_outcomeUnknown (hjournal : gateway.journal = true) {stableError : String}
    (hanswer : answer ≠ .error .resourceVersionChanged) (hunderway : Underway entries) :
    (journaling codec).Ensures (Ends action answer entries)
      (gateway.outcomeUnknown action stableError :
        Gatewaying VerifyingKey IndustrialCommitReceipt).run entries := by
  unfold outcomeUnknown
  rw [if_pos hjournal]
  refine Monitor.possible_port_bind hunderway (fun x _ _ _ => ?_) fun x e hworks herror => ?_
  · exact Ends.of_terminal rfl rfl (.of_unknown hanswer)
  · obtain ⟨rfl, -⟩ := hworks
    cases herror

theorem journaling_confirm (hjournal : gateway.journal = true) {dispatchJournalDigest : String}
    {after : TelemetrySample} {samples : List TelemetrySample} {target : ℚ}
    (htarget : codec.asF64 action.targetValue = some target) (hunderway : Underway entries) :
    (journaling codec).Ensures (Ends action (.ok after) entries)
      (gateway.confirm codec action channel dispatchJournalDigest after samples :
        Gatewaying VerifyingKey IndustrialCommitReceipt).run entries := by
  have hclock : Neutral (.utcNow : GatewayCall VerifyingKey) := ⟨rfl, rfl⟩
  unfold confirm
  -- the exit without an entry is not taken, since the target is a number
  rw [htarget]
  refine Monitor.ofExcept_bind (fun value _ => ?_) nofun
  refine journaling_ask_bind hclock fun now => ?_
  split
  · exact journaling_outcomeUnknown hjournal nofun (hunderway.next hclock)
  · split
    · refine journaling_ask_bind hclock fun committedAt => ?_
      refine Monitor.possible_port_bind ((hunderway.next hclock).next hclock)
        (fun x journalDigest _ _ => ?_) fun x e hworks herror => ?_
      · exact Ends.of_terminal rfl rfl (.of_commit rfl rfl journalDigest)
      · obtain ⟨⟨digest, rfl, hdigest⟩, -⟩ := hworks
        rw [journaled_ok hdigest] at herror
        cases herror
    · exact journaling_outcomeUnknown hjournal nofun (hunderway.next hclock)

/-- **Exits**: whatever the adapter answers, a write that is under way is ended once. -/
theorem journaling_settle (hjournal : gateway.journal = true) {dispatchJournalDigest : String}
    {target : ℚ} (htarget : codec.asF64 action.targetValue = some target)
    (hunderway : Underway entries) :
    (journaling codec).Ensures (Ends action answer entries)
      (gateway.settle codec action channel dispatchJournalDigest answer :
        Gatewaying VerifyingKey IndustrialCommitReceipt).run entries := by
  have hclock : Neutral (.utcNow : GatewayCall VerifyingKey) := ⟨rfl, rfl⟩
  have hobserve : ∀ maximumSamples, Neutral
      (.observeAfterWrite channel maximumSamples : GatewayCall VerifyingKey) :=
    fun _ => ⟨rfl, rfl⟩
  unfold settle
  split
  · unfold observeWrite
    refine journaling_ask_bind hclock fun now => ?_
    split
    · exact journaling_outcomeUnknown hjournal nofun (hunderway.next hclock)
    · split
      · refine journaling_ask_bind (hobserve _) fun observed => ?_
        have hunderway' : Underway ((journaling codec).next ((journaling codec).next entries
            .utcNow now) (.observeAfterWrite channel _) observed) :=
          (hunderway.next hclock).next (hobserve _)
        unfold confirmObserved
        split
        · exact journaling_confirm hjournal htarget hunderway'
        · exact journaling_outcomeUnknown hjournal nofun hunderway'
      · exact journaling_confirm hjournal htarget (hunderway.next hclock)
  · rw [if_pos hjournal]
    refine Monitor.possible_port_bind hunderway (fun x _ _ _ => ?_) fun x e hworks herror => ?_
    · exact Ends.of_terminal rfl rfl .of_noop
    · obtain ⟨rfl, -⟩ := hworks
      cases herror
  · next e hchanged => exact journaling_outcomeUnknown hjournal (by simpa using hchanged) hunderway

section Commits

variable {α : Type} {x : Gatewaying VerifyingKey α}
  {f : α → Gatewaying VerifyingKey IndustrialCommitReceipt}

theorem journaling_neutral_bind (hx : Only Neutral x)
    (huntouched : Untouched entries)
    (hrest : ∀ a entries', entries ⊆ entries' → Untouched entries' →
      (journaling codec).Ensures (Journaled auth) (f a).run entries') :
    (journaling codec).Ensures (Journaled auth) (x >>= f).run entries := by
  refine Monitor.ensures_attempt_bind.mpr ((hx.recorded
    (fun _ _ => Neutral.mayJournal) entries).mono fun result entries' hmore => ?_)
  obtain ⟨-, more, rfl, hcalls⟩ := hmore
  have huntouched' : Untouched (entries ++ more) := huntouched.append hcalls
  cases result with
  | error e => exact .inl huntouched'
  | ok a => exact hrest a _ (List.subset_append_left _ _) huntouched'

theorem journaling_findAction_bind {preparationId : String}
    {f : PreparedIndustrialAction → Gatewaying VerifyingKey IndustrialCommitReceipt}
    (huntouched : Untouched entries)
    (hrest : ∀ action target entries', codec.asF64 action.targetValue = some target →
      Untouched entries' → (journaling codec).Ensures (Journaled auth) (f action).run entries') :
    (journaling codec).Ensures (Journaled auth)
      (gateway.findAction auth preparationId >>= f).run entries := by
  refine Monitor.ensures_attempt_bind.mpr ?_
  unfold findAction
  refine Monitor.possible_ask_bind trivial fun found hfound => ?_
  have huntouched' : Untouched ((journaling codec).next entries (.findPrepared preparationId)
      found) := huntouched.next ⟨rfl, rfl⟩
  cases found with
  | some action =>
    obtain ⟨target, htarget⟩ := hfound.2 action rfl
    exact hrest action target _ htarget huntouched'
  | none =>
    simp only [foundOrLoaded]
    split
    · refine Monitor.possible_port_bind trivial (fun answer loaded hnumeric hloaded => ?_)
        fun _ _ _ _ => .inl (huntouched'.next ⟨rfl, rfl⟩)
      obtain rfl : answer = .ok loaded := hloaded
      cases loaded with
      | none => exact .inl (huntouched'.next ⟨rfl, rfl⟩)
      | some action =>
        obtain ⟨target, htarget⟩ := hnumeric.2 action rfl
        exact hrest action target _ htarget (huntouched'.next ⟨rfl, rfl⟩)
    · exact .inl huntouched'

/-- **Commits**: with a journal that works, and numbers for targets, the history of a commit is
journaled. -/
theorem journaling_commit (hjournal : gateway.journal = true) (auth : EdgeAuthorization)
    (preparationId : String) :
    (journaling codec).Ensures (Journaled auth)
      (gateway.commit codec auth preparationId).run [] := by
  have hempty : Untouched ([] : List (GatewayEntry VerifyingKey)) := by simp [Untouched]
  unfold commit
  refine Monitor.ask_bind trivial fun connected => ?_
  refine Monitor.ensure_bind (fun _ => ?_) fun _ => .inl (hempty.next ⟨rfl, rfl⟩)
  refine Monitor.ask_bind trivial fun envelope => ?_
  refine Monitor.ask_bind trivial fun policyAt => ?_
  have huntouched : Untouched ((journaling codec).next ((journaling codec).next
      ((journaling codec).next [] .readConnected connected) .readCentral envelope)
      .utcNow policyAt) :=
    ((hempty.next ⟨rfl, rfl⟩).next ⟨rfl, rfl⟩).next ⟨rfl, rfl⟩
  refine Monitor.ofExcept_bind (fun _ _ => ?_) fun _ _ => .inl huntouched
  refine Monitor.ask_bind trivial fun clockAt => ?_
  refine journaling_neutral_bind (only_mono (only_validateClock clockAt) fun _ => Checking.neutral)
    (huntouched.next ⟨rfl, rfl⟩)
    fun _ entries₁ _ huntouched₁ => ?_
  refine journaling_findAction_bind huntouched₁ fun action target entries₂ htarget huntouched₂ => ?_
  refine Monitor.ensure_bind (fun _ => ?_) fun _ => .inl huntouched₂
  refine Monitor.ask_bind trivial fun central => ?_
  have huntouched₃ : Untouched ((journaling codec).next entries₂ .readCentral central) :=
    huntouched₂.next ⟨rfl, rfl⟩
  refine Monitor.ensure_bind (fun _ => ?_) fun _ => .inl huntouched₃
  refine Monitor.ask_bind trivial fun expiryAt => ?_
  refine Monitor.ensure_bind (fun _ => ?_) fun _ => .inl (huntouched₃.next ⟨rfl, rfl⟩)
  refine Monitor.ask_bind trivial fun now => ?_
  refine journaling_neutral_bind
    (only_mono (only_verifyAndConsume auth now) fun _ => Checking.neutral)
    ((huntouched₃.next ⟨rfl, rfl⟩).next ⟨rfl, rfl⟩) fun _ entries₄ _ huntouched₄ => ?_
  refine Monitor.port_bind trivial (fun answer channel _ => ?_)
    fun _ _ _ => .inl (huntouched₄.next ⟨rfl, rfl⟩)
  have huntouched₅ : Untouched ((journaling codec).next entries₄ _ answer) :=
    huntouched₄.next ⟨rfl, rfl⟩
  rw [if_pos hjournal]
  refine Monitor.possible_port_bind trivial (fun recorded digest hworks hdigest => ?_)
    fun _ _ _ _ => .inl (huntouched₅.next ⟨rfl, rfl⟩)
  obtain ⟨⟨value, rfl, hvalid⟩, -⟩ := hworks
  rw [journaled_ok hvalid] at hdigest
  obtain rfl : value = digest := Except.ok.inj hdigest
  refine Monitor.ask_bind trivial fun _ => ?_
  -- the history before the write
  let before := (journaling codec).next ((journaling codec).next ((journaling codec).next entries₄
    _ answer) (.recordDispatching action auth) (.ok value)) (.removePrepared preparationId) ()
  have hbefore : Untouched before := (huntouched₅.next ⟨rfl, rfl⟩).next ⟨rfl, rfl⟩
  have hdispatched : ⟨.recordDispatching action auth, .ok value⟩ ∈ before := by
    simp only [before, mem_journaling_next, true_or, or_true]
  refine Monitor.ask_bind ⟨hbefore, auth, value, hdispatched⟩ fun written => ?_
  have hunderway : Underway (before ++ [⟨.compareAndSet channel action, written⟩]) := by
    refine ⟨⟨_, List.mem_concat_self, rfl⟩, ?_⟩
    rw [terminals_append, hbefore.terminals_eq_nil]
    rfl
  exact (journaling_settle hjournal htarget hunderway).mono fun result entries' hends =>
    .inr ⟨before, channel, action, written, hbefore, ⟨value, hdispatched⟩, hends⟩

end Commits

end Journaling

section Others

variable {Bytes VerifyingKey : Type} {codec : IndustrialCodec Bytes VerifyingKey}
  {gateway : IndustrialGateway}

theorem neutral_requestSafeStop (auth : EdgeAuthorization) (requestedBy reasonCode : String) :
    Only Neutral (gateway.requestSafeStop codec auth requestedBy reasonCode) := by
  unfold requestSafeStop
  refine only_bind only_ensure fun _ => ?_
  refine only_bind only_ensure fun _ => ?_
  refine only_bind trivial fun digest => ?_
  refine only_bind only_ensure fun _ => ?_
  refine only_bind (only_ask ⟨rfl, rfl⟩) fun central => ?_
  refine only_bind only_ensure fun _ => ?_
  refine only_bind (only_ask ⟨rfl, rfl⟩) fun now => ?_
  refine only_bind (only_mono (only_verifyAndConsume auth now) fun _ => Checking.neutral)
    fun _ => ?_
  refine only_bind (only_port ⟨rfl, rfl⟩ id) fun channel => ?_
  refine only_bind (only_ask ⟨rfl, rfl⟩) fun prior => ?_
  refine only_bind (only_ask ⟨rfl, rfl⟩) fun requestedAt => ?_
  refine only_bind trivial fun localJournalHash => ?_
  refine only_bind (only_ask ⟨rfl, rfl⟩) fun recordId => ?_
  split
  · refine only_bind (only_port ⟨rfl, rfl⟩ journaled) fun intent => ?_
    exact only_bind (only_ask ⟨rfl, rfl⟩) fun stopped =>
      only_mono (only_settleStop _ stopped) fun _ => Completing.neutral
  · refine only_bind trivial fun _ => ?_
    exact only_bind (only_ask ⟨rfl, rfl⟩) fun stopped =>
      only_mono (only_settleStop _ stopped) fun _ => Completing.neutral

def Reported (result : ThreadResult) (entries : List (GatewayEntry VerifyingKey)) : Prop :=
  ∀ auth preparationId committed, result = some (auth, preparationId, committed) →
    Journaled auth committed entries

/-- **Threads**: only commits write, and their histories are journaled. -/
theorem journaling_operator {p : Program (GatewayCall VerifyingKey) GatewayCall.Answer ThreadResult}
    (hjournal : gateway.journal = true) (h : Operator codec gateway p) :
    (journaling codec).Ensures Reported p [] := by
  have hneutral : ∀ {α : Type} {operation : Gatewaying VerifyingKey α}, Only Neutral operation →
        (journaling codec).Ensures Reported (finished operation) [] := by
    intro α operation hoperation
    refine Monitor.ensures_bind.mpr ((hoperation.recorded
      (fun _ _ => Neutral.mayJournal) []).mono fun _ _ _ => ?_)
    rintro auth preparationId committed ⟨⟩
  cases h with
  | prepareWrite auth targetValue engineeringUnit =>
    exact hneutral (only_mono (only_prepareWrite auth targetValue engineeringUnit)
      fun _ => Preparing.neutral)
  | commit auth preparationId =>
    refine Monitor.ensures_bind.mpr ((journaling_commit hjournal auth preparationId).mono
      fun result entries hjournaled => ?_)
    rintro _ _ _ ⟨⟩
    exact hjournaled
  | requestSafeStop auth requestedBy reasonCode =>
    exact hneutral (neutral_requestSafeStop auth requestedBy reasonCode)
  | updateCentralPolicy next now =>
    refine hneutral (only_bind trivial fun _ => ?_)
    refine only_bind (only_ask ⟨rfl, rfl⟩) fun current => ?_
    exact only_bind trivial fun _ => only_ask ⟨rfl, rfl⟩
  | setConnected connected => exact hneutral (only_ask ⟨rfl, rfl⟩)
  | register channel =>
    refine hneutral (only_bind trivial fun _ => ?_)
    refine only_bind (only_ask ⟨rfl, rfl⟩) fun known => ?_
    exact only_bind only_ensure fun _ => only_ask ⟨rfl, rfl⟩
  | read tenantId resourceKey =>
    exact hneutral (only_bind (only_port ⟨rfl, rfl⟩ id) fun _ => only_port ⟨rfl, rfl⟩ id)
  | addKey keyId issuer key => exact hneutral (only_ask ⟨rfl, rfl⟩)

end Others

section Runs

variable {Bytes VerifyingKey : Type} {codec : IndustrialCodec Bytes VerifyingKey}
  {gateway : IndustrialGateway} {state : GatewayState VerifyingKey}
  {cfg : GatewayConfig VerifyingKey} {event : GatewayEvent VerifyingKey}
  {action : PreparedIndustrialAction} {i : Nat}

def NumbersRecorded (codec : IndustrialCodec Bytes VerifyingKey)
    (state : GatewayState VerifyingKey) : Prop :=
  ∀ action ∈ state.recorded, ∃ target, codec.asF64 action.targetValue = some target

theorem numeric_of_loaded (hreach : (system codec gateway).Reachable state cfg)
    (hprepared : state.prepared = ∅) (hrecorded : NumbersRecorded codec state)
    (hloaded : Loaded (history i cfg.trace) action) :
    ∃ target, codec.asF64 action.targetValue = some target := by
  obtain ⟨source, horigin, hsame⟩ := originates_of_loaded hreach hprepared hloaded
  have hsource : ∃ target, codec.asF64 source.targetValue = some target := by
    obtain hfirst | ⟨event, hevent, hcall⟩ := horigin
    · exact hrecorded source hfirst
    · obtain ⟨auth, channel, hgranted, -⟩ := vouched_of_event hreach hevent hcall
      obtain ⟨current, target, -, htarget, -⟩ := hgranted.values
      exact ⟨target, htarget⟩
  rw [hsame]
  exact hsource

theorem numericTarget_of_mem (hreach : (system codec gateway).Reachable state cfg)
    (hprepared : state.prepared = ∅) (hrecorded : NumbersRecorded codec state)
    (hevent : event ∈ cfg.trace) : NumericTarget codec event.call event.answer := by
  have hmem : event.entry ∈ history event.thread cfg.trace :=
    mem_history.mpr ⟨event, hevent, rfl, rfl⟩
  obtain ⟨i, call, answer, s, s'⟩ := event
  cases call with
  | findPrepared preparationId =>
    rintro action rfl
    exact numeric_of_loaded hreach hprepared hrecorded (.inl ⟨preparationId, hmem⟩)
  | loadPrepared tenantId preparationId =>
    rintro action rfl
    exact numeric_of_loaded hreach hprepared hrecorded (.inr ⟨tenantId, preparationId, hmem⟩)
  | _ => exact trivial

/-- **Journal**: a write is recorded before it is made, and a commit that has ended wrote nothing,
or once and ended the write once, truthfully. -/
theorem commits_are_journaled (hjournal : gateway.journal = true)
    (hprepared : state.prepared = ∅) (hrecorded : NumbersRecorded codec state)
    (hreach : (system codec gateway).Reachable state cfg)
    (hworks : ∀ event ∈ cfg.trace, JournalWorks event.call event.answer) :
    (∀ (i : Nat) call resume, cfg.threads[i]? = some (.perform call resume) →
      MayJournal (history i cfg.trace) call) ∧
    ∀ (i : Nat) auth preparationId result,
      cfg.threads[i]? = some (.done (some (auth, preparationId, result))) →
        Journaled auth result (history i cfg.trace) := by
  have hthread : ∀ (i : Nat) p, cfg.threads[i]? = some p →
      (journaling codec).Ensures Reported p (history i cfg.trace) := by
    intro i p hp
    obtain ⟨first, hoperator, hresumes⟩ := hreach.resumes.2 i p hp
    have hrest := (journaling_operator hjournal hoperator).resumes hresumes (by
      intro entry hentry
      obtain ⟨event, hevent, -, rfl⟩ := mem_history.mp hentry
      exact ⟨hworks event hevent, numericTarget_of_mem hreach hprepared hrecorded hevent⟩)
    rwa [List.nil_append] at hrest
  refine ⟨fun i call resume hi => (hthread i _ hi).1, ?_⟩
  intro i auth preparationId result hi
  exact hthread i _ hi auth preparationId result rfl

end Runs

-- A sample commit

def sampleEvidence : IndustrialConvergenceEvidence := ⟨55, 1, 1, 0, 0, 2, 2, true⟩

def sampleReceipt : IndustrialCommitReceipt :=
  receiptOf (sampleAction (sampleHash 'e')) (sampleSample "55" "v2" 14 2) sampleEvidence
    (sampleHash 'f') 17

def sampleCommitted : IndustrialCommitReceipt :=
  { sampleReceipt with journalDigest := sampleHash '0' }

def sampleSettling : List (GatewayEntry String) :=
  [⟨.compareAndSet sampleChannel (sampleAction (sampleHash 'e')),
      .ok (sampleSample "55" "v2" 14 2)⟩,
    ⟨.utcNow, (15 : DateTime)⟩, ⟨.utcNow, (16 : DateTime)⟩, ⟨.utcNow, (17 : DateTime)⟩,
    ⟨.recordCommit sampleReceipt, .ok (sampleHash '0')⟩]

theorem sampleSettling_resumes :
    Resumes (.perform (.compareAndSet sampleChannel (sampleAction (sampleHash 'e'))) fun answer =>
        ((sampleGateway .high).settle sampleIndustrialCodec (sampleAction (sampleHash 'e'))
          sampleChannel (sampleHash 'f') answer).run) sampleSettling
      (.done (.ok sampleCommitted)) := by
  have hfresh : (validateFreshGood (sampleSample "55" "v2" 14 2) sampleChannel.freshnessMs
      15).isOk ≠ false := by
    decide
  have hconverged : verifyConvergence sampleIndustrialCodec.asF64
      (sampleGateway .high).convergencePolicy [sampleSample "55" "v2" 14 2] 55
      (sampleAction (sampleHash 'e')).engineeringUnit (sampleAction (sampleHash 'e')).resourceKey
      sampleChannel.freshnessMs 16 = .ok sampleEvidence := by
    decide +kernel
  refine .perform ?_
  refine .ask_bind ?_
  rw [if_neg hfresh, if_neg (by decide)]
  refine .computed_bind (a := 55) (by decide) ?_
  refine .ask_bind ?_
  rw [hconverged]
  refine .ask_bind ?_
  refine .port_bind (a := sampleHash '0') (by decide) ?_
  exact .refl _

/-- The journal at a concrete run: a write that is verified ends with the record of its receipt. -/
theorem commits_are_journaled_sample :
    ∃ cfg : GatewayConfig String, cfg.threads[1]? = some (.done (some (sampleEdgeAuthorization,
        "preparation", .ok sampleCommitted))) ∧
      Journaled sampleEdgeAuthorization (.ok sampleCommitted) (history 1 cfg.trace) := by
  obtain ⟨cfg, hreach, -, hthread, hentries, -⟩ := sample_about_to_write .high (by decide)
  have hserves : (system sampleIndustrialCodec (sampleGateway .high)).Serves cfg.shared
      sampleSettling cfg.shared := by
    refine .through cfg.shared rfl ?_
    refine .through cfg.shared rfl ?_
    refine .through cfg.shared rfl ?_
    refine .through cfg.shared rfl ?_
    exact .through cfg.shared rfl (.nil _)
  obtain ⟨events, -, hsettling, hreach'⟩ := hreach.run 1 hthread
    (sampleSettling_resumes.bind_left fun result => (.done (some (sampleEdgeAuthorization,
      "preparation", result)) : Program (GatewayCall String) GatewayCall.Answer ThreadResult))
    hserves
  have hone : 1 < cfg.threads.length := (List.getElem?_eq_some_iff.mp hthread).1
  have hdone : (cfg.threads.set 1 (.done (some (sampleEdgeAuthorization, "preparation",
      .ok sampleCommitted))))[1]? =
      some (.done (some (sampleEdgeAuthorization, "preparation",
        .ok sampleCommitted))) := by
    simp [hone]
  -- every answer of the journal in the run is a digest
  have hall : ∀ entry ∈ samplePreparing ++ sampleCommitting ++ sampleSettling,
      JournalWorks entry.1 entry.2 := by
    have hdigests : isDigest (sampleHash 'e') = true ∧ isDigest (sampleHash 'f') = true ∧
        isDigest (sampleHash '0') = true := by
      decide
    simp [samplePreparing, sampleCommitting, sampleSettling, JournalWorks, hdigests]
  have hworks : ∀ event ∈ cfg.trace ++ events, JournalWorks event.call event.answer := by
    intro event hevent
    obtain hold | hnew := List.mem_append.mp hevent
    · exact hall event.entry (List.mem_append_left _ (hentries event hold))
    · exact hall event.entry (List.mem_append_right _ (hsettling ▸ List.mem_map_of_mem hnew))
  refine ⟨⟨cfg.shared, _, cfg.trace ++ events⟩, hdone, ?_⟩
  exact (commits_are_journaled rfl rfl (by simp [NumbersRecorded, sampleGatewayState]) hreach'
    hworks).2 1 _ _ _ hdone

end AgentSphere.Industrial
