import AgentSphere.Industrial.Writes

/-!
# Addresses of channels

The key of a channel is its site, area, line, asset and channel with a separator in between. The
registry refuses a second channel with a key and finds channels by their keys. The fields may hold
the separator themselves, so that two addresses may share a key: they do when they give the same
pieces, cut at every separator.
-/

namespace AgentSphere.Industrial

open Concurrency Attempt

namespace IndustrialResourceRef

def address (resource : IndustrialResourceRef) : List String :=
  [resource.site, resource.area, resource.line, resource.asset, resource.channel]

def pieces (resource : IndustrialResourceRef) : List (List Char) :=
  resource.address.flatMap fun field => field.toList.splitOn '/'

variable {resource resource' : IndustrialResourceRef}

theorem splitOn_key : resource.key.toList.splitOn '/' = resource.pieces := by
  have hkey : resource.key.toList = resource.site.toList ++ '/' :: (resource.area.toList ++ '/' ::
      (resource.line.toList ++ '/' :: (resource.asset.toList ++ '/' ::
        resource.channel.toList))) := by
    simp [key]
  rw [hkey, List.splitOn_append_cons_self, List.splitOn_append_cons_self,
    List.splitOn_append_cons_self, List.splitOn_append_cons_self]
  simp [pieces, address]

theorem key_eq_iff : resource.key = resource'.key ↔ resource.pieces = resource'.pieces := by
  constructor
  · intro h
    rw [← splitOn_key, ← splitOn_key, h]
  · intro h
    rw [← splitOn_key, ← splitOn_key] at h
    have hjoined := congrArg (List.intercalate ['/']) h
    rw [List.intercalate_splitOn, List.intercalate_splitOn] at hjoined
    exact String.toList_inj.mp hjoined

theorem pieces_of_separatorless (h : ∀ field ∈ resource.address, '/' ∉ field.toList) :
    resource.pieces = resource.address.map String.toList := by
  have hsingle : ∀ field ∈ resource.address, field.toList.splitOn '/' = [field.toList] :=
    fun field hfield => List.splitOn_eq_singleton (h field hfield)
  rw [pieces, List.flatMap_congr hsingle]
  exact List.map_eq_flatMap.symm

theorem pieces_ne_of_separatorless (h : ∀ field ∈ resource.address, '/' ∉ field.toList)
    (h' : ∀ field ∈ resource'.address, '/' ∉ field.toList)
    (hne : resource.address ≠ resource'.address) : resource.pieces ≠ resource'.pieces := by
  rw [pieces_of_separatorless h, pieces_of_separatorless h']
  intro hsame
  exact hne ((List.map_inj_right fun _ _ h => String.toList_inj.mp h).mp hsame)

end IndustrialResourceRef

section Registration

variable {Bytes VerifyingKey : Type}

def registered (state : GatewayState VerifyingKey) (channel : AssetChannel) :
    Except IndustrialError Unit × GatewayState VerifyingKey :=
  match validateChannel channel with
  | .error e => (.error e, state)
  | .ok _ =>
    if state.channels.contains (channel.resource.tenantId, channel.resource.key) then
      (.error .assetConflict, state)
    else
      (.ok (), { state with channels :=
        state.channels.insert (channel.resource.tenantId, channel.resource.key) channel })

variable (codec : IndustrialCodec Bytes VerifyingKey) (gateway : IndustrialGateway)

/-- A call of `register` that nothing interrupts. -/
def Registers (state : GatewayState VerifyingKey) (channel : AssetChannel)
    (result : Except IndustrialError Unit) (state' : GatewayState VerifyingKey) : Prop :=
  ∃ entries : List (GatewayEntry VerifyingKey),
    Resumes (register channel).run entries (.done result) ∧
      (system codec gateway).Serves state entries state'

variable {codec gateway} {state state' : GatewayState VerifyingKey} {channel : AssetChannel}
  {result : Except IndustrialError Unit}

theorem registers_iff :
    Registers codec gateway state channel result state' ↔
      (result, state') = registered state channel := by
  unfold Registers registered register
  cases hvalid : validateChannel channel with
  | error e =>
    constructor
    · rintro ⟨entries, hresumes, hserves⟩
      cases hresumes
      cases hserves
      rfl
    · rintro ⟨⟩
      exact ⟨[], .refl _, .nil _⟩
  | ok _ =>
    constructor
    · rintro ⟨entries, hresumes, hserves⟩
      cases hresumes with
      | @perform _ _ known rest _ hrest =>
        cases hserves with
        | cons served hserves =>
          obtain ⟨hknown, hsame⟩ := served
          rw [hsame] at hserves
          subst hknown
          cases hcontains : state.channels.contains
              (channel.resource.tenantId, channel.resource.key) with
          | true =>
            rw [hcontains] at hrest
            cases hrest
            cases hserves
            rfl
          | false =>
            rw [hcontains] at hrest
            cases hrest with
            | perform hrest =>
              cases hrest
              cases hserves with
              | cons served hserves =>
                cases hserves
                obtain rfl := served
                rfl
    · intro h
      cases hcontains : state.channels.contains
          (channel.resource.tenantId, channel.resource.key) with
      | true =>
        simp only [hcontains, if_true, Prod.mk.injEq] at h
        obtain ⟨rfl, rfl⟩ := h
        exact ⟨[⟨.containsChannel _ _, true⟩], .perform (.refl _),
          .cons ⟨hcontains.symm, rfl⟩ (.nil _)⟩
      | false =>
        simp only [hcontains, Bool.false_eq_true, if_false, Prod.mk.injEq] at h
        obtain ⟨rfl, rfl⟩ := h
        exact ⟨[⟨.containsChannel _ _, false⟩, ⟨.insertChannel channel, ()⟩],
          .perform (.perform (.refl _)), .cons ⟨hcontains.symm, rfl⟩ (.cons rfl (.nil _))⟩

theorem registers_of_free (hvalid : validateChannel channel = .ok ())
    (hfree : state.channels.contains (channel.resource.tenantId, channel.resource.key) = false) :
    Registers codec gateway state channel (.ok ()) { state with
      channels := state.channels.insert (channel.resource.tenantId, channel.resource.key)
        channel } := by
  rw [registers_iff, registered, hvalid]
  simp [hfree]

theorem registers_of_taken (hvalid : validateChannel channel = .ok ())
    (htaken : state.channels.contains (channel.resource.tenantId, channel.resource.key) = true) :
    Registers codec gateway state channel (.error .assetConflict) state := by
  rw [registers_iff, registered, hvalid]
  simp [htaken]

theorem Registers.channels (h : Registers codec gateway state channel (.ok ()) state') :
    state'.channels = state.channels.insert (channel.resource.tenantId, channel.resource.key)
      channel := by
  have hsame := registers_iff.mp h
  unfold registered at hsame
  split at hsame
  · exact nomatch (Prod.mk.inj hsame).1
  · split_ifs at hsame
    · exact nomatch (Prod.mk.inj hsame).1
    · rw [(Prod.mk.inj hsame).2]

theorem registered_fst {s s' : GatewayState VerifyingKey}
    (h : s.channels.contains (channel.resource.tenantId, channel.resource.key) =
      s'.channels.contains (channel.resource.tenantId, channel.resource.key)) :
    (registered s channel).1 = (registered s' channel).1 := by
  unfold registered
  split
  · rfl
  · rw [h]
    split_ifs <;> rfl

variable (codec gateway)

/-- The channels have different keys, neither is refused because of the other, and each is found
under its own key. -/
structure Unambiguous (channel channel' : AssetChannel) : Prop where
  keys : channel.resource.key ≠ channel'.resource.key
  /-- What `register` says of the second is the same before and after the first. -/
  accepted : ∀ state after : GatewayState VerifyingKey,
    Registers codec gateway state channel (.ok ()) after →
      ∀ result, (∃ last, Registers codec gateway after channel' result last) ↔
        ∃ last, Registers codec gateway state channel' result last
  resolved : ∀ state after last : GatewayState VerifyingKey,
    Registers codec gateway state channel (.ok ()) after →
      Registers codec gateway after channel' (.ok ()) last →
        last.resolve channel.resource.tenantId channel.resource.key = .ok channel ∧
          last.resolve channel'.resource.tenantId channel'.resource.key = .ok channel'
  /-- Whatever the operations do in between, the key of one never leads to the other. -/
  found : ∀ (state : GatewayState VerifyingKey) cfg, Keyed state →
    (system codec gateway).Reachable state cfg → ∀ event ∈ cfg.trace, ∀ use : Use,
      event.entry ≠ ⟨.resolve use channel.resource.tenantId channel.resource.key, .ok channel'⟩ ∧
      event.entry ≠ ⟨.resolve use channel'.resource.tenantId channel'.resource.key, .ok channel⟩

variable {codec gateway} {cfg : GatewayConfig VerifyingKey}

theorem key_of_found (hkeyed : Keyed state) (hreach : (system codec gateway).Reachable state cfg)
    {event : GatewayEvent VerifyingKey} (hevent : event ∈ cfg.trace) {use : Use}
    {tenantId : TenantId} {key : String}
    (hentry : event.entry = ⟨.resolve use tenantId key, .ok channel⟩) :
    channel.resource.key = key := by
  obtain ⟨-, hevents⟩ := hreach.always (I := fun s _ => Keyed s)
    (fun _ _ _ _ _ _ hkeyed hserve => hkeyed.serve hserve) (by rintro _ _ _ _ ⟨⟩) hkeyed
  obtain ⟨before, after, htrace⟩ := List.append_of_mem hevent
  obtain ⟨hkeyed, hserve⟩ := hevents before event after htrace
  obtain ⟨hanswer, -⟩ := Event.of_entry hentry
    (fun call answer => serve event.before call answer event.after) hserve
  exact (hkeyed tenantId key channel (resolve_eq_ok.mp hanswer.symm)).2

theorem unambiguous_of_keys {channel' : AssetChannel}
    (hkeys : channel.resource.key ≠ channel'.resource.key) :
    Unambiguous codec gateway channel channel' where
  keys := hkeys
  accepted := by
    intro state after hregisters result
    have hcontains : after.channels.contains (channel'.resource.tenantId, channel'.resource.key) =
        state.channels.contains (channel'.resource.tenantId, channel'.resource.key) := by
      rw [hregisters.channels, Std.ExtTreeMap.contains_eq_isSome_getElem?,
        Std.ExtTreeMap.contains_eq_isSome_getElem?, BTreeMap.getElem?_insert_ite, if_neg]
      exact fun hsame => hkeys (Prod.mk.inj hsame).2
    simp only [registers_iff, Prod.ext_iff, exists_and_left, exists_eq, and_true]
    rw [registered_fst hcontains]
  resolved := by
    intro state after last hregisters hregisters'
    rw [resolve_eq_ok, resolve_eq_ok, hregisters'.channels, hregisters.channels,
      BTreeMap.getElem?_insert_ite, if_neg fun hsame => hkeys (Prod.mk.inj hsame).2.symm]
    simp
  found := by
    intro state cfg hkeyed hreach event hevent use
    exact ⟨fun hentry => hkeys (key_of_found hkeyed hreach hevent hentry).symm,
      fun hentry => hkeys (key_of_found hkeyed hreach hevent hentry)⟩

/-- Two channels are never taken for one another exactly if their addresses give different pieces;
those of two addresses without separators do. -/
theorem addresses_unambiguous_iff (channel channel' : AssetChannel) :
    (Unambiguous codec gateway channel channel' ↔
      channel.resource.pieces ≠ channel'.resource.pieces) ∧
    ((∀ field ∈ channel.resource.address, '/' ∉ field.toList) →
      (∀ field ∈ channel'.resource.address, '/' ∉ field.toList) →
      channel.resource.address ≠ channel'.resource.address →
        channel.resource.pieces ≠ channel'.resource.pieces) := by
  refine ⟨⟨fun h hpieces => h.keys (IndustrialResourceRef.key_eq_iff.mpr hpieces), ?_⟩, ?_⟩
  · intro hpieces
    exact unambiguous_of_keys fun hkeys => hpieces (IndustrialResourceRef.key_eq_iff.mp hkeys)
  · intro h h' hne
    exact IndustrialResourceRef.pieces_ne_of_separatorless h h' hne

end Registration

-- A separator inside a field

def sampleAt (site area : String) : AssetChannel :=
  { sampleChannel with resource := { sampleChannel.resource with site := site, area := area } }

/-- **Counterexample**: two channels at different addresses share a key. With the first one
registered the second one is refused, and its key leads to the first. -/
theorem separator_shares_key :
    validateChannel (sampleAt "north/hall" "two") = .ok () ∧
    validateChannel (sampleAt "north" "hall/two") = .ok () ∧
    (sampleAt "north/hall" "two").resource.tenantId =
      (sampleAt "north" "hall/two").resource.tenantId ∧
    (sampleAt "north/hall" "two").resource.address ≠
      (sampleAt "north" "hall/two").resource.address ∧
    ¬Unambiguous sampleIndustrialCodec (sampleGateway .high) (sampleAt "north/hall" "two")
      (sampleAt "north" "hall/two") ∧
    ∃ after, Registers sampleIndustrialCodec (sampleGateway .high)
        { sampleGatewayState with channels := ∅ } (sampleAt "north/hall" "two") (.ok ()) after ∧
      Registers sampleIndustrialCodec (sampleGateway .high) after (sampleAt "north" "hall/two")
        (.error .assetConflict) after ∧
      after.resolve "tenant" (sampleAt "north" "hall/two").resource.key =
        .ok (sampleAt "north/hall" "two") := by
  have hvalid : validateChannel (sampleAt "north/hall" "two") = .ok () := by decide +kernel
  have hvalid' : validateChannel (sampleAt "north" "hall/two") = .ok () := by decide +kernel
  have hkeys : (sampleAt "north/hall" "two").resource.key =
      (sampleAt "north" "hall/two").resource.key := by
    decide
  have htenant : (sampleAt "north/hall" "two").resource.tenantId =
      (sampleAt "north" "hall/two").resource.tenantId := rfl
  refine ⟨hvalid, hvalid', htenant, by decide, fun h => h.keys hkeys, _,
    registers_of_free hvalid rfl, registers_of_taken hvalid' ?_, ?_⟩
  · rw [← hkeys, ← htenant]
    simp
  · rw [resolve_eq_ok, ← hkeys]
    exact Std.ExtTreeMap.getElem?_insert_self

end AgentSphere.Industrial
