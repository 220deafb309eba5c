import AgentSphere.Contracts.Basic
import AgentSphere.Lib.Der
import AgentSphere.Lib.Program
import AgentSphere.Lib.Utf8

/-!
# The identity of a peer

A peer is who its certificate names in its only subject alternative name. The reader of the
certificate knows elements of one identifier octet. Of certificates which are made of these it reads
what was written; of any octets it stays within what it was given.
-/

namespace AgentSphere.ToolProxy

open Concurrency Utf8
open Der (Element)

/-- `()`, or the panic of an addition. -/
inductive DerError where
  | malformed
  | panicked

-- Elements

def readAt (input : List UInt8) (position : Nat) : Except DerError UInt8 :=
  match input[position]? with
  | none => .error .malformed
  | some octet => .ok octet

/-- A `usize`. -/
def checked (error : DerError) (n : Nat) : Except DerError Nat :=
  if n < 2 ^ 64 then .ok n else .error error

def lengthFrom (input : List UInt8) : Nat → Nat → Nat → Except DerError Nat
  | 0, _, length => .ok length
  | count + 1, position, length => do
    let product ← checked .malformed (length * 256)
    let position ← checked .panicked position
    let octet ← readAt input position
    let length ← checked .malformed (product + octet.toNat)
    lengthFrom input count (position + 1) length

def derLength (input : List UInt8) (offset : Nat) (first : UInt8) : Except DerError (Nat × Nat) :=
  if first &&& 0x80 = 0 then .ok (first.toNat, 2)
  else do
    let count := (first &&& 0x7f).toNat
    require (count ≠ 0 ∧ count ≤ 8) .malformed
    let length ← lengthFrom input count (offset + 2) 0
    pure (length, 2 + count)

def derElement (input : List UInt8) (offset : Nat) : Except DerError (UInt8 × List UInt8 × Nat) :=
  do
  let tag ← readAt input offset
  let second ← checked .panicked (offset + 1)
  let first ← readAt input second
  let (length, header) ← derLength input offset first
  let start ← checked .malformed (offset + header)
  let stop ← checked .malformed (start + length)
  require (stop ≤ input.length) .malformed
  pure (tag, (input.take stop).drop start, stop)

section Elements

variable {input before after : List UInt8} {offset next n m : Nat} {tag first octet : UInt8}
  {value : List UInt8} {error : DerError} {element : Element}

theorem readAt_eq_ok : readAt input n = .ok octet ↔ input[n]? = some octet := by
  unfold readAt
  cases input[n]? <;> simp

theorem checked_eq_ok : checked error n = .ok m ↔ n < 2 ^ 64 ∧ n = m := by
  rw [← and_congr_right_iff.mpr fun _ => Eq.to_iff (Except.ok.injEq n m)]
  unfold checked
  split_ifs with h
  · rw [and_iff_right h]
  · simp only [h, false_and]

theorem checked_of_lt (h : n < 2 ^ 64) : checked error n = .ok n := if_pos h

theorem derElement_bounds (h : derElement input offset = .ok (tag, value, next)) :
    input[offset]? = some tag ∧ ∃ start, offset + 2 ≤ start ∧ start ≤ next ∧ next ≤ input.length ∧
      value = (input.take next).drop start := by
  simp only [derElement, except_bind_eq_ok, readAt_eq_ok, checked_eq_ok, require_eq_ok] at h
  obtain ⟨_, htag, _, -, first, -, ⟨length, header⟩, hlength, start, ⟨-, hstart⟩, stop, ⟨-, hstop⟩,
    _, hle, heq⟩ := h
  cases heq
  have hheader : 2 ≤ header := by
    unfold derLength at hlength
    split_ifs at hlength with hshort
    · cases hlength
      exact le_rfl
    · simp only [except_bind_eq_ok] at hlength
      obtain ⟨-, -, _, -, hpair⟩ := hlength
      cases hpair
      exact Nat.le_add_right 2 _
  exact ⟨htag, start, by omega, by omega, hle, rfl⟩

theorem derElement_advances (h : derElement input offset = .ok (tag, value, next)) :
    offset < next ∧ next ≤ input.length ∧ value.length ≤ input.length := by
  obtain ⟨-, start, hstart, hle, hnext, rfl⟩ := derElement_bounds h
  simp only [List.length_drop, List.length_take]
  omega

end Elements

/-- `while offset < bytes.len()`, over the elements. -/
def forElements {σ : Type} (body : σ → UInt8 → List UInt8 → Except DerError σ) (bytes : List UInt8)
    (offset : Nat) (state : σ) : Except DerError σ :=
  if offset < bytes.length then
    match _h : derElement bytes offset with
    | .error error => .error error
    | .ok (tag, value, next) =>
      match body state tag value with
      | .error error => .error error
      | .ok state => forElements body bytes next state
  else .ok state
termination_by bytes.length - offset
decreasing_by
  have hnext := derElement_advances _h
  omega

-- Certificates

def subjectAltNameOid : List UInt8 := [0x55, 0x1d, 0x11]

def readSequence (input : List UInt8) : Except DerError (List UInt8) := do
  let (tag, value, stop) ← derElement input 0
  require (tag = 0x30 ∧ stop = input.length) .malformed
  pure value

def skipFlag (extension : List UInt8) (element : UInt8 × List UInt8 × Nat) :
    Except DerError (UInt8 × List UInt8 × Nat) :=
  if element.1 = 0x01 then derElement extension element.2.2 else .ok element

def readExtension (extension : List UInt8) : Except DerError (List UInt8 × List UInt8) := do
  let (oidTag, oid, field) ← derElement extension 0
  require (oidTag = 0x06) .malformed
  let second ← derElement extension field
  let (valueTag, value, field) ← skipFlag extension second
  require (valueTag = 0x04 ∧ field = extension.length) .malformed
  pure (oid, value)

/-- `san.replace`, for the names. -/
def replaceSan (san : Option (List UInt8)) (oid value : List UInt8) :
    Except DerError (Option (List UInt8)) :=
  if oid = subjectAltNameOid ∧ san.isSome = true then .error .malformed
  else .ok (if oid = subjectAltNameOid then some value else san)

def takeExtension (san : Option (List UInt8)) (tag : UInt8) (extension : List UInt8) :
    Except DerError (Option (List UInt8)) := do
  require (tag = 0x30) .malformed
  let (oid, value) ← readExtension extension
  replaceSan san oid value

def takeField (san : Option (List UInt8)) (tag : UInt8) (value : List UInt8) :
    Except DerError (Option (List UInt8)) :=
  if tag = 0xa3 then do
    let extensions ← readSequence value
    forElements takeExtension extensions 0 san
  else .ok san

def nameLabel (tag : UInt8) : Option String :=
  if tag = 0x82 then some "DNS:" else if tag = 0x86 then some "URI:" else none

/-- `is_ascii_graphic` of a byte. -/
def isGraphic (byte : UInt8) : Bool := 0x21 ≤ byte && byte ≤ 0x7e

def takeName (identities : List String) (tag : UInt8) (value : List UInt8) :
    Except DerError (List String) :=
  match nameLabel tag, fromUtf8? value with
  | some label, some text =>
    if text.isEmpty || !(asBytes text).all isGraphic then .error .malformed
    else .ok (identities ++ [label ++ text])
  | _, _ => .error .malformed

def certificateSubjectAltNames (certificate : List UInt8) : Except DerError (List String) := do
  let outer ← readSequence certificate
  let (tbsTag, tbs, _) ← derElement outer 0
  require (tbsTag = 0x30) .malformed
  match ← forElements takeField tbs 0 none with
  | none => .error .malformed
  | some san => do
    let names ← readSequence san
    forElements takeName names 0 []

def matchingCertificateIdentity (certificate : List UInt8) (allowed : BTreeSet String) :
    Option String :=
  match certificateSubjectAltNames certificate with
  | .ok [identity] => if identity ∈ allowed then some identity else none
  | _ => none

-- Any octets

def Returns {α : Type} (P : α → Prop) : Except DerError α → Prop
  | .ok a => P a
  | .error error => error = .malformed

section Returns

variable {α β σ : Type} {P : α → Prop} {Q : β → Prop} {input bytes : List UInt8}
  {offset count position length n : Nat} {first : UInt8} {state : σ}

theorem Returns.bind {result : Except DerError α} {f : α → Except DerError β}
    (h : Returns P result) (hf : ∀ a, P a → Returns Q (f a)) : Returns Q (result >>= f) := by
  cases result with
  | error error => exact h
  | ok a => exact hf a h

theorem returns_require {condition : Prop} [Decidable condition] :
    Returns (fun _ => True) (require condition DerError.malformed) := by
  unfold require
  split_ifs <;> trivial

theorem returns_checked : Returns (fun _ => True) (checked .malformed n) := by
  unfold checked
  split_ifs <;> trivial

theorem returns_readAt : Returns (fun _ => n < input.length) (readAt input n) := by
  unfold readAt
  split
  · rfl
  · next octet hoctet => exact (List.getElem?_eq_some_iff.mp hoctet).1

theorem returns_lengthFrom (hroom : input.length < 2 ^ 63) (hposition : position ≤ input.length) :
    Returns (fun _ => True) (lengthFrom input count position length) := by
  induction count generalizing position length with
  | zero => trivial
  | succ count ih =>
    refine returns_checked.bind fun _ _ => ?_
    rw [checked_of_lt (by omega)]
    exact returns_readAt.bind fun _ hlt => returns_checked.bind fun _ _ => ih hlt

theorem returns_derElement (hroom : input.length < 2 ^ 63) :
    Returns (fun element => element.2.1.length < 2 ^ 63) (derElement input offset) := by
  refine returns_readAt.bind fun tag hlt => ?_
  rw [checked_of_lt (by omega)]
  refine returns_readAt.bind fun first hlt' => ?_
  have hlength : Returns (fun _ => True) (derLength input offset first) := by
    unfold derLength
    split_ifs
    · trivial
    · exact returns_require.bind fun _ _ =>
        (returns_lengthFrom hroom hlt').bind fun _ _ => trivial
  refine hlength.bind fun _ _ => returns_checked.bind fun _ _ => returns_checked.bind fun stop _ =>
    returns_require.bind fun _ _ => ?_
  simp only [pure, Except.pure, Returns, List.length_drop, List.length_take]
  omega

theorem returns_forElements {P : σ → Prop} {body : σ → UInt8 → List UInt8 → Except DerError σ}
    (hroom : bytes.length < 2 ^ 63) (hbody : ∀ state tag value, P state → value.length < 2 ^ 63 →
      Returns P (body state tag value)) (hstate : P state) :
    Returns P (forElements body bytes offset state) := by
  fun_induction forElements body bytes offset state with
  | case1 offset state hlt error herror =>
    have hreturns : Returns _ (derElement bytes offset) := returns_derElement hroom
    rw [herror] at hreturns
    exact hreturns
  | case2 offset state hlt tag value next helement error herror =>
    have hreturns : Returns _ (derElement bytes offset) := returns_derElement hroom
    rw [helement] at hreturns
    have hfails := hbody state tag value hstate hreturns
    rw [herror] at hfails
    exact hfails
  | case3 offset state hlt tag value next helement state' htaken ih =>
    have hreturns : Returns _ (derElement bytes offset) := returns_derElement hroom
    rw [helement] at hreturns
    have htakes := hbody state tag value hstate hreturns
    rw [htaken] at htakes
    exact ih htakes
  | case4 => exact hstate

theorem returns_readSequence (hroom : input.length < 2 ^ 63) :
    Returns (fun value => value.length < 2 ^ 63) (readSequence input) :=
  (returns_derElement hroom).bind fun _ hlt => returns_require.bind fun _ _ => hlt

def Held (san : Option (List UInt8)) : Prop := ∀ value ∈ san, value.length < 2 ^ 63

variable {san : Option (List UInt8)} {tag : UInt8}

theorem returns_takeExtension (hsan : Held san) (hroom : bytes.length < 2 ^ 63) :
    Returns Held (takeExtension san tag bytes) := by
  have hread : Returns (fun pair => pair.2.length < 2 ^ 63) (readExtension bytes) := by
    refine (returns_derElement hroom).bind fun _ _ => returns_require.bind fun _ _ => ?_
    refine (returns_derElement hroom).bind fun second hsecond => ?_
    have hvalue : Returns (fun element => element.2.1.length < 2 ^ 63) (skipFlag bytes second) := by
      unfold skipFlag
      split_ifs
      · exact returns_derElement hroom
      · exact hsecond
    exact hvalue.bind fun _ hlt => returns_require.bind fun _ _ => hlt
  refine returns_require.bind fun _ _ => hread.bind fun pair hpair => ?_
  dsimp only
  unfold replaceSan
  split_ifs
  · rfl
  · intro value hvalue
    cases hvalue
    exact hpair
  · exact hsan

theorem returns_takeField (hsan : Held san) (hroom : bytes.length < 2 ^ 63) :
    Returns Held (takeField san tag bytes) := by
  unfold takeField
  split_ifs
  · exact (returns_readSequence hroom).bind fun _ hlt =>
      returns_forElements hlt (fun _ _ _ hsan hroom => returns_takeExtension hsan hroom) hsan
  · exact hsan

theorem held_none : Held none := by
  unfold Held
  simp

theorem returns_takeName (identities : List String) :
    Returns (fun _ => True) (takeName identities tag bytes) := by
  unfold takeName
  split
  · split_ifs <;> trivial
  · rfl

/-- **Whatever is read, the reader returns.** -/
theorem returns_certificateSubjectAltNames (hroom : bytes.length < 2 ^ 63) :
    Returns (fun _ => True) (certificateSubjectAltNames bytes) := by
  refine (returns_readSequence hroom).bind fun _ houter => ?_
  refine (returns_derElement houter).bind fun _ htbs => returns_require.bind fun _ _ => ?_
  refine (returns_forElements htbs (fun _ _ _ hsan hroom => returns_takeField hsan hroom)
    held_none).bind fun san hsan => ?_
  cases san with
  | none => rfl
  | some san =>
    exact (returns_readSequence (hsan san rfl)).bind fun _ hnames =>
      returns_forElements hnames (fun identities _ _ _ _ => returns_takeName identities) trivial

end Returns

section Built

variable {σ : Type} {before after octets : List UInt8} {element : Element} {length n : Nat}
  {tag first : UInt8} {elements names : List Element} {state : σ}
  {body : σ → UInt8 → List UInt8 → Except DerError σ} {identities out : List String}

theorem readAt_append : readAt (before ++ first :: after) before.length = .ok first := by
  rw [readAt_eq_ok, List.getElem?_append_right le_rfl, Nat.sub_self]
  rfl

theorem lengthFrom_octets (hlength : Der.ofOctets octets length < 2 ^ 64)
    (hroom : (before ++ (octets ++ after)).length < 2 ^ 63) :
    lengthFrom (before ++ (octets ++ after)) octets.length before.length length =
      .ok (Der.ofOctets octets length) := by
  induction octets generalizing before length with
  | nil => rfl
  | cons octet octets ih =>
    have hle : length * 256 + octet.toNat ≤ Der.ofOctets (octet :: octets) length :=
      Der.le_ofOctets octets _
    have hbefore : before.length < 2 ^ 64 := by
      rw [List.length_append] at hroom
      omega
    have hsplit : before ++ (octet :: octets ++ after) =
        before ++ [octet] ++ (octets ++ after) := by simp
    refine except_bind_eq_ok.mpr ⟨_, checked_of_lt (by omega), except_bind_eq_ok.mpr
      ⟨_, checked_of_lt hbefore, except_bind_eq_ok.mpr ⟨_, readAt_append, except_bind_eq_ok.mpr
        ⟨_, checked_of_lt (by omega), ?_⟩⟩⟩⟩
    rw [hsplit] at hroom ⊢
    have hnext := ih hlength hroom
    rwa [List.length_append] at hnext

theorem derLength_lengthOctets
    (hroom : (before ++ tag :: (Der.lengthOctets n ++ after)).length < 2 ^ 63)
    (hn : n < 2 ^ 64) : ∃ first rest, Der.lengthOctets n = first :: rest ∧
      derLength (before ++ tag :: (Der.lengthOctets n ++ after)) before.length first =
        .ok (n, 1 + (Der.lengthOctets n).length) := by
  unfold Der.lengthOctets at hroom ⊢
  split_ifs at hroom ⊢ with hshort
  · refine ⟨_, _, rfl, ?_⟩
    rw [derLength, if_pos (Der.short_and hshort), UInt8.toNat_ofNat', Nat.mod_eq_of_lt (by omega)]
    rfl
  · obtain ⟨hflag, hcount⟩ := Der.long_and (Der.length_octets_le hn)
    have hpos : (Der.octets n).length ≠ 0 := (Der.length_octets_pos (by omega)).ne'
    refine ⟨_, _, rfl, ?_⟩
    rw [derLength, if_neg hflag, hcount]
    refine except_bind_eq_ok.mpr ⟨(), require_eq_ok.mpr ⟨hpos, Der.length_octets_le hn⟩,
      except_bind_eq_ok.mpr ⟨n, ?_, ?_⟩⟩
    · generalize hfirst : UInt8.ofNat (0x80 + (Der.octets n).length) = first at hroom
      have hsplit : before ++ tag :: (first :: Der.octets n ++ after) =
          before ++ [tag, first] ++ (Der.octets n ++ after) := by simp
      rw [hsplit] at hroom ⊢
      have hlength : Der.ofOctets (Der.octets n) 0 < 2 ^ 64 := by rwa [Der.ofOctets_octets]
      have hread := lengthFrom_octets hlength hroom
      rwa [List.length_append, Der.ofOctets_octets] at hread
    · rw [List.length_cons, ← Nat.add_assoc, Nat.add_right_comm]
      rfl

theorem derElement_encode (hfurther : element.further = [])
    (hroom : (before ++ (element.encode ++ after)).length < 2 ^ 63) :
    derElement (before ++ (element.encode ++ after)) before.length =
      .ok (element.tag, element.contents, before.length + element.encode.length) := by
  have hn : element.contents.length < 2 ^ 64 := by
    have hlt := element.lt_length_encode
    simp only [List.length_append] at hroom
    omega
  rw [Element.eq_cons hfurther, List.cons_append, List.append_assoc] at hroom ⊢
  obtain ⟨first, rest, hfirst, hlength⟩ := derLength_lengthOctets hroom hn
  have hsecond : readAt (before ++ element.tag :: (Der.lengthOctets element.contents.length ++
      (element.contents ++ after))) (before.length + 1) = .ok first := by
    rw [hfirst, List.cons_append, List.append_cons, readAt_eq_ok]
    simp
  have hsplit : before ++ element.tag :: (Der.lengthOctets element.contents.length ++
      (element.contents ++ after)) = before ++ element.tag :: Der.lengthOctets
        element.contents.length ++ (element.contents ++ after) := by simp
  have hstart : (before ++ element.tag :: Der.lengthOctets element.contents.length).length =
      before.length + (1 + (Der.lengthOctets element.contents.length).length) := by
    rw [List.length_append, List.length_cons, Nat.add_comm 1]
  simp only [List.length_append, List.length_cons] at hroom
  refine except_bind_eq_ok.mpr ⟨_, readAt_append, except_bind_eq_ok.mpr
    ⟨_, checked_of_lt (by omega), except_bind_eq_ok.mpr ⟨_, hsecond, except_bind_eq_ok.mpr
      ⟨_, hlength, except_bind_eq_ok.mpr ⟨_, checked_of_lt (by omega), except_bind_eq_ok.mpr
        ⟨_, checked_of_lt (by omega), except_bind_eq_ok.mpr ⟨(), require_eq_ok.mpr ?_, ?_⟩⟩⟩⟩⟩⟩⟩
  · simp only [List.length_append, List.length_cons]
    omega
  · rw [List.drop_take, hsplit, List.drop_left' hstart, Nat.add_sub_cancel_left,
      List.take_left' rfl]
    simp only [List.length_append, List.length_cons, pure, Except.pure, Except.ok.injEq,
      Prod.mk.injEq, true_and]
    omega

theorem derElement_zero (hfurther : element.further = [])
    (hroom : (element.encode ++ after).length < 2 ^ 63) :
    derElement (element.encode ++ after) 0 =
      .ok (element.tag, element.contents, element.encode.length) := by
  have hread : derElement ([] ++ (element.encode ++ after)) ([] : List UInt8).length = _ :=
    derElement_encode hfurther hroom
  rwa [List.nil_append, List.length_nil, Nat.zero_add] at hread

theorem derElement_last (hfurther : element.further = [])
    (hroom : (before ++ element.encode).length < 2 ^ 63) :
    derElement (before ++ element.encode) before.length =
      .ok (element.tag, element.contents, (before ++ element.encode).length) := by
  have hread : derElement (before ++ (element.encode ++ [])) before.length = _ :=
    derElement_encode hfurther (by rwa [List.append_nil])
  rwa [List.append_nil, ← List.length_append] at hread

theorem derElement_whole (hfurther : element.further = [])
    (hroom : element.encode.length < 2 ^ 63) : derElement element.encode 0 =
      .ok (element.tag, element.contents, element.encode.length) := by
  have hread : derElement ([] ++ element.encode) ([] : List UInt8).length = _ :=
    derElement_last hfurther hroom
  rwa [List.nil_append, List.length_nil] at hread

theorem forElements_nil : forElements body before before.length state = .ok state := by
  rw [forElements, if_neg (Nat.lt_irrefl _)]

theorem forElements_cons (hfurther : element.further = [])
    (hroom : (before ++ (element.encode ++ after)).length < 2 ^ 63) :
    forElements body (before ++ (element.encode ++ after)) before.length state =
      body state element.tag element.contents >>= forElements body
        (before ++ element.encode ++ after) (before ++ element.encode).length := by
  have hpos := element.lt_length_encode
  have hread := derElement_encode hfurther hroom
  rw [forElements, if_pos (by simp only [List.length_append]; omega)]
  split
  · next error herror =>
    rw [hread] at herror
    cases herror
  · next tag value next helement =>
    rw [hread] at helement
    cases helement
    rw [List.append_assoc, List.length_append]
    cases body state element.tag element.contents <;> rfl

theorem forElements_flatMap (hfurther : ∀ element ∈ elements, element.further = [])
    (hroom : (before ++ elements.flatMap Element.encode).length < 2 ^ 63) :
    forElements body (before ++ elements.flatMap Element.encode) before.length state =
      elements.foldlM (fun state element => body state element.tag element.contents) state := by
  induction elements generalizing before state with
  | nil =>
    rw [List.flatMap_nil, List.append_nil]
    exact forElements_nil
  | cons element elements ih =>
    rw [List.forall_mem_cons] at hfurther
    rw [List.flatMap_cons] at hroom ⊢
    rw [forElements_cons hfurther.1 hroom, List.foldlM_cons]
    rw [← List.append_assoc] at hroom
    exact congrArg _ (funext fun state => ih hfurther.2 hroom)

-- Names

structure IsName (element : Element) : Prop where
  further : element.further = []
  kind : element.tag = 0x82 ∨ element.tag = 0x86
  named : element.contents ≠ []
  graphic : element.contents.all isGraphic = true

def identityOf (element : Element) : String :=
  (if element.tag = 0x82 then "DNS:" else "URI:") ++
    String.ofList (element.contents.map fun byte => Char.ofNat byte.toNat)

theorem fromUtf8?_graphic {bytes : List UInt8} (h : bytes.all isGraphic = true) :
    fromUtf8? bytes = some (String.ofList (bytes.map fun byte => Char.ofNat byte.toNat)) ∧
      asBytes (String.ofList (bytes.map fun byte => Char.ofNat byte.toNat)) = bytes := by
  have hascii : ∀ byte ∈ bytes, byte < 0x80 := by
    intro byte hbyte
    have hgraphic := List.all_eq_true.mp h byte hbyte
    simp only [isGraphic, Bool.and_eq_true, decide_eq_true_eq, UInt8.le_iff_toNat_le] at hgraphic
    exact UInt8.lt_iff_toNat_lt.mpr (Nat.lt_succ_of_le (le_trans hgraphic.2 (by decide)))
  have hbytes : asBytes (String.ofList (bytes.map fun byte => Char.ofNat byte.toNat)) = bytes := by
    rw [asBytes, String.toList_ofList, ← decodeLossy_ascii hascii, encode_decodeLossy_ascii hascii]
  refine ⟨?_, hbytes⟩
  have hread := fromUtf8?_asBytes (String.ofList (bytes.map fun byte => Char.ofNat byte.toNat))
  rwa [hbytes] at hread

theorem takeName_ok_iff (hfurther : element.further = []) :
    takeName identities element.tag element.contents = .ok out ↔
      IsName element ∧ identities ++ [identityOf element] = out := by
  constructor
  · intro h
    unfold takeName at h
    split at h
    · next label text hlabel htext =>
      split_ifs at h with hrefused
      obtain rfl := Except.ok.inj h
      have hcontents := asBytes_of_fromUtf8? htext
      rw [Bool.or_eq_true, not_or, Bool.not_eq_true', Bool.not_eq_false, hcontents] at hrefused
      rw [(fromUtf8?_graphic hrefused.2).1] at htext
      obtain rfl := Option.some.inj htext
      have hnamed : element.contents ≠ [] := by
        rintro hempty
        exact hrefused.1 (by rw [hempty]; rfl)
      unfold nameLabel at hlabel
      unfold identityOf
      split_ifs at hlabel ⊢ with hdns huri
      · obtain rfl := Option.some.inj hlabel
        exact ⟨⟨hfurther, .inl hdns, hnamed, hrefused.2⟩, rfl⟩
      · obtain rfl := Option.some.inj hlabel
        exact ⟨⟨hfurther, .inr huri, hnamed, hrefused.2⟩, rfl⟩
    · cases h
  · rintro ⟨hname, rfl⟩
    obtain ⟨htext, hbytes⟩ := fromUtf8?_graphic hname.graphic
    have hlabel : nameLabel element.tag =
        some (if element.tag = 0x82 then "DNS:" else "URI:") := by
      rcases hname.kind with hdns | huri
      · rw [hdns]
        rfl
      · rw [huri]
        rfl
    have hnamed : (String.ofList (element.contents.map fun byte => Char.ofNat byte.toNat)).isEmpty =
        false := by
      rw [Bool.eq_false_iff, Ne, String.isEmpty_iff, ← String.toList_eq_nil_iff]
      simpa using hname.named
    unfold takeName
    rw [hlabel, htext]
    simp only [hbytes, hname.graphic, hnamed]
    rfl

theorem forElements_refused (hfurther : element.further ≠ []) :
    forElements takeName (before ++ (element.encode ++ after)) before.length identities ≠
      .ok out := by
  have hlabel : nameLabel element.tag = none := by
    have htag := Element.tag_of_further hfurther
    unfold nameLabel
    split_ifs with hdns huri
    · rw [hdns] at htag
      cases htag
    · rw [huri] at htag
      cases htag
    · rfl
  have hpos := element.lt_length_encode
  intro h
  rw [forElements, if_pos (by simp only [List.length_append]; omega)] at h
  split at h
  · cases h
  · next tag value next helement =>
    obtain rfl : element.tag = tag := by
      have htag := (derElement_bounds helement).1
      rw [List.getElem?_append_right le_rfl, Nat.sub_self] at htag
      exact Option.some.inj htag
    rw [takeName, hlabel] at h
    cases h

theorem forElements_names (hroom : (before ++ names.flatMap Element.encode).length < 2 ^ 63) :
    forElements takeName (before ++ names.flatMap Element.encode) before.length identities =
      .ok out ↔ (∀ name ∈ names, IsName name) ∧ identities ++ names.map identityOf = out := by
  induction names generalizing before identities with
  | nil =>
    rw [List.flatMap_nil, List.append_nil, forElements_nil]
    simp
  | cons element names ih =>
    rw [List.flatMap_cons] at hroom ⊢
    by_cases hfurther : element.further = []
    · rw [forElements_cons hfurther hroom, except_bind_eq_ok]
      rw [← List.append_assoc] at hroom
      simp only [takeName_ok_iff hfurther, ih hroom]
      simp [and_assoc]
    · refine iff_of_false (forElements_refused hfurther) fun h => hfurther ?_
      exact (h.1 element (by simp)).further

end Built

-- Extensions

inductive Extension where
  | subjectAltName (critical : Option (List UInt8)) (names : List Element)
  | other (oid : List UInt8) (different : oid ≠ subjectAltNameOid) (critical : Option (List UInt8))
    (value : List UInt8)

def sequence (contents : List UInt8) : Element := .of 0x30 contents (by decide)

theorem readSequence_sequence {contents : List UInt8}
    (hroom : (sequence contents).encode.length < 2 ^ 63) :
    readSequence (sequence contents).encode = .ok contents :=
  except_bind_eq_ok.mpr ⟨_, derElement_whole rfl hroom,
    except_bind_eq_ok.mpr ⟨(), require_eq_ok.mpr ⟨rfl, rfl⟩, rfl⟩⟩

namespace Extension

def names? : Extension → Option (List Element)
  | subjectAltName _ names => some names
  | other .. => none

def oid : Extension → List UInt8
  | subjectAltName .. => subjectAltNameOid
  | other oid _ _ _ => oid

def critical : Extension → Option (List UInt8)
  | subjectAltName critical _ => critical
  | other _ _ critical _ => critical

def value : Extension → List UInt8
  | subjectAltName _ names => (sequence (names.flatMap Element.encode)).encode
  | other _ _ _ value => value

def flagged (critical : Option (List UInt8)) (value : Element) : List UInt8 :=
  match critical with
  | none => value.encode
  | some flag => (Element.of 0x01 flag (by decide)).encode ++ value.encode

def element (extension : Extension) : Element :=
  sequence ((Element.of 0x06 extension.oid (by decide)).encode ++
    flagged extension.critical (.of 0x04 extension.value (by decide)))

end Extension

section Extensions

variable {oid value : List UInt8} {critical san found : Option (List UInt8)}
  {extension : Extension} {extensions : List Extension}

theorem readExtension_encode
    (hroom : ((Element.of 0x06 oid (by decide)).encode ++
      Extension.flagged critical (.of 0x04 value (by decide))).length < 2 ^ 63) :
    readExtension ((Element.of 0x06 oid (by decide)).encode ++
      Extension.flagged critical (.of 0x04 value (by decide))) = .ok (oid, value) := by
  refine except_bind_eq_ok.mpr ⟨_, derElement_zero rfl hroom,
    except_bind_eq_ok.mpr ⟨(), require_eq_ok.mpr rfl, ?_⟩⟩
  unfold Extension.flagged at hroom ⊢
  cases critical with
  | none =>
    refine except_bind_eq_ok.mpr ⟨_, derElement_last rfl hroom, except_bind_eq_ok.mpr
      ⟨_, if_neg (show ¬ (0x04 : UInt8) = 0x01 by decide), ?_⟩⟩
    exact except_bind_eq_ok.mpr ⟨(), require_eq_ok.mpr ⟨rfl, rfl⟩, rfl⟩
  | some flag =>
    refine except_bind_eq_ok.mpr ⟨_, derElement_encode rfl hroom, ?_⟩
    rw [← List.append_assoc] at hroom
    rw [← List.append_assoc, ← List.length_append]
    refine except_bind_eq_ok.mpr ⟨_, (if_pos rfl).trans (derElement_last rfl hroom), ?_⟩
    exact except_bind_eq_ok.mpr ⟨(), require_eq_ok.mpr ⟨rfl, rfl⟩, rfl⟩

def Extension.found? (extension : Extension) : Option (List UInt8) :=
  extension.names?.map fun names => (sequence (names.flatMap Element.encode)).encode

theorem toList_inj {α : Type} {a b : Option α} : a.toList = b.toList ↔ a = b := by
  cases a <;> cases b <;> simp

theorem takeExtension_element (hroom : extension.element.contents.length < 2 ^ 63) :
    takeExtension san extension.element.tag extension.element.contents = .ok found ↔
      san.toList ++ extension.found?.toList = found.toList := by
  have hread : readExtension extension.element.contents = .ok (extension.oid, extension.value) :=
    readExtension_encode hroom
  rw [takeExtension, except_bind_eq_ok]
  simp only [require_eq_ok, hread, exists_const]
  rw [and_iff_right (show extension.element.tag = 0x30 from rfl)]
  change replaceSan san extension.oid extension.value = .ok found ↔ _
  unfold replaceSan
  cases extension with
  | subjectAltName critical names =>
    simp only [Extension.oid, Extension.value, Extension.found?, Extension.names?, Option.map_some]
    cases san <;> cases found <;> simp
  | other oid different critical value =>
    simp only [Extension.oid, Extension.found?, Extension.names?, different, false_and, if_false,
      Option.map_none, Option.toList_none, List.append_nil, Except.ok.injEq, toList_inj]

theorem exists_toList {α : Type} {found : Option α} {xs ys : List α}
    (h : xs ++ ys = found.toList) : ∃ first : Option α, first.toList = xs := by
  cases found with
  | none => exact ⟨none, (List.append_eq_nil_iff.mp h).1.symm⟩
  | some a =>
    rcases List.append_eq_singleton_iff.mp h with ⟨rfl, -⟩ | ⟨rfl, -⟩
    · exact ⟨none, rfl⟩
    · exact ⟨some a, rfl⟩

theorem foldlM_takeExtension
    (hroom : ∀ extension ∈ extensions, extension.element.contents.length < 2 ^ 63) :
    (extensions.map Extension.element).foldlM
      (fun san element => takeExtension san element.tag element.contents) san = .ok found ↔
      san.toList ++ extensions.filterMap Extension.found? = found.toList := by
  induction extensions generalizing san with
  | nil =>
    rw [List.filterMap_nil, List.append_nil, toList_inj]
    exact Eq.to_iff (Except.ok.injEq san found)
  | cons extension extensions ih =>
    rw [List.forall_mem_cons] at hroom
    rw [List.map_cons, List.foldlM_cons, except_bind_eq_ok]
    simp only [takeExtension_element hroom.1, ih hroom.2]
    have hcons : (extension :: extensions).filterMap Extension.found? =
        extension.found?.toList ++ extensions.filterMap Extension.found? := by
      rw [List.filterMap_cons]
      cases extension.found? <;> rfl
    rw [hcons, ← List.append_assoc]
    constructor
    · rintro ⟨next, hnext, hrest⟩
      rw [hnext, hrest]
    · intro h
      obtain ⟨next, hnext⟩ := exists_toList h
      exact ⟨next, hnext.symm, by rw [hnext, h]⟩

end Extensions

-- Identities

/-- What a certificate is made of: the signed part with at most one list of extensions, and what
comes after it. -/
structure Certificate where
  before : List Element
  extensions : Option (List Extension)
  later : List Element
  distinct : ∀ element ∈ before ++ later, element.tag ≠ 0xa3
  rest : List UInt8

namespace Certificate

def extensionsField (extensions : List Extension) : Element :=
  .of 0xa3 (sequence ((extensions.map Extension.element).flatMap Element.encode)).encode (by decide)

def fields (certificate : Certificate) : List Element :=
  certificate.before ++ ((certificate.extensions.map extensionsField).toList ++ certificate.later)

def encode (certificate : Certificate) : List UInt8 :=
  (sequence ((sequence (certificate.fields.flatMap Element.encode)).encode ++
    certificate.rest)).encode

def subjectAltNames (certificate : Certificate) : List (List Element) :=
  (certificate.extensions.getD []).filterMap Extension.names?

end Certificate

section Identities

variable {certificate : Certificate} {elements names : List Element} {element : Element}
  {extensions : List Extension} {san found : Option (List UInt8)} {identities : List String}
  {bytes : List UInt8} {allowed : BTreeSet String} {identity : String}

theorem length_contents_lt (h : element.encode.length < 2 ^ 63) :
    element.contents.length < 2 ^ 63 := by
  have hlt := element.lt_length_encode
  omega

theorem length_encode_le (h : element ∈ elements) :
    element.encode.length ≤ (elements.flatMap Element.encode).length := by
  obtain ⟨before, after, rfl⟩ := List.append_of_mem h
  simp only [List.flatMap_append, List.flatMap_cons, List.length_append]
  omega

theorem foldlM_takeField (h : ∀ element ∈ elements, element.tag ≠ 0xa3) :
    elements.foldlM (fun san element => takeField san element.tag element.contents) san =
      .ok san := by
  induction elements with
  | nil => rfl
  | cons element elements ih =>
    rw [List.forall_mem_cons] at h
    rw [List.foldlM_cons, takeField, if_neg h.1]
    exact ih h.2

theorem takeField_extensions
    (hroom : (Certificate.extensionsField extensions).encode.length < 2 ^ 63) :
    takeField san (Certificate.extensionsField extensions).tag
      (Certificate.extensionsField extensions).contents = .ok found ↔
        san.toList ++ extensions.filterMap Extension.found? = found.toList := by
  have hsequence := length_contents_lt hroom
  have hlist : ((extensions.map Extension.element).flatMap Element.encode).length < 2 ^ 63 :=
    length_contents_lt hsequence
  have hloop : forElements takeExtension ([] ++ (extensions.map Extension.element).flatMap
      Element.encode) ([] : List UInt8).length san = _ :=
    forElements_flatMap (by simp [Extension.element, sequence]) hlist
  rw [← foldlM_takeExtension fun extension hextension => length_contents_lt
    ((length_encode_le (List.mem_map_of_mem hextension)).trans_lt hlist), ← hloop]
  have hread : readSequence (Certificate.extensionsField extensions).contents =
    .ok ((extensions.map Extension.element).flatMap Element.encode) :=
      readSequence_sequence hsequence
  rw [takeField, if_pos (show (Certificate.extensionsField extensions).tag = 0xa3 from rfl), hread]
  exact Iff.rfl

theorem foldlM_fields (hroom : (certificate.fields.flatMap Element.encode).length < 2 ^ 63) :
    certificate.fields.foldlM (fun san element => takeField san element.tag element.contents) none =
      .ok found ↔ (certificate.extensions.getD []).filterMap Extension.found? = found.toList := by
  have hbefore : certificate.before.foldlM
      (fun san element => takeField san element.tag element.contents) none = .ok none :=
    foldlM_takeField fun element helement =>
      certificate.distinct element (List.mem_append_left _ helement)
  have hlater : ∀ san, certificate.later.foldlM
      (fun san element => takeField san element.tag element.contents) san = .ok san := fun san =>
    foldlM_takeField fun element helement =>
      certificate.distinct element (List.mem_append_right _ helement)
  unfold Certificate.fields at hroom ⊢
  rw [List.foldlM_append, except_bind_eq_ok]
  simp only [hbefore, Except.ok.injEq, exists_eq_left']
  rw [List.foldlM_append, except_bind_eq_ok]
  simp only [hlater, Except.ok.injEq, exists_eq_right]
  cases hextensions : certificate.extensions with
  | none =>
    rw [Option.getD_none, List.filterMap_nil, ← Option.toList_none, toList_inj]
    exact Eq.to_iff (Except.ok.injEq none found)
  | some extensions =>
    rw [Option.map_some, Option.toList_some, List.foldlM_cons, except_bind_eq_ok]
    simp only [List.foldlM_nil, pure, Except.pure, Except.ok.injEq, exists_eq_right]
    refine takeField_extensions ((length_encode_le ?_).trans_lt hroom)
    rw [hextensions]
    simp

/-- **A certificate is read as it was written.** -/
theorem certificateSubjectAltNames_encode
    (hfurther : ∀ element ∈ certificate.before ++ certificate.later, element.further = [])
    (hroom : certificate.encode.length < 2 ^ 63) :
    certificateSubjectAltNames certificate.encode = .ok identities ↔
      ∃ names, certificate.subjectAltNames = [names] ∧ (∀ name ∈ names, IsName name) ∧
        names.map identityOf = identities := by
  have hsigned : ((sequence (certificate.fields.flatMap Element.encode)).encode ++
      certificate.rest).length < 2 ^ 63 := length_contents_lt hroom
  have htbs : (certificate.fields.flatMap Element.encode).length < 2 ^ 63 := by
    have hlt := (sequence (certificate.fields.flatMap Element.encode)).lt_length_encode
    rw [List.length_append] at hsigned
    exact (Nat.lt_of_succ_lt hlt).trans (by omega)
  have hfields : ∀ element ∈ certificate.fields, element.further = [] := by
    intro element helement
    simp only [Certificate.fields, List.mem_append, Option.mem_toList, Option.map_eq_some_iff]
      at helement hfurther
    rcases helement with hbefore | ⟨extensions, -, rfl⟩ | hlater
    · exact hfurther element (.inl hbefore)
    · rfl
    · exact hfurther element (.inr hlater)
  have hloop : forElements takeField ([] ++ certificate.fields.flatMap Element.encode)
      ([] : List UInt8).length none = _ := forElements_flatMap hfields htbs
  have hheld : Returns Held (forElements takeField (certificate.fields.flatMap Element.encode) 0
      none) := returns_forElements htbs (fun _ _ _ hsan hroom => returns_takeField hsan hroom)
    held_none
  have hvalues : (certificate.extensions.getD []).filterMap Extension.found? =
      certificate.subjectAltNames.map fun names =>
        (sequence (names.flatMap Element.encode)).encode := List.map_filterMap.symm
  have hparse : certificateSubjectAltNames certificate.encode =
      forElements takeField (certificate.fields.flatMap Element.encode) 0 none >>= fun found =>
        match found with
        | none => .error .malformed
        | some san => readSequence san >>= fun names => forElements takeName names 0 [] := by
    rw [certificateSubjectAltNames, Certificate.encode, readSequence_sequence hroom]
    change (derElement ((sequence _).encode ++ _) 0 >>= _) = _
    rw [derElement_zero rfl hsigned]
    rfl
  have hread : ∀ names : List Element,
      Held (some (sequence (names.flatMap Element.encode)).encode) →
      ((readSequence (sequence (names.flatMap Element.encode)).encode >>= fun names =>
        forElements takeName names 0 []) = .ok identities ↔
          (∀ name ∈ names, IsName name) ∧ names.map identityOf = identities) := by
    intro names hheld
    have hlt := hheld _ rfl
    have hloop : forElements takeName ([] ++ names.flatMap Element.encode) ([] : List UInt8).length
      [] = .ok identities ↔ _ := forElements_names (length_contents_lt hlt)
    rw [readSequence_sequence hlt]
    exact hloop
  rw [hparse, except_bind_eq_ok]
  constructor
  · rintro ⟨found, hfound, hnames⟩
    rw [hfound] at hheld
    rw [List.nil_append, List.length_nil, hfound] at hloop
    have hsan := hvalues.symm.trans ((foldlM_fields htbs).mp hloop.symm)
    cases found with
    | none => cases hnames
    | some san =>
      obtain ⟨names, hsingle, rfl⟩ := List.map_eq_singleton_iff.mp hsan
      exact ⟨names, hsingle, (hread names hheld).mp hnames⟩
  · rintro ⟨names, hsingle, hnames⟩
    rw [hsingle] at hvalues
    have hfound := hloop.trans
      ((foldlM_fields htbs).mpr (hvalues.trans (Option.toList_some _).symm))
    rw [List.nil_append, List.length_nil] at hfound
    rw [hfound] at hheld
    exact ⟨_, hfound, (hread names hheld).mpr hnames⟩

theorem matchingCertificateIdentity_iff :
    matchingCertificateIdentity bytes allowed = some identity ↔
      certificateSubjectAltNames bytes = .ok [identity] ∧ identity ∈ allowed := by
  unfold matchingCertificateIdentity
  split
  · next found hfound =>
    split_ifs with hallowed
    · rw [hfound]
      constructor
      · intro heq
        cases heq
        exact ⟨rfl, hallowed⟩
      · rintro ⟨heq, -⟩
        cases heq
        rfl
    · refine iff_of_false (by simp) ?_
      rintro ⟨heq, hmem⟩
      rw [hfound] at heq
      cases heq
      exact hallowed hmem
  · next hother => exact iff_of_false (by simp) fun h => hother identity h.1

end Identities

/-- **Parsing undoes the encoding** of certificates whose fields have identifiers of one octet; of
any octets the reader returns, and its elements lie within. -/
theorem peer_identity :
    (∀ certificate : Certificate,
      (∀ element ∈ certificate.before ++ certificate.later, element.further = []) →
        certificate.encode.length < 2 ^ 63 → ∀ identities,
          (certificateSubjectAltNames certificate.encode = .ok identities ↔
            ∃ names, certificate.subjectAltNames = [names] ∧ (∀ name ∈ names, IsName name) ∧
              names.map identityOf = identities)) ∧
    (∀ bytes, bytes.length < 2 ^ 63 → certificateSubjectAltNames bytes ≠ .error .panicked) ∧
    ∀ input offset tag value next, derElement input offset = .ok (tag, value, next) →
      ∃ start, offset < start ∧ start ≤ next ∧ next ≤ input.length ∧
        value = (input.take next).drop start := by
  refine ⟨fun certificate hfurther hroom identities =>
    certificateSubjectAltNames_encode hfurther hroom, fun bytes hroom hpanic => ?_,
    fun input offset tag value next h => ?_⟩
  · have hreturns := returns_certificateSubjectAltNames hroom
    rw [hpanic] at hreturns
    cases hreturns
  · obtain ⟨-, start, hstart, hle, hnext, hvalue⟩ := derElement_bounds h
    exact ⟨start, Nat.lt_of_succ_lt hstart, hle, hnext, hvalue⟩

section Sample

def sampleName : Element := .of 0x82 [0x61] (by decide)

theorem isName_sampleName : IsName sampleName :=
  ⟨rfl, .inl rfl, by simp [sampleName], by decide⟩

def sampleNumbered : Element where
  tag := 0xbf
  further := [0x1f]
  contents := []
  formed := by
    rw [if_pos (by decide)]
    refine ⟨by decide, by decide, by simp, by simp, fun octet h => ?_⟩
    cases h
    decide

def sampleCertificate (before : List Element) (distinct : ∀ element ∈ before, element.tag ≠ 0xa3) :
    Certificate where
  before
  extensions := some [.subjectAltName none [sampleName]]
  later := []
  distinct := by rwa [List.append_nil]
  rest := []

theorem peer_identity_sample :
    certificateSubjectAltNames (sampleCertificate [] (by simp)).encode = .ok ["DNS:a"] :=
  (peer_identity.1 (sampleCertificate [] (by simp)) (by simp [sampleCertificate]) (by decide)
    ["DNS:a"]).mpr ⟨[sampleName], rfl, List.forall_mem_singleton.mpr isName_sampleName, by decide⟩

/-- An identifier of two octets is read as one octet and a length. -/
theorem numbered_unread :
    ¬ ∀ certificate : Certificate, certificate.encode.length < 2 ^ 63 → ∀ identities,
      (certificateSubjectAltNames certificate.encode = .ok identities ↔
        ∃ names, certificate.subjectAltNames = [names] ∧ (∀ name ∈ names, IsName name) ∧
          names.map identityOf = identities) := by
  intro h
  have hread := (h (sampleCertificate [sampleNumbered] (by decide)) (by decide) ["DNS:a"]).mpr
    ⟨[sampleName], rfl, List.forall_mem_singleton.mpr isName_sampleName, by decide⟩
  obtain ⟨outer, houter, hsigned⟩ := except_bind_eq_ok.mp hread
  cases (readSequence_sequence (by decide)).symm.trans houter
  obtain ⟨tbs, htbs, hfields⟩ := except_bind_eq_ok.mp hsigned
  cases (derElement_zero rfl (by decide)).symm.trans htbs
  obtain ⟨-, -, hloop⟩ := except_bind_eq_ok.mp hfields
  obtain ⟨found, hfound, -⟩ := except_bind_eq_ok.mp hloop
  have herror : derElement ((sampleCertificate [sampleNumbered] (by decide)).fields.flatMap
      Element.encode) 0 = .error .malformed := rfl
  rw [forElements, if_pos (by decide)] at hfound
  split at hfound
  · cases hfound
  · next tag value next helement => cases herror.symm.trans helement

end Sample

end AgentSphere.ToolProxy
