import OpaqueVx.CipherSuite

/-! # The key exchange interface

  The parts of a login that a key exchange sees (the serialized request,
  response, context and identifiers), and the interface every key exchange
  implements. -/

namespace OpaqueVx

open Lib

/-! ### Credential request and response -/

/-- `SerializedCredentialRequest`: the blinded element. -/
@[ext] structure SerializedCredentialRequest (CS : CipherSuite) where
  blindedElement : GenericArray CS.OprfCs.ElemLen
  deriving DecidableEq

namespace SerializedCredentialRequest

variable {CS : CipherSuite}

def new (blindedElement : CS.OprfCs.Elem) : SerializedCredentialRequest CS :=
  ⟨CS.OprfCs.serializeElem blindedElement⟩

def iter (r : SerializedCredentialRequest CS) : List Bytes := [r.blindedElement.bytes]

def serialize (r : SerializedCredentialRequest CS) : GenericArray CS.OprfCs.ElemLen :=
  r.blindedElement

def deserializeTake : Reader Error (SerializedCredentialRequest CS) := do
  let blindedElement ← takeArray CS.OprfCs.ElemLen "blinded element"
  return { blindedElement }

variable (CS) in
def codec : Codec Error (SerializedCredentialRequest CS) :=
  ⟨CS.OprfCs.ElemLen, serialize, deserializeTake⟩

theorem codec_lawful : (codec CS).Lawful := by
  have hsame : (codec CS).Same ((arrayCodec CS.OprfCs.ElemLen "blinded element").imap
      mk blindedElement) :=
    ⟨rfl, fun _ => rfl, by simp [codec, deserializeTake, arrayCodec, Codec.imap]⟩
  exact hsame.lawful ((arrayCodec_lawful _ _).imap (fun _ => rfl) fun _ => rfl)

end SerializedCredentialRequest

/-- `SerializedCredentialResponse`. -/
@[ext] structure SerializedCredentialResponse (CS : CipherSuite) where
  evaluationElement : GenericArray CS.OprfCs.ElemLen
  maskingNonce : GenericArray nonceLen
  maskedResponse : MaskedResponse CS
  deriving DecidableEq

namespace SerializedCredentialResponse

variable {CS : CipherSuite}

def new (evaluationElement : CS.OprfCs.Elem) (maskingNonce : GenericArray nonceLen)
    (maskedResponse : MaskedResponse CS) : SerializedCredentialResponse CS :=
  ⟨CS.OprfCs.serializeElem evaluationElement, maskingNonce, maskedResponse⟩

def iter (r : SerializedCredentialResponse CS) : List Bytes :=
  [r.evaluationElement.bytes, r.maskingNonce.bytes] ++ r.maskedResponse.iter

def serialize (r : SerializedCredentialResponse CS) :
    GenericArray (CS.OprfCs.ElemLen + nonceLen + CS.MaskedResponseLen) :=
  (r.evaluationElement.cat r.maskingNonce).cat r.maskedResponse.serialize

def deserializeTake : Reader Error (SerializedCredentialResponse CS) := do
  let evaluationElement ← takeArray CS.OprfCs.ElemLen "evaluation element"
  let maskingNonce ← takeArray nonceLen "masking nonce"
  let maskedResponse ← MaskedResponse.deserializeTake
  return { evaluationElement, maskingNonce, maskedResponse }

variable (CS) in
def codec : Codec Error (SerializedCredentialResponse CS) :=
  ⟨CS.OprfCs.ElemLen + nonceLen + CS.MaskedResponseLen, serialize, deserializeTake⟩

theorem codec_lawful : (codec CS).Lawful := by
  have hsame : (codec CS).Same ((((arrayCodec CS.OprfCs.ElemLen "evaluation element").both
      (arrayCodec nonceLen "masking nonce")).both (MaskedResponse.codec CS)).imap
      (fun p => ⟨p.1.1, p.1.2, p.2⟩)
      (fun r => ((r.evaluationElement, r.maskingNonce), r.maskedResponse))) :=
    ⟨rfl, fun _ => rfl, by
      simp [codec, deserializeTake, arrayCodec, MaskedResponse.codec, Codec.both, Codec.imap]⟩
  apply hsame.lawful
  apply Codec.Lawful.imap
  · exact ((arrayCodec_lawful _ _).both (arrayCodec_lawful _ _)).both MaskedResponse.codec_lawful
  · intro r
    rfl
  · intro p
    rfl

theorem flatten_iter (r : SerializedCredentialResponse CS) :
    r.iter.flatten = r.serialize.bytes := by
  simp [iter, serialize, MaskedResponse.flatten_iter]

end SerializedCredentialResponse

/-! ### Context and identifiers

  Each carries the proof that its length field is the encoding of its length,
  so the length always fits in two bytes. -/

/-- `STR_CONTEXT`. -/
def strContext : Bytes := ascii "OPAQUEv1-"

/-- A two-byte length field in front of `bytes`. -/
def LengthField (length : GenericArray 2) (bytes : Bytes) : Prop :=
  i2osp 2 bytes.length = .ok length

namespace LengthField

theorem iff {length : GenericArray 2} {bytes : Bytes} :
    LengthField length bytes ↔
      bytes.length < 256 ^ 2 ∧ length.bytes = beBytes 2 bytes.length :=
  i2osp_eq_ok (by decide)

/-- The length field makes the string self-delimiting. -/
theorem append_inj {l l' : GenericArray 2} {a b x y : Bytes} (ha : LengthField l a)
    (hb : LengthField l' b) (h : l.bytes ++ (a ++ x) = l'.bytes ++ (b ++ y)) :
    a = b ∧ x = y := by
  obtain ⟨ha, hla⟩ := LengthField.iff.mp ha
  obtain ⟨hb, hlb⟩ := LengthField.iff.mp hb
  rw [hla, hlb] at h
  exact lengthPrefix_inj ha hb h

theorem unique {l l' : GenericArray 2} {a : Bytes} (h : LengthField l a)
    (h' : LengthField l' a) : l = l' := by
  unfold LengthField at h h'
  rw [h] at h'
  injection h'

end LengthField

/-- `i2osp::<U2>(bytes.len())`, with the proof of what it computed. -/
def lengthField (bytes : Bytes) :
    Outcome Error { length : GenericArray 2 // LengthField length bytes } :=
  match h : i2osp 2 bytes.length with
  | .ok length => .ok ⟨length, h⟩
  | .err e => .err e
  | .panicked => .panicked

/-- The length that is right is the one that is computed. -/
theorem lengthField_ok {bytes : Bytes} {length : GenericArray 2}
    (h : LengthField length bytes) : lengthField bytes = .ok ⟨length, h⟩ := by
  unfold lengthField
  split
  · rename_i l hl
    obtain rfl := hl.symm.trans h |> Outcome.ok.inj
    rfl
  · rename_i e he
    cases he.symm.trans h
  · rename_i he
    cases he.symm.trans h

/-- A length that does not fit in two bytes is refused. -/
theorem lengthField_long {bytes : Bytes} (h : 256 ^ 2 ≤ bytes.length) :
    lengthField bytes = .err .serializationError := by
  have hlen : i2osp 2 bytes.length = .err .serializationError :=
    i2ospWord_err (by omega) (Or.inr (by decide))
  unfold lengthField
  split
  · rename_i l hl
    cases hl.symm.trans hlen
  · rename_i e he
    obtain rfl := he.symm.trans hlen |> Outcome.err.inj
    rfl
  · rename_i he
    cases he.symm.trans hlen

theorem lengthField_short {bytes : Bytes} (h : bytes.length < 256 ^ 2) :
    LengthField ⟨beBytes 2 bytes.length, length_beBytes 2 _⟩ bytes :=
  LengthField.iff.mpr ⟨h, rfl⟩

/-- `SerializedContext`. -/
structure SerializedContext where
  length : GenericArray 2
  context : Bytes
  lengthField : LengthField length context

namespace SerializedContext

/-- `SerializedContext::from`. -/
def fromContext (context : Option Bytes) : Outcome Error SerializedContext := do
  let context := context.getD []
  let length ← OpaqueVx.lengthField context
  return ⟨length.val, context, length.property⟩

def iter (c : SerializedContext) : List Bytes := [strContext, c.length.bytes, c.context]

/-- A context is determined by its bytes. -/
theorem ext_context {c d : SerializedContext} (h : c.context = d.context) : c = d := by
  cases c with
  | mk l b hl =>
    cases d with
    | mk l' b' hl' =>
      simp only at h
      subst h
      obtain rfl := hl.unique hl'
      rfl

theorem fromContext_of_eq {context : Option Bytes} {c : SerializedContext}
    (h : context.getD [] = c.context) : fromContext context = .ok c := by
  cases c with
  | mk l b hl =>
    simp only at h
    subst h
    simp [fromContext, lengthField_ok hl]

/-- The context that is made is the one that was given, or the empty one. -/
theorem fromContext_eq_ok {context : Option Bytes} {c : SerializedContext} :
    fromContext context = .ok c ↔ context.getD [] = c.context := by
  constructor
  · intro h
    obtain ⟨length, -, h⟩ := Outcome.bind_eq_ok.mp h
    injection h with h
    rw [← h]
  · exact fromContext_of_eq

/-- A context whose length fits in two bytes is accepted. -/
theorem fromContext_short {context : Option Bytes} (h : (context.getD []).length < 256 ^ 2) :
    ∃ c, fromContext context = .ok c ∧ c.context = context.getD [] :=
  ⟨⟨_, _, lengthField_short h⟩, fromContext_of_eq rfl, rfl⟩

/-- A longer one is refused. -/
theorem fromContext_long {context : Option Bytes} (h : 256 ^ 2 ≤ (context.getD []).length) :
    fromContext context = .err .serializationError := by
  unfold fromContext
  simp only [lengthField_long h, Outcome.err_bind]

/-- A context and what follows it can be told apart. -/
theorem iter_inj {c d : SerializedContext} {x y : Bytes}
    (h : c.iter.flatten ++ x = d.iter.flatten ++ y) : c.context = d.context ∧ x = y := by
  simp only [iter, List.flatten_cons, List.flatten_nil, List.append_nil, List.append_assoc,
    List.append_cancel_left_eq] at h
  exact c.lengthField.append_inj d.lengthField h

end SerializedContext

/-- `Identifier`: the static public key or the application's own name. -/
inductive Identifier (G : Group) where
  | owned (bytes : GenericArray G.PkLen)
  | borrowed (bytes : Bytes)
  deriving DecidableEq

def Identifier.bytes {G : Group} : Identifier G → Bytes
  | .owned bytes => bytes.bytes
  | .borrowed bytes => bytes

/-- The identifier a party goes by: the name supplied, else its static public
    key. -/
def Identifier.ofOption {G : Group} (id : Option Bytes) (sPk : GenericArray G.PkLen) :
    Identifier G :=
  match id with
  | some id => .borrowed id
  | none => .owned sPk

@[simp] theorem Identifier.bytes_ofOption {G : Group} (id : Option Bytes)
    (sPk : GenericArray G.PkLen) : (ofOption id sPk).bytes = id.getD sPk.bytes := by
  cases id <;> rfl

/-- `SerializedIdentifier`. -/
structure SerializedIdentifier (G : Group) where
  length : GenericArray 2
  identifier : Identifier G
  lengthField : LengthField length identifier.bytes

namespace SerializedIdentifier

variable {G : Group}

/-- `SerializedIdentifier::from_identifier`. -/
def fromIdentifier (id : Option Bytes) (sPk : GenericArray G.PkLen) :
    Outcome Error (SerializedIdentifier G) :=
  match id with
  | some id => do
    let length ← OpaqueVx.lengthField id
    return ⟨length.val, .borrowed id, length.property⟩
  | none => do
    let length ← OpaqueVx.lengthField sPk.bytes
    return ⟨length.val, .owned sPk, length.property⟩

/-- The bytes the identifier stands for. -/
def bytes (i : SerializedIdentifier G) : Bytes := i.identifier.bytes

def iter (i : SerializedIdentifier G) : List Bytes := [i.length.bytes, i.bytes]

theorem bytes_lt (i : SerializedIdentifier G) : i.bytes.length < 256 ^ 2 :=
  (LengthField.iff.mp i.lengthField).1

theorem ext_identifier {i j : SerializedIdentifier G} (h : i.identifier = j.identifier) :
    i = j := by
  cases i with
  | mk l b hl =>
    cases j with
    | mk l' b' hl' =>
      simp only at h
      subst h
      obtain rfl := hl.unique hl'
      rfl

/-- The identifier that is made is the one that was given, or the public key. -/
theorem fromIdentifier_eq_ok {id : Option Bytes} {sPk : GenericArray G.PkLen}
    {i : SerializedIdentifier G} :
    fromIdentifier id sPk = .ok i ↔ i.identifier = .ofOption id sPk := by
  constructor
  · intro h
    -- The source has a branch for each case; both compute the length in the same way.
    cases id with
    | some id =>
      obtain ⟨length, -, h⟩ := Outcome.bind_eq_ok.mp h
      injection h with h
      rw [← h]
      rfl
    | none =>
      obtain ⟨length, -, h⟩ := Outcome.bind_eq_ok.mp h
      injection h with h
      rw [← h]
      rfl
  · intro h
    cases i with
    | mk l b hl =>
      simp only at h
      subst h
      cases id with
      | some id =>
        have hok : OpaqueVx.lengthField id = .ok ⟨l, hl⟩ := lengthField_ok hl
        simp [fromIdentifier, hok, Identifier.ofOption]
      | none =>
        have hok : OpaqueVx.lengthField sPk.bytes = .ok ⟨l, hl⟩ := lengthField_ok hl
        simp [fromIdentifier, hok, Identifier.ofOption]

theorem fromIdentifier_short {id : Option Bytes} {sPk : GenericArray G.PkLen}
    (h : (id.getD sPk.bytes).length < 256 ^ 2) : ∃ i, fromIdentifier id sPk = .ok i :=
  ⟨⟨_, .ofOption id sPk, lengthField_short (by simpa using h)⟩, fromIdentifier_eq_ok.mpr rfl⟩

theorem fromIdentifier_long {id : Option Bytes} {sPk : GenericArray G.PkLen}
    (h : 256 ^ 2 ≤ (id.getD sPk.bytes).length) :
    fromIdentifier id sPk = .err .serializationError := by
  cases id with
  | some id =>
    have hid : 256 ^ 2 ≤ id.length := h
    simp [fromIdentifier, lengthField_long hid]
  | none =>
    have hpk : 256 ^ 2 ≤ sPk.bytes.length := h
    simp only [fromIdentifier, lengthField_long hpk, Outcome.err_bind]

/-- Identifiers are encoded by their bytes. -/
theorem iter_congr {i j : SerializedIdentifier G} (h : i.bytes = j.bytes) : i.iter = j.iter := by
  have hlen : i.length = j.length := by
    have hj : LengthField j.length i.bytes := by
      rw [h]
      exact j.lengthField
    exact LengthField.unique i.lengthField hj
  rw [iter, iter, h, hlen]

/-- An identifier and what follows it can be told apart. -/
theorem iter_inj {i j : SerializedIdentifier G} {x y : Bytes}
    (h : i.iter.flatten ++ x = j.iter.flatten ++ y) : i.bytes = j.bytes ∧ x = y := by
  simp only [iter, List.flatten_cons, List.flatten_nil, List.append_nil, List.append_assoc] at h
  exact i.lengthField.append_inj j.lengthField h

end SerializedIdentifier

/-- `SerializedIdentifiers`. -/
structure SerializedIdentifiers (G : Group) where
  client : SerializedIdentifier G
  server : SerializedIdentifier G

namespace SerializedIdentifiers

variable {G : Group}

/-- `SerializedIdentifiers::from_identifiers`. -/
def fromIdentifiers (ids : Identifiers) (clientSPk serverSPk : GenericArray G.PkLen) :
    Outcome Error (SerializedIdentifiers G) := do
  let client ← SerializedIdentifier.fromIdentifier ids.client clientSPk
  let server ← SerializedIdentifier.fromIdentifier ids.server serverSPk
  return { client, server }

/-- Each party has its own identifier, or its public key. -/
theorem fromIdentifiers_eq_ok {ids : Identifiers} {clientSPk serverSPk : GenericArray G.PkLen}
    {i : SerializedIdentifiers G} :
    fromIdentifiers ids clientSPk serverSPk = .ok i ↔
      i.client.identifier = .ofOption ids.client clientSPk ∧
        i.server.identifier = .ofOption ids.server serverSPk := by
  constructor
  · intro h
    obtain ⟨client, hc, h⟩ := Outcome.bind_eq_ok.mp h
    obtain ⟨server, hs, h⟩ := Outcome.bind_eq_ok.mp h
    injection h with h
    subst h
    exact ⟨SerializedIdentifier.fromIdentifier_eq_ok.mp hc,
      SerializedIdentifier.fromIdentifier_eq_ok.mp hs⟩
  · rintro ⟨hc, hs⟩
    simp [fromIdentifiers, SerializedIdentifier.fromIdentifier_eq_ok.mpr hc,
      SerializedIdentifier.fromIdentifier_eq_ok.mpr hs]

theorem fromIdentifiers_short {ids : Identifiers} {clientSPk serverSPk : GenericArray G.PkLen}
    (hc : (ids.client.getD clientSPk.bytes).length < 256 ^ 2)
    (hs : (ids.server.getD serverSPk.bytes).length < 256 ^ 2) :
    ∃ i, fromIdentifiers ids clientSPk serverSPk = .ok i := by
  obtain ⟨client, hclient⟩ := SerializedIdentifier.fromIdentifier_short hc
  obtain ⟨server, hserver⟩ := SerializedIdentifier.fromIdentifier_short hs
  exact ⟨⟨client, server⟩, by simp [fromIdentifiers, hclient, hserver]⟩

end SerializedIdentifiers

/-! ### The interface -/

/-- What a client keeps and sends. -/
structure GenerateKe1Result (State Message : Type) where
  state : State
  message : Message

/-- What a server keeps and sends. -/
structure GenerateKe2Result (State Message : Type) where
  state : State
  message : Message

/-- The key of the session, and what a client sends to confirm it. -/
structure GenerateKe3Result (H : Hash) (Message : Type) where
  sessionKey : Output H
  message : Message

/-- `KeyExchange`, at a cipher suite whose group and hash are its own. The codecs
    are the `Serialize` and `Deserialize` implementations of its types. -/
structure KeyExchange (CS : CipherSuite) where
  KE1State : Type
  KE2State : Type
  KE1Message : Type
  KE2Builder : Type
  KE2BuilderData : Type
  KE2BuilderInput : Type
  KE2Message : Type
  KE3Message : Type
  /-- Client generates its first message and its state. -/
  generateKe1 : RngM Error (GenerateKe1Result KE1State KE1Message)
  /-- Server generates the builder. -/
  ke2Builder : SerializedCredentialRequest CS → KE1Message → SerializedCredentialResponse CS →
    PublicKey CS.KeGroup → SerializedIdentifiers CS.KeGroup → SerializedContext →
    RngM Error KE2Builder
  /-- Server returns the data for the remote key interaction. -/
  ke2BuilderData : KE2Builder → KE2BuilderData
  /-- Server generates the input without a remote key. -/
  generateKe2Input : KE2Builder → PrivateKey CS.KeGroup → RngM Error KE2BuilderInput
  /-- Server generates its message and its state. -/
  buildKe2 : KE2Builder → KE2BuilderInput → Outcome Error (GenerateKe2Result KE2State KE2Message)
  /-- Client generates its second message and the session key. -/
  generateKe3 : SerializedCredentialRequest CS → KE1Message → SerializedCredentialResponse CS →
    KE1State → KE2Message → PublicKey CS.KeGroup → PrivateKey CS.KeGroup →
    SerializedIdentifiers CS.KeGroup → SerializedContext →
    RngM Error (GenerateKe3Result CS.KeHash KE3Message)
  /-- Server generates the session key. -/
  finishKe : KE2State → KE3Message → Identifiers → SerializedContext →
    Outcome Error (Output CS.KeHash)
  ke1State : Codec Error KE1State
  ke1Message : Codec Error KE1Message
  ke2State : Codec Error KE2State
  ke2Message : Codec Error KE2Message
  ke3Message : Codec Error KE3Message

end OpaqueVx
