import OpaqueVx.Reference
import OpaqueVx.Steps
import OpaqueVx.WireFormat

/-! # The transcript covers the wire

  Every part of a login that travels has two encoders: a row of slices that is
  hashed and an array that is sent. What the two parties hash is the preamble of
  RFC 9807 over the bytes that are sent. -/

namespace OpaqueVx

open Lib

variable {CS : CipherSuite}

/-- The preamble of RFC 9807. `innerKe2` is the server's answer up to what
    authenticates it. -/
def preamble (context clientIdentity ke1 serverIdentity innerKe2 : Bytes) : Bytes :=
  ascii "OPAQUEv1-" ++ (beBytes 2 context.length ++ (context ++
    (beBytes 2 clientIdentity.length ++ (clientIdentity ++ (ke1 ++
      (beBytes 2 serverIdentity.length ++ (serverIdentity ++ innerKe2)))))))

/-! ### Slices and arrays -/

theorem SerializedCredentialRequest.flatten_iter (r : SerializedCredentialRequest CS) :
    r.iter.flatten = r.serialize.bytes := by
  simp [iter, serialize]

theorem Ke1MessageIter.flatten_iter {G : Group} (m : Ke1MessageIter G) :
    m.iter.flatten = m.serialize.bytes := by
  simp [iter, serialize]

theorem SerializedContext.flatten_iter (c : SerializedContext) :
    c.iter.flatten = ascii "OPAQUEv1-" ++ (beBytes 2 c.context.length ++ c.context) := by
  have hlength : c.length.bytes = beBytes 2 c.context.length :=
    (LengthField.iff.mp c.lengthField).2
  simp [iter, strContext, hlength]

theorem SerializedIdentifier.flatten_iter {G : Group} (i : SerializedIdentifier G) :
    i.iter.flatten = beBytes 2 i.bytes.length ++ i.bytes := by
  have hlength : i.length.bytes = beBytes 2 i.bytes.length :=
    (LengthField.iff.mp i.lengthField).2
  simp [iter, hlength]

/-! ### The server's answer -/

namespace CredentialResponse

variable {KE : KeyExchange CS}

/-- The answer up to the end of the server's ephemeral key of group `G`. -/
def innerKe2 (G : Group) (m : CredentialResponse CS KE) : Bytes :=
  m.serialize.bytes.take (CS.OprfCs.ElemLen + nonceLen + CS.MaskedResponseLen +
    (nonceLen + G.PkLen))

/-- When the message of the key exchange starts with a nonce and a key, these and the
    parts that are hashed before them make up `innerKe2`. -/
theorem serialize_split {G : Group} {m : CredentialResponse CS KE}
    {nonce : GenericArray nonceLen} {pk : GenericArray G.PkLen} {rest : Bytes}
    (h : (KE.ke2Message.encode m.ke2Message).bytes = nonce.bytes ++ (pk.bytes ++ rest)) :
    m.innerKe2 G = m.toParts.iter.flatten ++ (nonce.bytes ++ pk.bytes) ∧
      m.serialize.bytes = m.innerKe2 G ++ rest := by
  have hparts : m.toParts.iter.flatten =
      (((CS.OprfCs.serializeElem m.evaluationElement).cat m.maskingNonce).cat
        m.maskedResponse.serialize).bytes :=
    SerializedCredentialResponse.flatten_iter _
  have hsplit : m.serialize.bytes =
      (m.toParts.iter.flatten ++ (nonce.bytes ++ pk.bytes)) ++ rest := by
    rw [serialize, GenericArray.bytes_cat, h, hparts]
    simp only [List.append_assoc]
  -- The three lengths are fixed, so the cut is where the parts end.
  have hlen : (m.toParts.iter.flatten ++ (nonce.bytes ++ pk.bytes)).length =
      CS.OprfCs.ElemLen + nonceLen + CS.MaskedResponseLen + (nonceLen + G.PkLen) := by
    rw [hparts]
    simp only [List.length_append, GenericArray.length_bytes]
  have hinner : m.innerKe2 G = m.toParts.iter.flatten ++ (nonce.bytes ++ pk.bytes) := by
    rw [innerKe2, hsplit, ← hlen, List.take_left']
    rfl
  exact ⟨hinner, by rw [hinner]; exact hsplit⟩

end CredentialResponse

/-- The transcript of a request and an answer is the preamble over their bytes. -/
theorem transcript_eq_preamble {KE : KeyExchange CS} {G : Group} {context : SerializedContext}
    {identifiers : SerializedIdentifiers CS.KeGroup} {request : CredentialRequest CS KE}
    {ke1Message : Ke1MessageIter G} {response : CredentialResponse CS KE}
    {nonce : GenericArray nonceLen} {pk : GenericArray G.PkLen} {rest : Bytes}
    (hke1 : (KE.ke1Message.encode request.ke1Message).bytes = ke1Message.iter.flatten)
    (hke2 : (KE.ke2Message.encode response.ke2Message).bytes = nonce.bytes ++ (pk.bytes ++ rest)) :
    (transcript context identifiers request.toParts ke1Message response.toParts nonce
        pk).absorbed =
      preamble context.context identifiers.client.bytes request.serialize.bytes
        identifiers.server.bytes (response.innerKe2 G) := by
  have hrequest : request.serialize.bytes =
      request.toParts.iter.flatten ++ ke1Message.iter.flatten := by
    rw [CredentialRequest.serialize, GenericArray.bytes_cat, hke1,
      SerializedCredentialRequest.flatten_iter]
    rfl
  rw [absorbed_transcript, (CredentialResponse.serialize_split hke2).1, hrequest,
    SerializedContext.flatten_iter, SerializedIdentifier.flatten_iter,
    SerializedIdentifier.flatten_iter, preamble]
  simp only [List.append_assoc]

/-! ### Logins -/

/-- The server's side of a login, up to its answer. The key of the server and the
    seed may be kept elsewhere. -/
structure ServerAnswer (KE : KeyExchange CS) (SK OS : Type) where
  setup : ServerSetup CS SK OS
  keyMaterial : GenericArray CS.OprfCs.ScalarLen
  passwordFile : Option (ServerRegistration CS)
  request : CredentialRequest CS KE
  params : ServerLoginParameters
  rng : Rng
  builder : ServerLoginBuilder CS KE SK
  input : KE.KE2BuilderInput
  made : ServerLoginStartResult CS KE
  builder_eq : ∃ r, (ServerLogin.builderWithKeyMaterial setup keyMaterial passwordFile request
    params).run rng = .ok (builder, r)
  made_eq : ServerLogin.build builder input = .ok made

namespace ServerAnswer

variable {KE : KeyExchange CS} {SK OS : Type} (a : ServerAnswer KE SK OS)

def context : Bytes := a.params.context.getD []

def clientIdentity : Bytes :=
  a.params.identifiers.client.getD
    (CS.KeGroup.serializePk (ServerLogin.clientSPk a.setup a.passwordFile)).bytes

def serverIdentity : Bytes :=
  a.params.identifiers.server.getD (CS.KeGroup.serializePk a.setup.keypair.pk).bytes

/-- The preamble over the request received and the answer made. -/
def preamble (G : Group) : Bytes :=
  OpaqueVx.preamble a.context a.clientIdentity a.request.serialize.bytes a.serverIdentity
    (a.made.message.innerKe2 G)

/-- The call of the key exchange behind an answer. -/
theorem exists_ke2 : ∃ context identifiers r r' ke2,
    context.context = a.context ∧ identifiers.client.bytes = a.clientIdentity ∧
    identifiers.server.bytes = a.serverIdentity ∧
    (KE.ke2Builder a.request.toParts a.request.ke1Message a.made.message.toParts
      (ServerLogin.clientSPk a.setup a.passwordFile) identifiers context).run r =
      .ok (a.builder.ke2Builder, r') ∧
    KE.buildKe2 a.builder.ke2Builder a.input = .ok ke2 ∧
    a.made.message.ke2Message = ke2.message ∧ a.made.state = ⟨ke2.state⟩ := by
  obtain ⟨r', hbuilder⟩ := a.builder_eq
  obtain ⟨context, identifiers, r, hcontext, hids, hke2Builder⟩ :=
    ServerLogin.of_builderWithKeyMaterial hbuilder
  obtain ⟨ke2, hke2, hmade⟩ := ServerLogin.build_eq_ok.mp a.made_eq
  obtain ⟨hclient, hserver⟩ := SerializedIdentifiers.fromIdentifiers_eq_ok.mp hids
  refine ⟨context, identifiers, r, r', ke2, ?_, ?_, ?_, ?_, hke2, ?_, ?_⟩
  · exact (SerializedContext.fromContext_eq_ok.mp hcontext).symm
  · rw [SerializedIdentifier.bytes, hclient, Identifier.bytes_ofOption]
    rfl
  · rw [SerializedIdentifier.bytes, hserver, Identifier.bytes_ofOption]
    rfl
  · rw [hmade]
    exact hke2Builder
  · rw [hmade]
  · rw [hmade]

end ServerAnswer

/-- The last step of a client that succeeds. -/
structure ClientFinish (KE : KeyExchange CS) where
  state : ClientLogin CS KE
  password : Bytes
  response : CredentialResponse CS KE
  params : ClientLoginFinishParameters CS
  rng : Rng
  result : ClientLoginFinishResult CS KE
  result_eq : ∃ r, (state.finish password response params).run rng = .ok (result, r)

namespace ClientFinish

variable {KE : KeyExchange CS} (f : ClientFinish KE)

/-- The preamble over the request sent and the answer received, for a client whose
    static key is `clientSPk`. -/
def preamble (G : Group) (clientSPk : PublicKey CS.KeGroup) : Bytes :=
  OpaqueVx.preamble (f.params.context.getD [])
    (f.params.identifiers.client.getD (CS.KeGroup.serializePk clientSPk).bytes)
    f.state.credentialRequest.serialize.bytes
    (f.params.identifiers.server.getD (CS.KeGroup.serializePk f.result.serverSPk).bytes)
    (f.response.innerKe2 G)

/-- The key pair in the envelope that the client finds in the answer and opens. -/
def HasKeypair (keypair : KeyPair CS.KeGroup (PrivateKey CS.KeGroup)) : Prop :=
  ∃ derived maskingKey envelope opened,
    getPasswordDerivedKey f.password f.state.oprfClient f.response.evaluationElement
      f.params.ksf = .ok derived ∧
    derived.2.expand strMaskingKey CS.OprfHash.outputSize = some maskingKey ∧
    unmaskResponse maskingKey.bytes f.response.maskingNonce.bytes f.response.maskedResponse =
      .ok (f.result.serverSPk, envelope) ∧
    Envelope.open envelope derived.2 f.result.serverSPk f.params.identifiers = .ok opened ∧
    opened.clientStaticKeypair = keypair

/-- The call of the key exchange behind the client's last step. -/
theorem exists_ke3 : ∃ keypair context identifiers r r' ke3, f.HasKeypair keypair ∧
    context.context = f.params.context.getD [] ∧
    identifiers.client.bytes =
      f.params.identifiers.client.getD (CS.KeGroup.serializePk keypair.pk).bytes ∧
    identifiers.server.bytes =
      f.params.identifiers.server.getD (CS.KeGroup.serializePk f.result.serverSPk).bytes ∧
    (KE.generateKe3 f.state.credentialRequest.toParts f.state.credentialRequest.ke1Message
      f.response.toParts f.state.ke1State f.response.ke2Message f.result.serverSPk keypair.sk
      identifiers context).run r = .ok (ke3, r') ∧
    f.result.message = ⟨ke3.message⟩ ∧ f.result.sessionKey = ke3.sessionKey := by
  obtain ⟨r', hresult⟩ := f.result_eq
  obtain ⟨-, derived, maskingKey, envelope, opened, context, ke3, hderived, hkey, hunmask, hopen,
    hcontext, hke3, hmessage, hsession, -⟩ := ClientLogin.run_finish_eq_ok.mp hresult
  obtain ⟨-, -, hids, -, -⟩ := Envelope.open_eq_ok.mp hopen
  obtain ⟨hclient, hserver⟩ := SerializedIdentifiers.fromIdentifiers_eq_ok.mp hids
  refine ⟨opened.clientStaticKeypair, context, opened.identifiers, f.rng, r', ke3,
    ⟨derived, maskingKey, envelope, opened, hderived, hkey, hunmask, hopen, rfl⟩, ?_, ?_, ?_, hke3,
    hmessage, hsession⟩
  · exact (SerializedContext.fromContext_eq_ok.mp hcontext).symm
  · rw [SerializedIdentifier.bytes, hclient, Identifier.bytes_ofOption]
  · rw [SerializedIdentifier.bytes, hserver, Identifier.bytes_ofOption]

end ClientFinish

/-! ### 3DH -/

namespace TripleDh

variable [DiffieHellman CS.KeGroup] {SK OS : Type}

/-- The bytes the client hashes for an answer, before it knows whether the answer is
    genuine. -/
def clientHashes (context : SerializedContext) (identifiers : SerializedIdentifiers CS.KeGroup)
    (request : CredentialRequest CS (keyExchange CS))
    (response : CredentialResponse CS (keyExchange CS)) : Bytes :=
  (transcript context identifiers request.toParts request.ke1Message.toIter response.toParts
    response.ke2Message.serverNonce
    (CS.KeGroup.serializePk response.ke2Message.serverEPk)).absorbed

theorem encode_ke2Message (m : Ke2Message CS.KeGroup CS.KeHash) :
    ((keyExchange CS).ke2Message.encode m).bytes = m.serverNonce.bytes ++
      ((CS.KeGroup.serializePk m.serverEPk).bytes ++ m.mac.bytes) := by
  show (Ke2Message.serialize m).bytes = _
  simp [Ke2Message.serialize]

theorem encode_ke1Message (m : Ke1Message CS.KeGroup) :
    ((keyExchange CS).ke1Message.encode m).bytes = m.toIter.iter.flatten := by
  show (Ke1Message.serialize m).bytes = _
  rw [Ke1MessageIter.flatten_iter]
  rfl

theorem clientHashes_eq {context : SerializedContext}
    {identifiers : SerializedIdentifiers CS.KeGroup}
    {request : CredentialRequest CS (keyExchange CS)}
    {response : CredentialResponse CS (keyExchange CS)} :
    clientHashes context identifiers request response =
      preamble context.context identifiers.client.bytes request.serialize.bytes
        identifiers.server.bytes (response.innerKe2 CS.KeGroup) :=
  transcript_eq_preamble (encode_ke1Message _) (encode_ke2Message _)

/-- The server hashes what a client with its names would hash for its answer. -/
theorem serverHashes_eq (a : ServerAnswer (keyExchange CS) SK OS) :
    a.builder.ke2Builder.transcriptHasher.absorbed = a.preamble CS.KeGroup := by
  obtain ⟨context, identifiers, r, r', ke2, hcontext, hclient, hserver, hbuilder, hke2, hmessage,
    -⟩ := a.exists_ke2
  obtain ⟨sk, -, hb, -⟩ := run_ke2Builder_eq_ok.mp hbuilder
  obtain ⟨-, -, hsent⟩ := buildKe2_eq_ok.mp hke2
  have hhashes : a.builder.ke2Builder.transcriptHasher.absorbed =
      clientHashes context identifiers a.request a.made.message := by
    rw [clientHashes, hmessage, hsent, hb]
    rfl
  rw [hhashes, clientHashes_eq, hcontext, hclient, hserver]
  rfl

/-- Both parties of 3DH hash the preamble over the bytes that are sent. -/
structure CoversWire (CS : CipherSuite) [DiffieHellman CS.KeGroup] : Prop where
  /-- The server does before there is an answer. -/
  server : ∀ (SK OS : Type) (a : ServerAnswer (keyExchange CS) SK OS),
    a.builder.ke2Builder.transcriptHasher.absorbed = a.preamble CS.KeGroup
  client : ∀ (context : SerializedContext) (identifiers : SerializedIdentifiers CS.KeGroup)
    (request : CredentialRequest CS (keyExchange CS))
    (response : CredentialResponse CS (keyExchange CS)),
    clientHashes context identifiers request response =
      preamble context.context identifiers.client.bytes request.serialize.bytes
        identifiers.server.bytes (response.innerKe2 CS.KeGroup)
  /-- Only the MAC is left out. -/
  mac : ∀ response : CredentialResponse CS (keyExchange CS),
    response.serialize.bytes =
      response.innerKe2 CS.KeGroup ++ response.ke2Message.mac.bytes
  /-- All that a client ends up with is derived from the preamble. -/
  finish : ∀ f : ClientFinish (keyExchange CS), ∃ keypair, f.HasKeypair keypair ∧
    let macs : MacPair CS.KeHash := macPair (f.preamble CS.KeGroup keypair.pk)
      (clientIkm f.state.ke1State f.response.ke2Message f.result.serverSPk keypair.sk)
    f.response.ke2Message.mac = macs.serverMac ∧
      f.result.sessionKey = macs.keys.sessionKey ∧
      f.result.message.ke3Message.mac = macs.clientMac
  /-- Over the wire both hash the same bytes, if they use the same names. -/
  agree : CS.Encoding .roundTrip → ∀ (SK OS : Type) (a : ServerAnswer (keyExchange CS) SK OS)
    (request : CredentialRequest CS (keyExchange CS))
    (response : CredentialResponse CS (keyExchange CS)) (context : SerializedContext)
    (identifiers : SerializedIdentifiers CS.KeGroup),
    CredentialRequest.deserialize request.serialize.bytes = .ok a.request →
    CredentialResponse.deserialize a.made.message.serialize.bytes = .ok response →
    context.context = a.context → identifiers.client.bytes = a.clientIdentity →
    identifiers.server.bytes = a.serverIdentity →
    clientHashes context identifiers request response =
      a.builder.ke2Builder.transcriptHasher.absorbed

theorem coversWire : CoversWire CS where
  server SK OS a := serverHashes_eq a
  client _ _ _ _ := clientHashes_eq
  mac response := (CredentialResponse.serialize_split (encode_ke2Message _)).2
  finish f := by
    obtain ⟨keypair, context, identifiers, r, r', ke3, hkeypair, hcontext, hclient, hserver, hke3,
      hmessage, hsession⟩ := f.exists_ke3
    obtain ⟨-, -, hmac, hresult⟩ := run_generateKe3_eq_ok.mp hke3
    have hhashes : (transcript context identifiers f.state.credentialRequest.toParts
        f.state.credentialRequest.ke1Message.toIter f.response.toParts
        f.response.ke2Message.serverNonce
        (CS.KeGroup.serializePk f.response.ke2Message.serverEPk)).absorbed =
        f.preamble CS.KeGroup keypair.pk := by
      show clientHashes context identifiers f.state.credentialRequest f.response = _
      rw [clientHashes_eq, hcontext, hclient, hserver]
      rfl
    -- MAC, session key and the finalization are functions of what was hashed.
    rw [hhashes] at hmac hresult
    refine ⟨keypair, hkeypair, hmac.symm, ?_, ?_⟩
    · rw [hsession, hresult]
    · rw [hmessage, hresult]
  agree h SK OS a request response context identifiers hrequest hresponse hcontext hclient
      hserver := by
    have hlaws : (keyExchange CS).MessageLaws .roundTrip := messageLaws h.key.pk
    have hrequest : a.request = request :=
      (CredentialRequest.codec_law h hlaws request).eq_of_decodeFront hrequest
    have hresponse : response = a.made.message :=
      (CredentialResponse.codec_law h hlaws a.made.message).eq_of_decodeFront hresponse
    rw [serverHashes_eq, clientHashes_eq, hcontext, hclient, hserver, hresponse, ← hrequest]
    rfl

end TripleDh

/-! ### SIGMA-I -/

namespace SigmaI

variable {KE : Group} {SIG : SignatureProtocol CS KE} {SK OS : Type}

theorem encode_ke2Message (m : Ke2Message CS KE SIG) :
    (Ke2Message.serialize m).bytes = m.serverNonce.bytes ++ ((KE.serializePk m.serverEPk).bytes ++
      ((SIG.serializeSignature m.signature).bytes ++ m.mac.bytes)) := by
  simp [Ke2Message.serialize]

theorem encode_ke1Message (m : Ke1Message KE) :
    (Ke1Message.serialize m).bytes = m.toIter.iter.flatten := by
  rw [Ke1MessageIter.flatten_iter]
  rfl

/-- The bytes the server hashes. It keeps the parts of the transcript in the message
    that it signs. -/
def serverHashes (b : Ke2Builder CS KE) : Bytes :=
  (transcript b.transcript.context b.transcript.identifiers b.transcript.cache.credentialRequest
    b.transcript.cache.ke1Message b.transcript.cache.credentialResponse
    b.transcript.cache.serverNonce b.transcript.cache.serverEPk).absorbed

/-- What is MACed of an identifier. -/
def identifierBytes (identity : Bytes) : Bytes := beBytes 2 identity.length ++ identity

section hashes

variable [DiffieHellman KE]

/-- The bytes the client hashes for an answer, before it knows whether the answer is
    genuine. -/
def clientHashes (context : SerializedContext) (identifiers : SerializedIdentifiers CS.KeGroup)
    (request : CredentialRequest CS (keyExchange CS KE SIG))
    (response : CredentialResponse CS (keyExchange CS KE SIG)) : Bytes :=
  (transcript context identifiers request.toParts request.ke1Message.toIter response.toParts
    response.ke2Message.serverNonce (KE.serializePk response.ke2Message.serverEPk)).absorbed

theorem clientHashes_eq {context : SerializedContext}
    {identifiers : SerializedIdentifiers CS.KeGroup}
    {request : CredentialRequest CS (keyExchange CS KE SIG)}
    {response : CredentialResponse CS (keyExchange CS KE SIG)} :
    clientHashes context identifiers request response =
      preamble context.context identifiers.client.bytes request.serialize.bytes
        identifiers.server.bytes (response.innerKe2 KE) :=
  transcript_eq_preamble (encode_ke1Message _) (encode_ke2Message _)

/-- The keys that are derived from `hashed` and the shared secret. -/
def keysOf (hashed : Bytes) (sk : PrivateKey KE) (pk : PublicKey KE) : DerivedKeys CS.KeHash :=
  keySchedule CS.KeHash (DiffieHellman.diffieHellman sk pk).bytes (CS.KeHash.digest hashed).bytes

/-- The server hashes what a client with its names would hash for its answer, and
    derives its keys from that. -/
theorem exists_serverKeys (a : ServerAnswer (keyExchange CS KE SIG) SK OS) :
    serverHashes a.builder.ke2Builder = a.preamble KE ∧
      ∃ sk, a.made.message.ke2Message.serverEPk = KE.publicKey sk ∧
        let keys : DerivedKeys CS.KeHash :=
          keysOf (a.preamble KE) sk a.request.ke1Message.clientEPk
        a.made.message.ke2Message.mac =
          CS.KeHash.hmac keys.km2.bytes (identifierBytes a.serverIdentity) ∧
        a.made.state.ke2State.sessionKey = keys.sessionKey ∧
        a.made.state.ke2State.expectedMac =
          CS.KeHash.hmac keys.km3.bytes (identifierBytes a.clientIdentity) := by
  obtain ⟨context, identifiers, r, r', ke2, hcontext, hclient, hserver, hbuilder, hke2, hmessage,
    hstate⟩ := a.exists_ke2
  obtain ⟨-, sk, -, hb, -⟩ := run_ke2Builder_eq_ok.mp hbuilder
  injection hke2 with hke2
  have hsent : a.made.message.ke2Message =
      ⟨a.builder.ke2Builder.serverNonce, a.builder.ke2Builder.serverEPk, a.input.1,
        a.builder.ke2Builder.transcript.cache.serverMac⟩ := by
    rw [hmessage, ← hke2]
  have hkept : a.made.state.ke2State =
      ⟨a.builder.ke2Builder.clientSPk, a.builder.ke2Builder.sessionKey, a.input.2,
        a.builder.ke2Builder.expectedMac⟩ := by
    rw [hstate, ← hke2]
  have hpreamble : clientHashes context identifiers a.request a.made.message = a.preamble KE := by
    rw [clientHashes_eq, hcontext, hclient, hserver]
    rfl
  -- The nonce and the key of the answer are those of the builder.
  have hhashes : serverHashes a.builder.ke2Builder =
      clientHashes context identifiers a.request a.made.message := by
    rw [clientHashes, hsent, hb]
    rfl
  have hserverBytes : identifierBytes a.serverIdentity = identifiers.server.iter.flatten := by
    rw [SerializedIdentifier.flatten_iter, hserver, identifierBytes]
  have hclientBytes : identifierBytes a.clientIdentity = identifiers.client.iter.flatten := by
    rw [SerializedIdentifier.flatten_iter, hclient, identifierBytes]
  refine ⟨hhashes.trans hpreamble, sk, ?_, ?_, ?_, ?_⟩
  · rw [hsent, hb]
    rfl
  · rw [← hpreamble, ← hhashes, hserverBytes, hsent, hb]
    rfl
  · rw [← hpreamble, ← hhashes, hkept, hb]
    rfl
  · rw [← hpreamble, ← hhashes, hclientBytes, hkept, hb]
    rfl

/-- Both parties of SIGMA-I hash the preamble over the bytes that are sent. -/
structure CoversWire (CS : CipherSuite) (KE : Group) [DiffieHellman KE]
    (SIG : SignatureProtocol CS KE) : Prop where
  /-- The server does before there is an answer, and all that it keeps is derived from
      the preamble. -/
  server : ∀ (SK OS : Type) (a : ServerAnswer (keyExchange CS KE SIG) SK OS),
    serverHashes a.builder.ke2Builder = a.preamble KE ∧
      ∃ sk, a.made.message.ke2Message.serverEPk = KE.publicKey sk ∧
        let keys : DerivedKeys CS.KeHash :=
          keysOf (a.preamble KE) sk a.request.ke1Message.clientEPk
        a.made.message.ke2Message.mac =
          CS.KeHash.hmac keys.km2.bytes (identifierBytes a.serverIdentity) ∧
        a.made.state.ke2State.sessionKey = keys.sessionKey ∧
        a.made.state.ke2State.expectedMac =
          CS.KeHash.hmac keys.km3.bytes (identifierBytes a.clientIdentity)
  client : ∀ (context : SerializedContext) (identifiers : SerializedIdentifiers CS.KeGroup)
    (request : CredentialRequest CS (keyExchange CS KE SIG))
    (response : CredentialResponse CS (keyExchange CS KE SIG)),
    clientHashes context identifiers request response =
      preamble context.context identifiers.client.bytes request.serialize.bytes
        identifiers.server.bytes (response.innerKe2 KE)
  /-- Only the signature and the MAC are left out. -/
  signature : ∀ response : CredentialResponse CS (keyExchange CS KE SIG),
    response.serialize.bytes = response.innerKe2 KE ++
      ((SIG.serializeSignature response.ke2Message.signature).bytes ++
        response.ke2Message.mac.bytes)
  /-- All that a client ends up with is derived from the preamble. -/
  finish : ∀ f : ClientFinish (keyExchange CS KE SIG), ∃ keypair, f.HasKeypair keypair ∧
    ∃ clientIdentity serverIdentity : Bytes,
      clientIdentity =
        f.params.identifiers.client.getD (CS.KeGroup.serializePk keypair.pk).bytes ∧
      serverIdentity =
        f.params.identifiers.server.getD (CS.KeGroup.serializePk f.result.serverSPk).bytes ∧
      let keys : DerivedKeys CS.KeHash := keysOf (f.preamble KE keypair.pk)
        f.state.ke1State.clientESk f.response.ke2Message.serverEPk
      f.response.ke2Message.mac =
          CS.KeHash.hmac keys.km2.bytes (identifierBytes serverIdentity) ∧
        f.result.sessionKey = keys.sessionKey ∧
        f.result.message.ke3Message.mac =
          CS.KeHash.hmac keys.km3.bytes (identifierBytes clientIdentity)
  /-- Over the wire both hash the same bytes, if they use the same names. -/
  agree : CS.Encoding .roundTrip → (keyExchange CS KE SIG).MessageLaws .roundTrip →
    ∀ (SK OS : Type) (a : ServerAnswer (keyExchange CS KE SIG) SK OS)
    (request : CredentialRequest CS (keyExchange CS KE SIG))
    (response : CredentialResponse CS (keyExchange CS KE SIG)) (context : SerializedContext)
    (identifiers : SerializedIdentifiers CS.KeGroup),
    CredentialRequest.deserialize request.serialize.bytes = .ok a.request →
    CredentialResponse.deserialize a.made.message.serialize.bytes = .ok response →
    context.context = a.context → identifiers.client.bytes = a.clientIdentity →
    identifiers.server.bytes = a.serverIdentity →
    clientHashes context identifiers request response = serverHashes a.builder.ke2Builder

theorem coversWire : CoversWire CS KE SIG where
  server SK OS a := exists_serverKeys a
  client _ _ _ _ := clientHashes_eq
  signature response := (CredentialResponse.serialize_split (encode_ke2Message _)).2
  finish f := by
    obtain ⟨keypair, context, identifiers, r, r', ke3, hkeypair, hcontext, hclient, hserver, hke3,
      hmessage, hsession⟩ := f.exists_ke3
    obtain ⟨-, hmac, signature, state, -, -, hresult⟩ := run_generateKe3_eq_ok.mp hke3
    have hkeys : sessionKeys context identifiers f.state.credentialRequest.toParts
        f.state.credentialRequest.ke1Message.toIter f.response.toParts
        f.response.ke2Message.serverNonce (KE.serializePk f.response.ke2Message.serverEPk)
        (DiffieHellman.diffieHellman f.state.ke1State.clientESk
          f.response.ke2Message.serverEPk) =
        keysOf (f.preamble KE keypair.pk) f.state.ke1State.clientESk
          f.response.ke2Message.serverEPk := by
      have hhashes : clientHashes context identifiers f.state.credentialRequest f.response =
          f.preamble KE keypair.pk := by
        rw [clientHashes_eq, hcontext, hclient, hserver]
        rfl
      rw [← hhashes]
      rfl
    simp only [hkeys] at hmac hresult
    rw [SerializedIdentifier.flatten_iter] at hmac hresult
    refine ⟨keypair, hkeypair, identifiers.client.bytes, identifiers.server.bytes, hclient,
      hserver, hmac.symm, ?_, ?_⟩
    · rw [hsession, hresult]
    · rw [hmessage, hresult, identifierBytes]
  agree h hlaws SK OS a request response context identifiers hrequest hresponse hcontext hclient
      hserver := by
    have hrequest : a.request = request :=
      (CredentialRequest.codec_law h hlaws request).eq_of_decodeFront hrequest
    have hresponse : response = a.made.message :=
      (CredentialResponse.codec_law h hlaws a.made.message).eq_of_decodeFront hresponse
    rw [(exists_serverKeys a).1, clientHashes_eq, hcontext, hclient, hserver, hresponse,
      ← hrequest]
    rfl

end hashes

end SigmaI

/-! ### Both key exchanges -/

/-- What is hashed slice by slice is what is sent, and the transcripts of 3DH and of
    SIGMA-I are the preamble over it, on both sides. -/
theorem transcripts_cover_wire (CS : CipherSuite) :
    (∀ r : SerializedCredentialRequest CS, r.iter.flatten = r.serialize.bytes) ∧
    (∀ (G : Group) (m : Ke1MessageIter G), m.iter.flatten = m.serialize.bytes) ∧
    (∀ r : SerializedCredentialResponse CS, r.iter.flatten = r.serialize.bytes) ∧
    (∀ m : MaskedResponse CS, m.iter.flatten = m.serialize.bytes) ∧
    (∀ [DiffieHellman CS.KeGroup], TripleDh.CoversWire CS) ∧
    ∀ (KE : Group) [DiffieHellman KE] (SIG : SigmaI.SignatureProtocol CS KE),
      SigmaI.CoversWire CS KE SIG := by
  refine ⟨?_, ?_, ?_, ?_, ?_, ?_⟩
  · intro r
    exact r.flatten_iter
  · intro G m
    exact m.flatten_iter
  · intro r
    exact r.flatten_iter
  · intro m
    exact m.flatten_iter
  · intro _
    exact TripleDh.coversWire
  · intro KE _ SIG
    exact SigmaI.coversWire

/-! ### Answers of the reference instantiation -/

/-- An answer of a server that has its key and its seed at hand. -/
abbrev LocalAnswer (KE : KeyExchange CS) :=
  ServerAnswer KE (PrivateKey CS.KeGroup) (OprfSeed CS.OprfHash)

/-- What the server does in one step is such an answer. -/
theorem exists_answer {KE : KeyExchange CS} {setup : LocalSetup CS}
    {passwordFile : Option (ServerRegistration CS)} {request : CredentialRequest CS KE}
    {credentialIdentifier : Bytes} {params : ServerLoginParameters} {r r' : Rng}
    {result : ServerLoginStartResult CS KE}
    (h : (ServerLogin.start setup passwordFile request credentialIdentifier params).run r =
      .ok (result, r')) :
    ∃ a : LocalAnswer KE, a.setup = setup ∧ a.params = params ∧ a.made = result := by
  obtain ⟨builder, r₁, hbuilder, h⟩ := run_bind_eq_ok.mp h
  obtain ⟨keyMaterial, -, hbuilder⟩ := run_lift_bind_eq_ok.mp hbuilder
  obtain ⟨input, r₂, -, hbuild⟩ := run_bind_eq_ok.mp h
  obtain ⟨hmade, -⟩ := run_lift_eq_ok.mp hbuild
  let a : LocalAnswer KE :=
    { setup, keyMaterial, passwordFile, request, params
      rng := r
      builder, input
      made := result
      builder_eq := ⟨r₁, hbuilder⟩
      made_eq := hmade }
  exact ⟨a, rfl, rfl, rfl⟩

namespace Reference

def loginParams : ServerLoginParameters := ⟨some (ascii "login"), parties.ids⟩

/-- A client's request in 3DH, and the answer of a server that has no record of it. -/
def tripleDhRequest : CredentialRequest suite (TripleDh.keyExchange suite) :=
  ⟨(3 : UInt8), ⟨.zeros _, (12 : UInt8)⟩⟩

def tripleDhAnswer : ServerLoginStartResult suite (TripleDh.keyExchange suite) × Rng :=
  ((ServerLogin.start setup none tripleDhRequest [7] loginParams).run rng).toOption.get
    (by decide +kernel)

/-- The same in SIGMA-I. -/
def sigmaRequest : CredentialRequest suite (SigmaI.keyExchange suite group ecdsa) :=
  ⟨(3 : UInt8), ⟨.zeros _, (12 : UInt8)⟩⟩

def sigmaAnswer : ServerLoginStartResult suite (SigmaI.keyExchange suite group ecdsa) × Rng :=
  ((ServerLogin.start setup none sigmaRequest [7] loginParams).run rng).toOption.get
    (by decide +kernel)

theorem suite_encoding : suite.Encoding .roundTrip :=
  CipherSuite.encoding_roundTrip (.of_lawful group_keyEncoding) voprf_encoding.decodes

/-- The parties have the names and the context of the answers. -/
theorem answer_names {KE : KeyExchange suite} {a : LocalAnswer KE} (hsetup : a.setup = setup)
    (hparams : a.params = loginParams) :
    parties.context.context = a.context ∧ parties.identifiers.client.bytes = a.clientIdentity ∧
      parties.identifiers.server.bytes = a.serverIdentity := by
  rw [ServerAnswer.context, ServerAnswer.clientIdentity, ServerAnswer.serverIdentity, hparams,
    hsetup]
  exact ⟨rfl, rfl, rfl⟩

/-- What the server answers, with what is read of it and of the request over the wire. -/
theorem exists_answer_read {KE : KeyExchange suite} (hlaws : KE.MessageLaws .roundTrip)
    {request : CredentialRequest suite KE} {result : ServerLoginStartResult suite KE × Rng}
    (h : (ServerLogin.start setup none request [7] loginParams).run rng = .ok result) :
    ∃ a : LocalAnswer KE, a.made = result.1 ∧
      CredentialRequest.deserialize a.request.serialize.bytes = .ok a.request ∧
      CredentialResponse.deserialize a.made.message.serialize.bytes = .ok a.made.message ∧
      parties.context.context = a.context ∧ parties.identifiers.client.bytes = a.clientIdentity ∧
      parties.identifiers.server.bytes = a.serverIdentity := by
  obtain ⟨a, hsetup, hparams, hmade⟩ := exists_answer h
  have hrequest := (CredentialRequest.codec_law suite_encoding hlaws a.request).decodeFront
  have hresponse := (CredentialResponse.codec_law suite_encoding hlaws a.made.message).decodeFront
  exact ⟨a, hmade, hrequest, hresponse, answer_names hsetup hparams⟩

end Reference

/-- A client with the names and the context of an answer hashes what the server hashes, in
    both key exchanges. -/
theorem transcripts_cover_wire_reference :
    (∃ a : LocalAnswer (TripleDh.keyExchange Reference.suite),
      a.made = Reference.tripleDhAnswer.1 ∧
        TripleDh.clientHashes Reference.parties.context Reference.parties.identifiers a.request
          a.made.message = a.builder.ke2Builder.transcriptHasher.absorbed) ∧
    ∃ a : LocalAnswer (SigmaI.keyExchange Reference.suite Reference.group Reference.ecdsa),
      a.made = Reference.sigmaAnswer.1 ∧
        SigmaI.clientHashes Reference.parties.context Reference.parties.identifiers a.request
          a.made.message = SigmaI.serverHashes a.builder.ke2Builder := by
  have hsuite := Reference.suite_encoding
  obtain ⟨-, -, -, -, htripleDh, hsigma⟩ := transcripts_cover_wire Reference.suite
  refine ⟨?_, ?_⟩
  · have hstart : (ServerLogin.start Reference.setup none Reference.tripleDhRequest [7]
        Reference.loginParams).run Reference.rng = .ok Reference.tripleDhAnswer :=
      Outcome.toOption_eq_some.mp (Option.some_get _).symm
    have hlaws : (TripleDh.keyExchange Reference.suite).MessageLaws .roundTrip :=
      TripleDh.messageLaws hsuite.key.pk
    obtain ⟨a, hmade, hrequest, hresponse, hcontext, hclient, hserver⟩ :=
      Reference.exists_answer_read hlaws hstart
    exact ⟨a, hmade, htripleDh.agree hsuite _ _ a _ _ _ _ hrequest hresponse hcontext hclient
      hserver⟩
  · have hstart : (ServerLogin.start Reference.setup none Reference.sigmaRequest [7]
        Reference.loginParams).run Reference.rng = .ok Reference.sigmaAnswer :=
      Outcome.toOption_eq_some.mp (Option.some_get _).symm
    have hlaws : (SigmaI.keyExchange Reference.suite Reference.group
        Reference.ecdsa).MessageLaws .roundTrip :=
      SigmaI.messageLaws hsuite.key.pk
        (SigmaI.Ecdsa.encoding_lawful Reference.curve_fromBytes).signature.roundTrip
    obtain ⟨a, hmade, hrequest, hresponse, hcontext, hclient, hserver⟩ :=
      Reference.exists_answer_read hlaws hstart
    exact ⟨a, hmade, (hsigma Reference.group Reference.ecdsa).agree hsuite hlaws _ _ a _ _ _ _
      hrequest hresponse hcontext hclient hserver⟩

end OpaqueVx
