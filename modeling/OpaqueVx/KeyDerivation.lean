import OpaqueVx.Masking

/-! # Key derivations

  All keys come out of HKDF-Expand, which tells calls with one secret apart by an
  info string. Some of the strings have no length fields; they are told apart by
  their fixed suffixes and by the width of the nonces. -/

namespace OpaqueVx

open Lib

/-! ### Purposes -/

/-- What HKDF-Expand is called for, with the parameters of the call. -/
inductive Purpose where
  | maskingKey
  | authKey (nonce : GenericArray nonceLen)
  | exportKey (nonce : GenericArray nonceLen)
  | privateKey (nonce : GenericArray nonceLen)
  | oprfKey (credentialIdentifier : Bytes)
  | credentialResponsePad (maskingNonce : Bytes)
  | label (name context : Bytes)

/-- The secrets that keys are expanded from. -/
inductive Secret where
  | randomizedPwd
  | oprfSeed
  | maskingKey
  | keySchedule

namespace Purpose

def secret : Purpose → Secret
  | maskingKey => .randomizedPwd
  | authKey _ => .randomizedPwd
  | exportKey _ => .randomizedPwd
  | privateKey _ => .randomizedPwd
  | oprfKey _ => .oprfSeed
  | credentialResponsePad _ => .maskingKey
  | label _ _ => .keySchedule

/-- The info string. -/
def info (H : Hash) : Purpose → Bytes
  | maskingKey => strMaskingKey
  | authKey nonce => nonce.bytes ++ strAuthKey
  | exportKey nonce => nonce.bytes ++ strExportKey
  | privateKey nonce => nonce.bytes ++ strPrivateKey
  | oprfKey credentialIdentifier => credentialIdentifier ++ strOprfKey
  | credentialResponsePad maskingNonce => maskingNonce ++ strCredentialResponsePad
  | label name context => labelInfo H name context

variable {H : Hash}

/-- The info string of a label determines the label and its context. -/
theorem labelInfo_inj_accepted {l l' c c' : Bytes} (hl : 7 + l.length ≤ 255)
    (hl' : 7 + l'.length ≤ 255) (h : labelInfo H l c = labelInfo H l' c') : l = l' ∧ c = c' := by
  have hfront : strOpaque.length = 7 := by decide
  simp only [labelInfo, List.append_cancel_left_eq] at h
  obtain ⟨hlength, h⟩ := List.append_inj h (by rw [length_beBytes, length_beBytes])
  -- The length byte of the label comes first, so the label can be cut off.
  have hlength := beBytes_inj (by omega) (by omega) hlength
  rw [List.append_cancel_left_eq] at h
  obtain ⟨hl, h⟩ := List.append_inj h (by omega)
  obtain ⟨-, hcontext⟩ := List.append_inj h (by rw [length_beBytes, length_beBytes])
  exact ⟨hl, hcontext⟩

end Purpose

/-! ### The calls -/

end OpaqueVx
