import OpaqueVx.Lib.Outcome

/-! # Errors

  The error types of the protocol. Errors of the OPRF library are kept as codes:
  no function of this development looks inside them. -/

namespace OpaqueVx

open Lib

/-- An error of the OPRF library. -/
structure VoprfError where
  code : Nat
  deriving DecidableEq, Repr

/-- An internal error of the OPRF library. -/
structure VoprfInternalError where
  code : Nat
  deriving DecidableEq, Repr

inductive InternalError where
  | hashToScalar
  | hkdfError
  | hmacError
  | ksfError
  | kemError
  | sealOpenHmacError
  | incompatibleEnvelopeModeError
  | oprfError (e : VoprfError)
  | oprfInternalError (e : VoprfInternalError)
  deriving DecidableEq, Repr

/-- `T` is the error type of a custom private key; `Empty` when there is none. -/
inductive ProtocolError (T : Type) where
  | libraryError (e : InternalError)
  | invalidLoginError
  | serializationError
  | sizeError (name : String) (len actualLen : Nat)
  | reflectedValueError
  | custom (e : T)
  deriving DecidableEq, Repr

/-- The error type of every function without a custom key. -/
abbrev Error := ProtocolError Empty

/-- `ProtocolError::into_custom`. -/
def ProtocolError.intoCustom {T : Type} : Error → ProtocolError T
  | .libraryError e => .libraryError e
  | .invalidLoginError => .invalidLoginError
  | .serializationError => .serializationError
  | .sizeError name len actualLen => .sizeError name len actualLen
  | .reflectedValueError => .reflectedValueError

/-! ### Conversions that `?` inserts -/

section lifting

variable {α : Type}

/-- `From<InternalError> for ProtocolError`. -/
def fromInternal (x : Outcome InternalError α) : Outcome Error α :=
  x.mapErr .libraryError

/-- `From<voprf::Error> for InternalError`. -/
def internalFromVoprf (x : Outcome VoprfError α) : Outcome InternalError α :=
  x.mapErr .oprfError

/-- `From<voprf::Error> for ProtocolError`. -/
def fromVoprf (x : Outcome VoprfError α) : Outcome Error α :=
  x.mapErr fun e => .libraryError (.oprfError e)

@[simp] theorem fromInternal_ok (a : α) : fromInternal (.ok a) = .ok a := rfl

@[simp] theorem internalFromVoprf_ok (a : α) : internalFromVoprf (.ok a) = .ok a := rfl

@[simp] theorem fromVoprf_ok (a : α) : fromVoprf (.ok a) = .ok a := rfl

theorem fromInternal_eq_ok {x : Outcome InternalError α} {a : α} :
    fromInternal x = .ok a ↔ x = .ok a := Outcome.mapErr_eq_ok

theorem fromVoprf_eq_ok {x : Outcome VoprfError α} {a : α} :
    fromVoprf x = .ok a ↔ x = .ok a := Outcome.mapErr_eq_ok

end lifting

end OpaqueVx
