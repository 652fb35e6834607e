import OpaqueVx.Lib.Outcome
import OpaqueVx.Lib.Bytes

/-! # Fixed-length codecs

  A reader consumes a prefix of its input: its state is the input that is not
  read yet. A codec is an encoder into a fixed number of bytes together with a
  reader. Three properties are kept apart, since a format may have one without
  another:

  * `ReadsBack v`: the reader gives back `v` from the front of any string that
    starts with the encoding of `v`, and leaves the rest untouched.
  * `Sized`: the reader never aborts, and when it accepts it has consumed
    exactly `len` bytes.
  * `Canonical`: what the reader accepts is the encoding of what it returns.

  Each is closed under juxtaposition (`both`) and under a change of
  representation (`imap`), so it holds of a record format as soon as it holds
  of the fields.
-/

namespace Lib

variable {ε α β γ : Type}

/-- A parser that takes its input from the front of a byte string. -/
abbrev Reader (ε α : Type) := StateT Bytes (Outcome ε) α

/-- `&b[..n]`. -/
def sliceTo (b : Bytes) (n : Nat) : Outcome ε Bytes :=
  if n ≤ b.length then .ok (b.take n) else .panicked

/-- `&b[n..]`. -/
def sliceFrom (b : Bytes) (n : Nat) : Outcome ε Bytes :=
  if n ≤ b.length then .ok (b.drop n) else .panicked

/-- An encoder into `len` bytes and a reader for it. -/
structure Codec (ε α : Type) where
  len : Nat
  encode : α → GenericArray len
  take : Reader ε α

namespace Codec

/-! ### The laws -/

/-- The reader recovers `v` from its encoding, whatever follows it. -/
def ReadsBack (c : Codec ε α) (v : α) : Prop :=
  ∀ rest, c.take.run ((c.encode v).bytes ++ rest) = .ok (v, rest)

/-- Every value is read back. -/
def RoundTrip (c : Codec ε α) : Prop := ∀ v, c.ReadsBack v

/-- The reader does not abort and consumes exactly `len` bytes. -/
structure Sized (c : Codec ε α) : Prop where
  never_panics : ∀ b, c.take.run b ≠ .panicked
  consumes : ∀ b v rest, c.take.run b = .ok (v, rest) → c.len ≤ b.length ∧ rest = b.drop c.len

/-- Accepted input is the encoding of the value returned. -/
def Canonical (c : Codec ε α) : Prop :=
  ∀ b v rest, c.take.run b = .ok (v, rest) → b = (c.encode v).bytes ++ rest

/-- A reader that does not abort and whose input is too short returns an error. -/
theorem Sized.short {c : Codec ε α} (h : c.Sized) {b : Bytes} (hb : b.length < c.len) :
    (c.take.run b).IsErr := by
  cases hr : c.take.run b with
  | ok p =>
    have hlen := (h.consumes b p.1 p.2 hr).1
    omega
  | err e => exact ⟨e, rfl⟩
  | panicked => exact absurd hr (h.never_panics b)

/-- A canonical codec that reads everything back decodes each value from one
    string only. -/
theorem Canonical.inj {c : Codec ε α} (h : c.Canonical) {b b' : Bytes} {v : α} {rest : Bytes}
    (hb : c.take.run b = .ok (v, rest)) (hb' : c.take.run b' = .ok (v, rest)) : b = b' := by
  rw [h b v rest hb, h b' v rest hb']

/-- Encodings that are read back differ for different values. -/
theorem ReadsBack.encode_inj {c : Codec ε α} {v w : α} (hv : c.ReadsBack v) (hw : c.ReadsBack w)
    (h : c.encode v = c.encode w) : v = w := by
  have hv' := hv []
  rw [h, hw []] at hv'
  simpa using hv'.symm

/-! ### Two fields in a row -/

/-- The first format followed by the second. -/
def both (c : Codec ε α) (d : Codec ε β) : Codec ε (α × β) where
  len := c.len + d.len
  encode v := (c.encode v.1).cat (d.encode v.2)
  take := do
    let a ← c.take
    let b ← d.take
    return (a, b)

theorem ReadsBack.both {c : Codec ε α} {d : Codec ε β} {a : α} {b : β}
    (ha : c.ReadsBack a) (hb : d.ReadsBack b) : (c.both d).ReadsBack (a, b) := by
  intro rest
  have hc := ha ((d.encode b).bytes ++ rest)
  have hd := hb rest
  simp only [Codec.both, GenericArray.bytes_cat, List.append_assoc, StateT.run_bind, hc,
    Outcome.ok_bind, hd, StateT.run_pure, Outcome.pure_eq]

theorem Sized.both {c : Codec ε α} {d : Codec ε β} (hc : c.Sized) (hd : d.Sized) :
    (c.both d).Sized where
  never_panics b := by
    simp only [Codec.both, StateT.run_bind]
    cases h : c.take.run b with
    | err e => simp
    | panicked => exact absurd h (hc.never_panics b)
    | ok p =>
      simp only [Outcome.ok_bind]
      cases h' : d.take.run p.2 with
      | err e => simp
      | panicked => exact absurd h' (hd.never_panics p.2)
      | ok q => simp
  consumes b v rest h := by
    obtain ⟨x, b₁, hx, h⟩ := run_bind_eq_ok.mp h
    obtain ⟨y, b₂, hy, h⟩ := run_bind_eq_ok.mp h
    simp only [StateT.run_pure, Outcome.pure_eq, Outcome.ok.injEq, Prod.mk.injEq] at h
    obtain ⟨-, rfl⟩ := h
    obtain ⟨hle, rfl⟩ := hc.consumes b x b₁ hx
    obtain ⟨hle', rfl⟩ := hd.consumes _ y b₂ hy
    simp only [List.length_drop] at hle'
    simp only [Codec.both, List.drop_drop, and_true]
    omega

theorem Canonical.both {c : Codec ε α} {d : Codec ε β} (hc : c.Canonical) (hd : d.Canonical) :
    (c.both d).Canonical := by
  intro b v rest h
  obtain ⟨x, b₁, hx, h⟩ := run_bind_eq_ok.mp h
  obtain ⟨y, b₂, hy, h⟩ := run_bind_eq_ok.mp h
  simp only [StateT.run_pure, Outcome.pure_eq, Outcome.ok.injEq, Prod.mk.injEq] at h
  obtain ⟨rfl, rfl⟩ := h
  rw [hc b x b₁ hx, hd b₁ y b₂ hy]
  simp [Codec.both]

/-! ### Change of representation -/

/-- The same bytes, read as another type. -/
def imap (c : Codec ε α) (f : α → β) (g : β → α) : Codec ε β where
  len := c.len
  encode v := c.encode (g v)
  take := do
    let a ← c.take
    return f a

theorem ReadsBack.imap {c : Codec ε α} {f : α → β} {g : β → α} {v : β}
    (h : c.ReadsBack (g v)) (hv : f (g v) = v) : (c.imap f g).ReadsBack v := by
  intro rest
  simp only [Codec.imap, StateT.run_bind, h rest, Outcome.ok_bind, StateT.run_pure,
    Outcome.pure_eq, hv]

theorem Sized.imap {c : Codec ε α} (hc : c.Sized) (f : α → β) (g : β → α) :
    (c.imap f g).Sized where
  never_panics b := by
    simp only [Codec.imap, StateT.run_bind]
    cases h : c.take.run b with
    | err e => simp
    | panicked => exact absurd h (hc.never_panics b)
    | ok p => simp
  consumes b v rest h := by
    obtain ⟨x, b₁, hx, h⟩ := run_bind_eq_ok.mp h
    simp only [StateT.run_pure, Outcome.pure_eq, Outcome.ok.injEq, Prod.mk.injEq] at h
    obtain ⟨-, rfl⟩ := h
    exact hc.consumes b x b₁ hx

theorem Canonical.imap {c : Codec ε α} {f : α → β} {g : β → α} (hc : c.Canonical)
    (hgf : ∀ a, g (f a) = a) : (c.imap f g).Canonical := by
  intro b v rest h
  obtain ⟨x, b₁, hx, h⟩ := run_bind_eq_ok.mp h
  simp only [StateT.run_pure, Outcome.pure_eq, Outcome.ok.injEq, Prod.mk.injEq] at h
  obtain ⟨rfl, rfl⟩ := h
  rw [hc b x b₁ hx]
  simp [Codec.imap, hgf]

/-! ### Change of error type -/

/-- The same format with the reader's errors translated. -/
def mapErr {ε' : Type} (f : ε → ε') (c : Codec ε α) : Codec ε' α where
  len := c.len
  encode := c.encode
  take := mapErrM f c.take

section mapErr

variable {ε' : Type} {f : ε → ε'} {c : Codec ε α}

theorem mapErr_take_eq_ok {b rest : Bytes} {v : α} :
    (c.mapErr f).take.run b = .ok (v, rest) ↔ c.take.run b = .ok (v, rest) :=
  Outcome.mapErr_eq_ok

theorem ReadsBack.mapErr {v : α} (h : c.ReadsBack v) : (c.mapErr f).ReadsBack v :=
  fun rest => mapErr_take_eq_ok.mpr (h rest)

theorem Sized.mapErr (h : c.Sized) : (c.mapErr f).Sized where
  never_panics b := by
    show (c.take.run b).mapErr f ≠ .panicked
    have hb := h.never_panics b
    cases hr : c.take.run b with
    | ok p => simp
    | err e => simp
    | panicked => exact absurd hr hb
  consumes b v rest hr := h.consumes b v rest (mapErr_take_eq_ok.mp hr)

theorem Canonical.mapErr (h : c.Canonical) : (c.mapErr f).Canonical :=
  fun b v rest hr => h b v rest (mapErr_take_eq_ok.mp hr)

end mapErr

/-! ### Two presentations of one format -/

/-- The same bytes in both directions. The lengths may be sums in a different
    order. -/
structure Same (c d : Codec ε α) : Prop where
  len : c.len = d.len
  encode : ∀ v, (c.encode v).bytes = (d.encode v).bytes
  take : c.take = d.take

theorem Same.readsBack {c d : Codec ε α} (h : c.Same d) {v : α} (hd : d.ReadsBack v) :
    c.ReadsBack v := by
  intro rest
  rw [h.take, h.encode]
  exact hd rest

theorem Same.sized {c d : Codec ε α} (h : c.Same d) (hd : d.Sized) : c.Sized where
  never_panics b := by
    rw [h.take]
    exact hd.never_panics b
  consumes b v rest hr := by
    rw [h.take] at hr
    rw [h.len]
    exact hd.consumes b v rest hr

theorem Same.canonical {c d : Codec ε α} (h : c.Same d) (hd : d.Canonical) : c.Canonical := by
  intro b v rest hr
  rw [h.take] at hr
  rw [h.encode]
  exact hd b v rest hr

/-! ### All laws at once -/

/-- Every value is read back, the length is fixed, and only encodings are
    accepted. -/
structure Lawful (c : Codec ε α) : Prop where
  roundTrip : c.RoundTrip
  sized : c.Sized
  canonical : c.Canonical

theorem Lawful.both {c : Codec ε α} {d : Codec ε β} (hc : c.Lawful) (hd : d.Lawful) :
    (c.both d).Lawful where
  roundTrip v := (hc.roundTrip v.1).both (hd.roundTrip v.2)
  sized := hc.sized.both hd.sized
  canonical := hc.canonical.both hd.canonical

theorem Lawful.imap {c : Codec ε α} {f : α → β} {g : β → α} (hc : c.Lawful)
    (hfg : ∀ v, f (g v) = v) (hgf : ∀ a, g (f a) = a) : (c.imap f g).Lawful where
  roundTrip v := (hc.roundTrip (g v)).imap (hfg v)
  sized := hc.sized.imap f g
  canonical := hc.canonical.imap hgf

theorem Same.lawful {c d : Codec ε α} (h : c.Same d) (hd : d.Lawful) : c.Lawful where
  roundTrip v := h.readsBack (hd.roundTrip v)
  sized := h.sized hd.sized
  canonical := h.canonical hd.canonical

/-! ### Laws that carry over to records

  A result about a record format has the same proof for each of the laws: the law
  holds of the fields, and is closed under the two constructions. Such a law is a
  value, so the result can be stated once. -/

structure Law (ε : Type) where
  holds : {α : Type} → Codec ε α → Prop
  both : ∀ {α β : Type} {c : Codec ε α} {d : Codec ε β}, holds c → holds d → holds (c.both d)
  imap : ∀ {α β : Type} {c : Codec ε α} {f : α → β} {g : β → α}, holds c →
    (∀ v, f (g v) = v) → (∀ a, g (f a) = a) → holds (c.imap f g)
  same : ∀ {α : Type} {c d : Codec ε α}, c.Same d → holds d → holds c
  ofLawful : ∀ {α : Type} {c : Codec ε α}, c.Lawful → holds c

namespace Law

/-- Every value is read back. -/
def roundTrip : Law ε where
  holds c := c.RoundTrip
  both hc hd v := (hc v.1).both (hd v.2)
  imap hc hfg _ v := (hc _).imap (hfg v)
  same h hd v := h.readsBack (hd v)
  ofLawful h := h.roundTrip

/-- Every value is read back, and a string that is too short is an error. -/
def selfDelimiting : Law ε where
  holds c := c.RoundTrip ∧ c.Sized
  both hc hd := ⟨fun v => (hc.1 v.1).both (hd.1 v.2), hc.2.both hd.2⟩
  imap hc hfg _ := ⟨fun v => (hc.1 _).imap (hfg v), hc.2.imap _ _⟩
  same h hd := ⟨fun v => h.readsBack (hd.1 v), h.sized hd.2⟩
  ofLawful h := ⟨h.roundTrip, h.sized⟩

/-- All laws. -/
def lawful : Law ε where
  holds c := c.Lawful
  both hc hd := hc.both hd
  imap hc hfg hgf := hc.imap hfg hgf
  same h hd := h.lawful hd
  ofLawful h := h

end Law

/-! ### Decoding a whole string -/

/-- Reads a value from the front and ignores what follows. -/
def decodeFront (c : Codec ε α) (b : Bytes) : Outcome ε α := do
  let p ← c.take.run b
  return p.1

theorem decodeFront_eq_ok {c : Codec ε α} {b : Bytes} {v : α} :
    c.decodeFront b = .ok v ↔ ∃ rest, c.take.run b = .ok (v, rest) := by
  unfold decodeFront
  rw [Outcome.bind_eq_ok]
  constructor
  · rintro ⟨⟨a, rest⟩, hr, ha⟩
    simp only [Outcome.pure_eq, Outcome.ok.injEq] at ha
    exact ⟨rest, by rw [hr, ha]⟩
  · rintro ⟨rest, hr⟩
    exact ⟨(v, rest), hr, rfl⟩

/-- Of an encoding alone nothing is left. -/
theorem ReadsBack.take_encode {c : Codec ε α} {v : α} (h : c.ReadsBack v) :
    c.take.run (c.encode v).bytes = .ok (v, []) := by
  have hread := h []
  rw [List.append_nil] at hread
  exact hread

theorem ReadsBack.decodeFront {c : Codec ε α} {v : α} (h : c.ReadsBack v) :
    c.decodeFront (c.encode v).bytes = .ok v :=
  decodeFront_eq_ok.mpr ⟨[], h.take_encode⟩

/-- Nothing else is read from an encoding. -/
theorem ReadsBack.eq_of_decodeFront {c : Codec ε α} {v w : α} (h : c.ReadsBack v)
    (hw : c.decodeFront (c.encode v).bytes = .ok w) : w = v := by
  rw [h.decodeFront] at hw
  injection hw with hw
  exact hw.symm

theorem Sized.decodeFront_short {c : Codec ε α} (h : c.Sized) {b : Bytes}
    (hb : b.length < c.len) : (c.decodeFront b).IsErr := by
  obtain ⟨e, he⟩ := h.short hb
  exact ⟨e, by simp [Codec.decodeFront, he]⟩

/-- A decoder that ignores what follows accepts a string as the encoding of its
    result exactly when nothing follows. -/
theorem Canonical.decodeFront_iff {c : Codec ε α} (h : c.Canonical) {b : Bytes} {v : α}
    (hb : c.decodeFront b = .ok v) : (c.encode v).bytes = b ↔ b.length = c.len := by
  obtain ⟨rest, hr⟩ := decodeFront_eq_ok.mp hb
  have hcat := h b v rest hr
  constructor
  · intro heq
    rw [← heq]
    simp
  · intro hlen
    have hrest : rest = [] := by
      have hl := congrArg List.length hcat
      simp only [List.length_append, GenericArray.length_bytes, hlen] at hl
      exact List.length_eq_zero_iff.mp (by omega)
    rw [hcat, hrest, List.append_nil]

end Codec

end Lib
