import OpaqueVx.Examples.Console
import OpaqueVx.Examples.OverTheWire

/-! # The locker program

  A console that keeps messages in lockers. A message is encrypted under the export key of
  a registration, and on its way back once more under the session key of a login. What the
  program prints is what a console prints that keeps the passwords and the messages, and
  opens a locker to its password: for every sequence of lines, and of random bytes, that
  it gets through without a panic, up to a login in which the server reflects an element
  or the calls contain a collision. -/

namespace OpaqueVx.Examples

open Lib

namespace DigitalLocker

/-! ### Encryption -/

/-- `ChaCha20Poly1305`. -/
structure Aead where
  encrypt : GenericArray 32 → GenericArray 12 → Bytes → Outcome Unit Bytes
  decrypt : GenericArray 32 → GenericArray 12 → Bytes → Outcome Unit Bytes

/-- What was encrypted is decrypted with the same key and nonce. -/
def Aead.Decrypts (A : Aead) : Prop :=
  ∀ key nonce plaintext ciphertext, A.encrypt key nonce plaintext = .ok ciphertext →
    A.decrypt key nonce ciphertext = .ok plaintext

/-- The first bytes of a slice, as an array: `try_from(&bytes[..n]).unwrap()`. -/
def firstBytes (n : Nat) (bytes : Bytes) : Outcome Empty (GenericArray n) :=
  if h : n ≤ bytes.length then .ok ⟨bytes.take n, by simp [h]⟩ else .panicked

theorem firstBytes_append {n : Nat} (a : GenericArray n) (bytes : Bytes) :
    firstBytes n (a.bytes ++ bytes) = .ok a := by
  have hlen : n ≤ (a.bytes ++ bytes).length := by simp [a.size]
  rw [firstBytes, dif_pos hlen]
  congr 1
  apply GenericArray.bytes_injective
  show (a.bytes ++ bytes).take n = a.bytes
  rw [List.take_append_of_le_length (by simp [a.size]), List.take_of_length_le (by simp [a.size])]

variable (A : Aead)

/-- `encrypt`. -/
def encrypt (key plaintext : Bytes) : RngM Empty Bytes := do
  let cipherKey ← (firstBytes 32 key : Outcome Empty _)
  let nonceBytes ← fillBytes 12
  let ciphertext ← unwrap (A.encrypt cipherKey nonceBytes plaintext)
  return nonceBytes.bytes ++ ciphertext

/-- `decrypt`. -/
def decrypt (key ciphertext : Bytes) : RngM Empty Bytes := do
  let cipherKey ← (firstBytes 32 key : Outcome Empty _)
  let nonceBytes ← (firstBytes 12 ciphertext : Outcome Empty _)
  unwrap (A.decrypt cipherKey nonceBytes (ciphertext.drop 12))

variable {A}

/-- What was encrypted under a key is decrypted under it, later and without another
    draw. -/
theorem run_decrypt_of_encrypt (h : A.Decrypts) {key plaintext ciphertext : Bytes} {r r' : Rng}
    (hrun : (encrypt A key plaintext).run r = .ok (ciphertext, r')) (r₁ : Rng) :
    (decrypt A key ciphertext).run r₁ = .ok (plaintext, r₁) := by
  obtain ⟨cipherKey, hkey, hrun⟩ := run_lift_bind_eq_ok.mp hrun
  obtain ⟨nonceBytes, r₂, -, hrun⟩ := run_bind_eq_ok.mp hrun
  obtain ⟨sealed, hsealed, hrun⟩ := run_unwrap_bind_eq_ok.mp hrun
  simp only [StateT.run_pure, Outcome.pure_eq, Outcome.ok.injEq, Prod.mk.injEq] at hrun
  obtain ⟨rfl, rfl⟩ := hrun
  apply run_lift_bind_eq_ok.mpr
  refine ⟨cipherKey, hkey, ?_⟩
  apply run_lift_bind_eq_ok.mpr
  refine ⟨nonceBytes, firstBytes_append nonceBytes sealed, ?_⟩
  have hrest : (nonceBytes.bytes ++ sealed).drop 12 = sealed := by
    rw [List.drop_left' nonceBytes.size]
  rw [hrest]
  apply run_lift_eq_ok.mpr
  exact ⟨Outcome.unwrap_eq_ok.mpr (h _ _ _ _ hsealed), rfl⟩

/-! ### Lockers -/

/-- `String::from_utf8`. -/
def fromUtf8 (bytes : Bytes) : Option String := String.fromUTF8? ⟨bytes.toArray⟩

theorem fromUtf8_asBytes (s : String) : fromUtf8 (asBytes s) = some s := by
  have hbytes : (⟨(asBytes s).toArray⟩ : ByteArray) = s.toByteArray := rfl
  rw [fromUtf8, hbytes, String.fromUTF8?, dif_pos s.isValidUTF8]
  rfl

/-- One more digit of a number of 64 bits. -/
def pushDigit (n : Nat) (c : Char) : Option Nat :=
  if c.isDigit then
    let n' := n * 10 + (c.toNat - '0'.toNat)
    if n' < 2 ^ 64 then some n' else none
  else none

/-- `parse`, for `usize`. -/
def parse (s : String) : Option Nat :=
  match s.toList with
  | [] => none
  | ['+'] => none
  | '+' :: digits => digits.foldlM pushDigit 0
  | digits => digits.foldlM pushDigit 0

structure Locker where
  contents : Bytes
  passwordFile : Bytes

section program

variable {CS : CipherSuite} [DiffieHellman CS.KeGroup] (A : Aead)

/-- `to_be_bytes`, for `usize`. -/
def toBeBytes (n : Nat) : Bytes := beBytes sizeofUsize n

/-- `register_locker`. -/
def registerLocker (serverSetup : LocalSetup CS) (lockerId : Nat)
    (password secretMessage : String) : RngM Empty Locker := do
  let (clientFinish, passwordFile) ←
    registration serverSetup (toBeBytes lockerId) (asBytes password)
  -- Nothing is drawn between the client's last step and the encryption.
  let ciphertext ← encrypt A clientFinish.exportKey.bytes (asBytes secretMessage)
  return { contents := ciphertext, passwordFile := passwordFile.serialize.bytes }

/-- `open_locker`. -/
def openLocker (serverSetup : LocalSetup CS) (lockerId : Nat) (password : String)
    (locker : Locker) : RngM Empty (Except String String) := do
  let result ← login serverSetup (toBeBytes lockerId) (asBytes password) locker.passwordFile
  match result with
  | none => return .error "Incorrect password, please try again."
  | some (clientFinish, serverFinish) =>
    -- Server sends locker contents, encrypted under the session key, to the client
    let encryptedLockerContents ← encrypt A serverFinish.sessionKey.bytes locker.contents
    let ciphertext ← decrypt A clientFinish.sessionKey.bytes encryptedLockerContents
    let plaintext ← decrypt A clientFinish.exportKey.bytes ciphertext
    match fromUtf8 plaintext with
    | some contents => return .ok contents
    | none => return .error "UTF8 error"

/-- `display_lockers`, and the options. -/
def display (lockers : Nat) : List Printed :=
  let lockerNumbers := ", ".intercalate ((List.range lockers).map fun i => toString i)
  [.line ("\nCurrently registered locker numbers: [" ++ lockerNumbers ++ "]\n"),
    .line "Enter an option (1 or 2):", .line "1) Register a locker", .line "2) Open a locker\n"]

def queries : Choice → String × String
  | .one => ("Choose a password", "Set a secret message")
  | .two => ("Choose a locker number", "Enter the password")

def notFound : Printed := .line "Error: Could not find locker number"

/-- What is printed of an attempt to open a locker. -/
def opened : Except String String → Printed
  | .ok contents => .line ("\n\nSuccess! Contents: " ++ contents ++ "\n\n")
  | .error err => .line ("\n\nError encountered, could not open locker: " ++ err ++ "\n\n")

/-- The body of the loop of `main`. -/
def console (serverSetup : LocalSetup CS) : Console (RngM Empty) (List Locker) where
  display registeredLockers := display registeredLockers.length
  queries := queries
  act
    | .one, password, secretMessage, registeredLockers => do
      let lockerId := registeredLockers.length
      let locker ← registerLocker A serverSetup lockerId password secretMessage
      return (registeredLockers ++ [locker], [])
    | .two, locker, password, registeredLockers =>
      match parse locker with
      | none => return (registeredLockers, [notFound])
      | some lockerIndex =>
        match registeredLockers[lockerIndex]? with
        | none => return (registeredLockers, [notFound])
        | some locker => do
          let result ← openLocker A serverSetup lockerIndex password locker
          return (registeredLockers, [opened result])

variable (CS) in
/-- `main`, on the lines that are typed in. -/
def main (fuel : Nat) (lines : List Readline) : RngM Empty (List Printed) := do
  let serverSetup : LocalSetup CS ← unwrapM (ServerSetup.new fuel)
  (console A serverSetup).main [] lines

end program

/-! ### What the program is for -/

/-- A locker with its password. -/
structure OpenLocker where
  password : String
  secretMessage : String

/-- The console of a server that keeps the passwords and the messages. -/
def lockerTable : Console Id (List OpenLocker) where
  display lockers := display lockers.length
  queries := queries
  act
    | .one, password, secretMessage, lockers => (lockers ++ [⟨password, secretMessage⟩], [])
    | .two, locker, password, lockers =>
      match (parse locker).bind fun i => lockers[i]? with
      | none => (lockers, [notFound])
      | some locker =>
        if password = locker.password then
          (lockers, [opened (.ok locker.secretMessage)])
        else
          (lockers, [opened (.error "Incorrect password, please try again.")])

section runs

variable {CS : CipherSuite} {A : Aead}

/-- The step `y` makes the registration `R`, of the locker with a number. -/
structure Registers (serverSetup : LocalSetup CS) (y : Console.Step (List Locker)) (lockerId : Nat)
    (opened : OpenLocker) (R : Registration CS) : Prop where
  acts : y.acts = some (.one, opened.password, opened.secretMessage)
  number : y.state.2.length = lockerId
  user : R.user = account serverSetup (toBeBytes lockerId) (asBytes opened.password)
  made : ∃ r', (registration serverSetup (toBeBytes lockerId) (asBytes opened.password)).run y.gen =
    .ok ((R.result, R.record), r')

/-- A locker has the record of a registration, and a message under its export key. -/
structure Seals (A : Aead) (locker : Locker) (opened : OpenLocker) (R : Registration CS) :
    Prop where
  passwordFile : locker.passwordFile = R.record.serialize.bytes
  contents : ∃ r r', (encrypt A R.result.exportKey.bytes (asBytes opened.secretMessage)).run r =
    .ok (locker.contents, r')

/-- Every locker was made by a step with the password and the message in the table. -/
structure Keeps (A : Aead) (serverSetup : LocalSetup CS) (past : List (Console.Step (List Locker)))
    (lockers : List Locker) (table : List OpenLocker) : Prop where
  length : lockers.length = table.length
  lockers : ∀ i locker, lockers[i]? = some locker → ∃ opened, table[i]? = some opened ∧
    ∃ y ∈ past, ∃ R, Registers serverSetup y i opened R ∧ Seals A locker opened R

variable {serverSetup : LocalSetup CS} {past : List (Console.Step (List Locker))}
  {lockers : List Locker} {table : List OpenLocker}

theorem Keeps.getElem?_eq_none (h : Keeps A serverSetup past lockers table) {i : Nat}
    (hnone : lockers[i]? = none) : table[i]? = none := by
  rw [List.getElem?_eq_none_iff] at hnone ⊢
  have hlen := h.length
  omega

theorem Keeps.append (h : Keeps A serverSetup past lockers table)
    (x : Console.Step (List Locker)) : Keeps A serverSetup (past ++ [x]) lockers table where
  length := h.length
  lockers := by
    intro i locker hlocker
    obtain ⟨opened, hopened, y, hy, hmade⟩ := h.lockers i locker hlocker
    exact ⟨opened, hopened, y, List.mem_append_left _ hy, hmade⟩

/-- A registration adds a locker after the others. -/
theorem Keeps.push (h : Keeps A serverSetup past lockers table) {x : Console.Step (List Locker)}
    {locker : Locker} {opened : OpenLocker} {R : Registration CS}
    (hmade : Registers serverSetup x lockers.length opened R) (hseals : Seals A locker opened R) :
    Keeps A serverSetup (past ++ [x]) (lockers ++ [locker]) (table ++ [opened]) where
  length := by simp [h.length]
  lockers := by
    intro i locker' hlocker
    rcases Nat.lt_trichotomy i lockers.length with hlt | heq | hgt
    · have htable : i < table.length := by rw [← h.length]; exact hlt
      rw [List.getElem?_append_left hlt] at hlocker
      rw [List.getElem?_append_left htable]
      exact (h.append x).lockers i locker' hlocker
    · subst heq
      rw [List.getElem?_concat_length] at hlocker
      injection hlocker with hlocker
      subst hlocker
      refine ⟨opened, ?_, x, by simp, R, hmade, hseals⟩
      rw [h.length, List.getElem?_concat_length]
    · rw [List.getElem?_eq_none (by simp; omega)] at hlocker
      cases hlocker

variable [DiffieHellman CS.KeGroup]

/-- A login with the record of a locker that an earlier step made, which reflects an
    element or contains a collision. -/
def ExceptionalLogin (A : Aead) (serverSetup : LocalSetup CS)
    (past : List (Console.Step (List Locker))) (x : Console.Step (List Locker)) : Prop :=
  ∃ lockerNumber password lockerIndex, x.acts = some (.two, lockerNumber, password) ∧
    parse lockerNumber = some lockerIndex ∧
    ∃ y ∈ past, ∃ opened R locker, Registers serverSetup y lockerIndex opened R ∧
      x.state.2[lockerIndex]? = some locker ∧ Seals A locker opened R ∧
      Exceptional serverSetup (toBeBytes lockerIndex) (asBytes password) R x.gen

/-- A locker opens to its password, and to no other. -/
theorem openLocker_eq (h : SuiteLaws CS) (hA : A.Decrypts)
    (hpair : serverSetup.keypair.pk = CS.KeGroup.publicKey serverSetup.keypair.sk)
    {lockerIndex : Nat} {password : String} {locker : Locker} {sealed : OpenLocker}
    {R : Registration CS}
    (huser : R.user = account serverSetup (toBeBytes lockerIndex) (asBytes sealed.password))
    (hseals : Seals A locker sealed R) {result : Except String String} {r r' : Rng}
    (hrun : (openLocker A serverSetup lockerIndex password locker).run r = .ok (result, r'))
    (hno : ¬ Exceptional serverSetup (toBeBytes lockerIndex) (asBytes password) R r) :
    result = if password = sealed.password then .ok sealed.secretMessage
      else .error "Incorrect password, please try again." := by
  obtain ⟨loggedIn, r₁, hlogin, hrun⟩ := run_bind_eq_ok.mp hrun
  rw [hseals.passwordFile] at hlogin
  obtain ⟨hright, hwrong⟩ := login_correct h huser hpair hlogin hno
  by_cases hpassword : password = sealed.password
  · rw [if_pos hpassword]
    obtain ⟨clientFinish, serverFinish, rfl, hkeys, hexport⟩ := hright (asBytes_inj.mpr hpassword)
    obtain ⟨encrypted, r₂, hencrypted, hrun⟩ := run_bind_eq_ok.mp hrun
    obtain ⟨ciphertext, r₃, houter, hrun⟩ := run_bind_eq_ok.mp hrun
    obtain ⟨plaintext, r₄, hinner, hrun⟩ := run_bind_eq_ok.mp hrun
    -- The outer layer is under one session key, the inner one under the export key.
    rw [hkeys, run_decrypt_of_encrypt hA hencrypted] at houter
    injection houter with houter
    obtain ⟨rfl, rfl⟩ := Prod.mk.inj houter
    obtain ⟨r₅, r₆, hcontents⟩ := hseals.contents
    rw [hexport, run_decrypt_of_encrypt hA hcontents] at hinner
    injection hinner with hinner
    obtain ⟨rfl, rfl⟩ := Prod.mk.inj hinner
    simp only [fromUtf8_asBytes, StateT.run_pure, Outcome.pure_eq, Outcome.ok.injEq,
      Prod.mk.injEq] at hrun
    exact hrun.1.symm
  · rw [if_neg hpassword]
    have hnone := hwrong (fun hbytes => hpassword (asBytes_inj.mp hbytes))
    subst hnone
    simp only [StateT.run_pure, Outcome.pure_eq, Outcome.ok.injEq, Prod.mk.injEq] at hrun
    exact hrun.1.symm

theorem console_refines (h : SuiteLaws CS) (hA : A.Decrypts)
    (hpair : serverSetup.keypair.pk = CS.KeGroup.publicKey serverSetup.keypair.sk) :
    (console A serverSetup).Refines lockerTable (Keeps A serverSetup)
      (ExceptionalLogin A serverSetup) where
  display := by
    intro past s t hkeeps
    show display s.length = display t.length
    rw [hkeeps.length]
  queries := rfl
  idle := by
    intro past x s t hkeeps
    exact hkeeps.append x
  act := by
    intro past lockers table choice string1 string2 r lockers' out r' hkeeps hact hno
    cases choice with
    -- The new locker is sealed under the export key of the registration that it is kept with.
    | one =>
      obtain ⟨locker, r₁, hregister, hend⟩ := run_bind_eq_ok.mp hact
      obtain ⟨⟨result, record⟩, r₂, hmade, hregister⟩ := run_bind_eq_ok.mp hregister
      obtain ⟨ciphertext, r₃, hcontents, hlocker⟩ := run_bind_eq_ok.mp hregister
      simp only [StateT.run_pure, Outcome.pure_eq, Outcome.ok.injEq, Prod.mk.injEq] at hend hlocker
      obtain ⟨⟨rfl, rfl⟩, rfl⟩ := hend
      obtain ⟨rfl, rfl⟩ := hlocker
      obtain ⟨R, huser, rfl, rfl⟩ := exists_registration h hmade
      refine ⟨rfl, ?_⟩
      exact hkeeps.push ⟨rfl, rfl, huser, r₂, hmade⟩ ⟨rfl, r₂, r₃, hcontents⟩
    | two =>
      -- No branch of the second option changes a locker, and each prints one line.
      have hidle := hkeeps.append
        ⟨(.strings .two (some string1), lockers), .ok string2, r⟩
      have hquiet : ∀ line, lockers' = lockers → out = [line] →
          (lockerTable.act .two string1 string2 table) = (table, [line]) →
          (lockerTable.act .two string1 string2 table).2 = out ∧
            Keeps A serverSetup
              (past ++ [⟨(.strings .two (some string1), lockers), .ok string2, r⟩]) lockers'
              (lockerTable.act .two string1 string2 table).1 := by
        rintro line rfl rfl htable
        rw [htable]
        exact ⟨rfl, hidle⟩
      cases hparse : parse string1 with
      | none =>
        simp only [console, hparse, StateT.run_pure, Outcome.pure_eq, Outcome.ok.injEq,
          Prod.mk.injEq] at hact
        apply hquiet notFound hact.1.1.symm hact.1.2.symm
        simp only [lockerTable, hparse, Option.bind_none]
      | some lockerIndex =>
        cases hlookup : lockers[lockerIndex]? with
        | none =>
          simp only [console, hparse, hlookup, StateT.run_pure, Outcome.pure_eq, Outcome.ok.injEq,
            Prod.mk.injEq] at hact
          apply hquiet notFound hact.1.1.symm hact.1.2.symm
          simp only [lockerTable, hparse, Option.bind_some, hkeeps.getElem?_eq_none hlookup]
        | some locker =>
          simp only [console, hparse, hlookup] at hact
          obtain ⟨result, r₁, hopen, hend⟩ := run_bind_eq_ok.mp hact
          simp only [StateT.run_pure, Outcome.pure_eq, Outcome.ok.injEq, Prod.mk.injEq] at hend
          obtain ⟨sealed, htable, y, hy, R, hmade, hseals⟩ := hkeeps.lockers _ _ hlookup
          -- An exceptional login at this position would be one of the run.
          have hgood : ¬ Exceptional serverSetup (toBeBytes lockerIndex) (asBytes string2) R r := by
            intro hexceptional
            exact hno ⟨string1, string2, lockerIndex, rfl, hparse, y, hy, sealed, R, locker, hmade,
              hlookup, hseals, hexceptional⟩
          have hresult := openLocker_eq h hA hpair hmade.user hseals hopen hgood
          apply hquiet (opened result) hend.1.1.symm hend.1.2.symm
          simp only [lockerTable, hparse, Option.bind_some, htable, hresult]
          by_cases hsame : string2 = sealed.password
          · rw [if_pos hsame, if_pos hsame]
          · rw [if_neg hsame, if_neg hsame]

/-- Whatever is typed in, a program that gets through it without a panic has printed what
    the table of lockers prints, unless a login of the run is exceptional. -/
theorem digital_locker_prints (h : SuiteLaws CS) (hA : A.Decrypts) {fuel : Nat}
    {lines : List Readline} {r r' : Rng} {printed : List Printed}
    (hrun : (main CS A fuel lines).run r = .ok (printed, r')) :
    ∃ (serverSetup : LocalSetup CS) (r₁ : Rng),
      (ServerSetup.new fuel).run r = .ok (serverSetup, r₁) ∧
      (printed = lockerTable.main [] lines ∨
        Encounters (ExceptionalLogin A serverSetup)
          (Interactive.steps (console A serverSetup).step (.menu, []) r₁ lines)) := by
  obtain ⟨serverSetup, r₁, hnew, hrun⟩ := run_unwrapM_bind_eq_ok.mp hrun
  refine ⟨serverSetup, r₁, hnew, ?_⟩
  rcases Classical.em (Encounters (ExceptionalLogin A serverSetup)
    (Interactive.steps (console A serverSetup).step (.menu, []) r₁ lines)) with hbad | hno
  · exact .inr hbad
  · left
    have hempty : Keeps A serverSetup [] [] [] :=
      { length := rfl
        lockers := by
          intro i locker hlocker
          simp at hlocker }
    exact ((console_refines h hA (keypair_of_new hnew)).main hempty hrun hno).symm

end runs

/-! ### A run of the program -/

/-- The sum of the key and the nonce as a stream, and a checksum of 16 bytes. -/
def checksumAead : Aead where
  encrypt key nonce plaintext :=
    let ciphertext := plaintext.map fun b => b ^^^ Reference.mix (key.bytes ++ nonce.bytes)
    .ok (List.replicate 16 (Reference.mix (key.bytes ++ ciphertext)) ++ ciphertext)
  decrypt key nonce sealed :=
    let ciphertext := sealed.drop 16
    if sealed.take 16 = List.replicate 16 (Reference.mix (key.bytes ++ ciphertext)) then
      .ok (ciphertext.map fun b => b ^^^ Reference.mix (key.bytes ++ nonce.bytes))
    else .err ()

theorem checksumAead_decrypts : checksumAead.Decrypts := by
  intro key nonce plaintext ciphertext h
  simp only [checksumAead, Outcome.ok.injEq] at h
  subst h
  simp only [checksumAead]
  rw [List.take_left' (by simp), List.drop_left' (by simp), if_pos rfl, List.map_map]
  congr 1
  conv_rhs => rw [← List.map_id plaintext]
  apply List.map_congr_left
  intro b _
  show b ^^^ Reference.mix (key.bytes ++ nonce.bytes) ^^^
    Reference.mix (key.bytes ++ nonce.bytes) = b
  rw [UInt8.xor_assoc, UInt8.xor_self, UInt8.xor_zero]

/-- A locker is opened with its password, and with another. -/
def lockerIsOpened : List Readline :=
  [.ok "1", .ok "secret", .ok "hello", .ok "2", .ok "0", .ok "secret", .ok "2", .ok "+00",
    .ok "guess", .ok "2", .ok "1", .ok "secret", .ok "2", .ok "zero", .ok "secret",
    .error .interrupted]

def lockerRun : List Printed × Rng :=
  ((main Reference.wideSuite checksumAead 1 lockerIsOpened).run Reference.rng).toOption.get
    (by decide +kernel)

theorem run_locker : (main Reference.wideSuite checksumAead 1 lockerIsOpened).run Reference.rng =
    .ok (lockerRun.1, lockerRun.2) := by
  rw [Prod.mk.eta]
  exact Outcome.toOption_eq_some.mp (Option.some_get _).symm

theorem digital_locker_prints_reference :
    ∃ (serverSetup : LocalSetup Reference.wideSuite) (r₁ : Rng),
      (ServerSetup.new 1).run Reference.rng = .ok (serverSetup, r₁) ∧
      (lockerRun.1 = lockerTable.main [] lockerIsOpened ∨
        Encounters (ExceptionalLogin checksumAead serverSetup)
          (Interactive.steps (console checksumAead serverSetup).step (.menu, []) r₁
            lockerIsOpened)) :=
  digital_locker_prints Reference.wideSuite_laws checksumAead_decrypts run_locker

example : lockerRun.1 = lockerTable.main [] lockerIsOpened := by decide +kernel

end DigitalLocker

end OpaqueVx.Examples
