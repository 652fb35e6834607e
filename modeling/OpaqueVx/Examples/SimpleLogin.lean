import Mathlib.Data.List.AList
import OpaqueVx.Examples.Console
import OpaqueVx.Examples.OverTheWire

/-! # The login program

  A console that registers users and lets them log in. It keeps a record for each user,
  and what it prints is what a console prints that keeps the passwords themselves and
  compares them: for every sequence of lines, and of random bytes, that it gets through
  without a panic, up to a login in which the server reflects an element or the calls
  contain a collision. -/

namespace OpaqueVx.Examples

open Lib

namespace SimpleLogin

section program

variable {CS : CipherSuite} [DiffieHellman CS.KeGroup]

variable (CS) in
abbrev ServerRegistrationLen : Nat :=
  CS.KeGroup.PkLen + CS.OprfHash.outputSize + CS.EnvelopeLen

/-- `account_registration`. -/
def accountRegistration (serverSetup : LocalSetup CS) (username password : String) :
    RngM Empty (GenericArray (ServerRegistrationLen CS)) := do
  let (_, passwordFile) ← registration serverSetup (asBytes username) (asBytes password)
  return passwordFile.serialize

/-- `account_login`. -/
def accountLogin (serverSetup : LocalSetup CS) (username password : String)
    (passwordFileBytes : Bytes) : RngM Empty Bool := do
  let result ← login serverSetup (asBytes username) (asBytes password) passwordFileBytes
  match result with
  | none => return false
  | some (clientFinish, serverFinish) =>
    return clientFinish.sessionKey == serverFinish.sessionKey

/-- The records of the registered users. -/
abbrev RegisteredUsers (CS : CipherSuite) :=
  AList fun _ : String => GenericArray (ServerRegistrationLen CS)

/-- What is printed at the top of the loop. -/
def display (usernames : List String) : List Printed :=
  [.usernames usernames.toFinset, .line "Enter an option (1 or 2):", .line "1) Register a user",
    .line "2) Login as a user\n"]

/-- The body of the loop of `main`. -/
def console (serverSetup : LocalSetup CS) : Console (RngM Empty) (RegisteredUsers CS) where
  display registeredUsers := display registeredUsers.keys
  queries _ := ("Username", "Password")
  act
    | .one, username, password, registeredUsers => do
      let passwordFileBytes ← accountRegistration serverSetup username password
      return (registeredUsers.insert username passwordFileBytes, [])
    | .two, username, password, registeredUsers =>
      match registeredUsers.lookup username with
      | some passwordFileBytes => do
        let success ← accountLogin serverSetup username password passwordFileBytes.bytes
        if success then
          return (registeredUsers, [.line "\nLogin success!"])
        else
          return (registeredUsers, [.line "\nIncorrect password, please try again."])
      | none => return (registeredUsers, [.line "Error: Could not find username registered"])

variable (CS) in
/-- `main`, on the lines that are typed in. -/
def main (fuel : Nat) (lines : List Readline) : RngM Empty (List Printed) := do
  let serverSetup : LocalSetup CS ← unwrapM (ServerSetup.new fuel)
  (console serverSetup).main ∅ lines

end program

/-! ### What the program is for -/

/-- The console of a server that keeps the passwords. -/
def passwordTable : Console Id (AList fun _ : String => String) where
  display passwords := display passwords.keys
  queries _ := ("Username", "Password")
  act
    | .one, username, password, passwords => (passwords.insert username password, [])
    | .two, username, password, passwords =>
      match passwords.lookup username with
      | some registered =>
        if password = registered then
          (passwords, [.line "\nLogin success!"])
        else
          (passwords, [.line "\nIncorrect password, please try again."])
      | none => (passwords, [.line "Error: Could not find username registered"])

section runs

variable {CS : CipherSuite}

/-- The step `y` makes the registration `R`, of a user with a password. -/
structure Registers (serverSetup : LocalSetup CS) (y : Console.Step (RegisteredUsers CS))
    (username password : String) (R : Registration CS) : Prop where
  acts : y.acts = some (.one, username, password)
  user : R.user = account serverSetup (asBytes username) (asBytes password)
  made : ∃ r', (registration serverSetup (asBytes username) (asBytes password)).run y.gen =
    .ok ((R.result, R.record), r')

/-- Every record was made by a step with the password in the table. -/
structure Keeps (serverSetup : LocalSetup CS) (past : List (Console.Step (RegisteredUsers CS)))
    (registeredUsers : RegisteredUsers CS) (passwords : AList fun _ : String => String) : Prop where
  keys : registeredUsers.keys = passwords.keys
  records : ∀ username passwordFileBytes,
    registeredUsers.lookup username = some passwordFileBytes →
    ∃ password, passwords.lookup username = some password ∧
      ∃ y ∈ past, ∃ R, Registers serverSetup y username password R ∧
        passwordFileBytes = R.record.serialize

variable {serverSetup : LocalSetup CS} {past : List (Console.Step (RegisteredUsers CS))}
  {registeredUsers : RegisteredUsers CS} {passwords : AList fun _ : String => String}

theorem Keeps.lookup_eq_none (h : Keeps serverSetup past registeredUsers passwords)
    {username : String} (hnone : registeredUsers.lookup username = none) :
    passwords.lookup username = none := by
  rw [AList.lookup_eq_none] at hnone ⊢
  rw [AList.mem_keys, h.keys, ← AList.mem_keys] at hnone
  exact hnone

theorem Keeps.append (h : Keeps serverSetup past registeredUsers passwords)
    (x : Console.Step (RegisteredUsers CS)) :
    Keeps serverSetup (past ++ [x]) registeredUsers passwords where
  keys := h.keys
  records := by
    intro username passwordFileBytes hlookup
    obtain ⟨password, hpassword, y, hy, hmade⟩ := h.records username passwordFileBytes hlookup
    exact ⟨password, hpassword, y, List.mem_append_left _ hy, hmade⟩

/-- A registration replaces the record of the user and leaves the others. -/
theorem Keeps.insert (h : Keeps serverSetup past registeredUsers passwords)
    {x : Console.Step (RegisteredUsers CS)} {username password : String} {R : Registration CS}
    (hmade : Registers serverSetup x username password R) :
    Keeps serverSetup (past ++ [x]) (registeredUsers.insert username R.record.serialize)
      (passwords.insert username password) where
  keys := by rw [AList.keys_insert, AList.keys_insert, h.keys]
  records := by
    intro username' passwordFileBytes hlookup
    by_cases hsame : username' = username
    · subst hsame
      rw [AList.lookup_insert] at hlookup
      injection hlookup with hlookup
      exact ⟨password, AList.lookup_insert _, x, by simp, R, hmade, hlookup.symm⟩
    · rw [AList.lookup_insert_ne hsame] at hlookup
      rw [AList.lookup_insert_ne hsame]
      exact (h.append x).records username' passwordFileBytes hlookup

variable [DiffieHellman CS.KeGroup]

/-- A login with the record of a registration that an earlier step made, which reflects an
    element or contains a collision. -/
def ExceptionalLogin (serverSetup : LocalSetup CS) (past : List (Console.Step (RegisteredUsers CS)))
    (x : Console.Step (RegisteredUsers CS)) : Prop :=
  ∃ username password, x.acts = some (.two, username, password) ∧
    ∃ y ∈ past, ∃ registered R, Registers serverSetup y username registered R ∧
      x.state.2.lookup username = some R.record.serialize ∧
      Exceptional serverSetup (asBytes username) (asBytes password) R x.gen

/-- A login prints whether the password is that of the table. -/
theorem accountLogin_eq (h : SuiteLaws CS)
    (hpair : serverSetup.keypair.pk = CS.KeGroup.publicKey serverSetup.keypair.sk)
    {username password registered : String} {R : Registration CS}
    (huser : R.user = account serverSetup (asBytes username) (asBytes registered))
    {success : Bool} {r r' : Rng}
    (hrun : (accountLogin serverSetup username password R.record.serialize.bytes).run r =
      .ok (success, r'))
    (hno : ¬ Exceptional serverSetup (asBytes username) (asBytes password) R r) :
    success = decide (password = registered) := by
  obtain ⟨result, r₁, hlogin, hend⟩ := run_bind_eq_ok.mp hrun
  obtain ⟨hright, hwrong⟩ := login_correct h huser hpair hlogin hno
  by_cases hpassword : password = registered
  · obtain ⟨clientFinish, serverFinish, rfl, hkeys, -⟩ := hright (asBytes_inj.mpr hpassword)
    simp only [StateT.run_pure, Outcome.pure_eq, Outcome.ok.injEq, Prod.mk.injEq] at hend
    rw [← hend.1, hkeys]
    simp [hpassword]
  · have hnone := hwrong (fun hbytes => hpassword (asBytes_inj.mp hbytes))
    subst hnone
    simp only [StateT.run_pure, Outcome.pure_eq, Outcome.ok.injEq, Prod.mk.injEq] at hend
    rw [← hend.1]
    simp [hpassword]

theorem console_refines (h : SuiteLaws CS)
    (hpair : serverSetup.keypair.pk = CS.KeGroup.publicKey serverSetup.keypair.sk) :
    (console serverSetup).Refines passwordTable (Keeps serverSetup)
      (ExceptionalLogin serverSetup) where
  display := by
    intro past s t hkeeps
    show display s.keys = display t.keys
    rw [hkeeps.keys]
  queries := rfl
  idle := by
    intro past x s t hkeeps
    exact hkeeps.append x
  act := by
    intro past users passwords choice username password r users' out r' hkeeps hact hno
    cases choice with
    -- The password file is the record of a registration, which the account is to remember.
    | one =>
      obtain ⟨passwordFileBytes, r₁, hregister, hend⟩ := run_bind_eq_ok.mp hact
      obtain ⟨⟨result, record⟩, r₂, hmade, hbytes⟩ := run_bind_eq_ok.mp hregister
      simp only [StateT.run_pure, Outcome.pure_eq, Outcome.ok.injEq, Prod.mk.injEq] at hend hbytes
      obtain ⟨⟨rfl, rfl⟩, rfl⟩ := hend
      obtain ⟨rfl, rfl⟩ := hbytes
      obtain ⟨R, huser, rfl, rfl⟩ := exists_registration h hmade
      refine ⟨rfl, ?_⟩
      exact hkeeps.insert ⟨rfl, huser, r₂, hmade⟩
    | two =>
      cases hlookup : users.lookup username with
      | none =>
        simp only [console, hlookup, StateT.run_pure, Outcome.pure_eq, Outcome.ok.injEq,
          Prod.mk.injEq] at hact
        obtain ⟨⟨rfl, rfl⟩, rfl⟩ := hact
        simp only [passwordTable, hkeeps.lookup_eq_none hlookup, true_and]
        exact hkeeps.append _
      | some passwordFileBytes =>
        simp only [console, hlookup] at hact
        obtain ⟨success, r₁, hlogin, hend⟩ := run_bind_eq_ok.mp hact
        obtain ⟨registered, hpassword, y, hy, R, hmade, rfl⟩ := hkeeps.records _ _ hlookup
        -- An exceptional login under this name would be one of the run.
        have hgood : ¬ Exceptional serverSetup (asBytes username) (asBytes password) R r := by
          intro hexceptional
          exact hno ⟨username, password, rfl, y, hy, registered, R, hmade, hlookup, hexceptional⟩
        have hsuccess := accountLogin_eq h hpair hmade.user hlogin hgood
        simp only [passwordTable, hpassword]
        by_cases hsame : password = registered
        · rw [if_pos (by rw [hsuccess]; simp [hsame])] at hend
          simp only [StateT.run_pure, Outcome.pure_eq, Outcome.ok.injEq, Prod.mk.injEq] at hend
          obtain ⟨⟨rfl, rfl⟩, rfl⟩ := hend
          rw [if_pos hsame]
          exact ⟨rfl, hkeeps.append _⟩
        · rw [if_neg (by rw [hsuccess]; simp [hsame])] at hend
          simp only [StateT.run_pure, Outcome.pure_eq, Outcome.ok.injEq, Prod.mk.injEq] at hend
          obtain ⟨⟨rfl, rfl⟩, rfl⟩ := hend
          rw [if_neg hsame]
          exact ⟨rfl, hkeeps.append _⟩

/-- Whatever is typed in, a program that gets through it without a panic has printed what
    the table of passwords prints, unless a login of the run is exceptional. -/
theorem simple_login_prints (h : SuiteLaws CS) {fuel : Nat} {lines : List Readline} {r r' : Rng}
    {printed : List Printed} (hrun : (main CS fuel lines).run r = .ok (printed, r')) :
    ∃ (serverSetup : LocalSetup CS) (r₁ : Rng),
      (ServerSetup.new fuel).run r = .ok (serverSetup, r₁) ∧
      (printed = passwordTable.main ∅ lines ∨
        Encounters (ExceptionalLogin serverSetup)
          (Interactive.steps (console serverSetup).step (.menu, ∅) r₁ lines)) := by
  obtain ⟨serverSetup, r₁, hnew, hrun⟩ := run_unwrapM_bind_eq_ok.mp hrun
  refine ⟨serverSetup, r₁, hnew, ?_⟩
  rcases Classical.em (Encounters (ExceptionalLogin serverSetup)
    (Interactive.steps (console serverSetup).step (.menu, ∅) r₁ lines)) with hbad | hno
  · exact .inr hbad
  · left
    have hempty : Keeps serverSetup [] ∅ ∅ :=
      { keys := rfl
        records := by
          intro username passwordFileBytes hlookup
          rw [AList.lookup_empty] at hlookup
          cases hlookup }
    exact ((console_refines h (keypair_of_new hnew)).main hempty hrun hno).symm

end runs

/-- A user registers, logs in, and gives a wrong password. -/
def aliceLogsIn : List Readline :=
  [.ok "3", .ok "1", .ok "alice", .ok "secret", .ok "2", .ok "alice", .ok "secret", .ok "2",
    .ok "alice", .ok "guess", .ok "2", .ok "bob", .ok "secret", .error .eof]

def aliceRun : List Printed × Rng :=
  ((main Reference.wideSuite 1 aliceLogsIn).run Reference.rng).toOption.get (by decide +kernel)

theorem run_alice : (main Reference.wideSuite 1 aliceLogsIn).run Reference.rng =
    .ok (aliceRun.1, aliceRun.2) := by
  rw [Prod.mk.eta]
  exact Outcome.toOption_eq_some.mp (Option.some_get _).symm

theorem simple_login_prints_reference :
    ∃ (serverSetup : LocalSetup Reference.wideSuite) (r₁ : Rng),
      (ServerSetup.new 1).run Reference.rng = .ok (serverSetup, r₁) ∧
      (aliceRun.1 = passwordTable.main ∅ aliceLogsIn ∨
        Encounters (ExceptionalLogin serverSetup)
          (Interactive.steps (console serverSetup).step (.menu, ∅) r₁ aliceLogsIn)) :=
  simple_login_prints Reference.wideSuite_laws run_alice

example : aliceRun.1 = passwordTable.main ∅ aliceLogsIn := by decide +kernel

end SimpleLogin

end OpaqueVx.Examples
