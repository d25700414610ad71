-- The accounts of users: registering, logging in, changing a password, and telling who a token
-- belongs to. Each operation is a run of small steps, since other calls may come in between.
import ServiceMesh.Account.Store
import ServiceMesh.Password.Argon2id
import ServiceMesh.Service.Operation
import ServiceMesh.Telemetry.Act
import ServiceMesh.Token.Signed

namespace ServiceMesh

/-- How passwords are hashed and checked. -/
structure PasswordScheme where
  /-- The hash of a password, the `n`-th that is made. -/
  hash : Nat → String → Except Failure String
  verify : (password hash : String) → Except Failure Bool

/-- A salt of 16 bytes, another one for every number. -/
def PasswordScheme.salt (n : Nat) : List UInt8 :=
  (List.range 16).map fun i => UInt8.ofNat (n / Nat.pow 256 i % 256)

/-- Hashes that say by themselves how they were made. -/
def PasswordScheme.argon2id : PasswordScheme where
  hash n password := .ok (Password.hash (salt n) password)
  verify password hash :=
    (Password.verify password hash).mapError fun f =>
      .internal ("Invalid password hash: " ++ f.message : String)

/-- How tokens are given out and read. Instants are in seconds since 1970. -/
structure TokenScheme where
  issue : (now : Int) → (username : String) → Except Crash String
  validate : (now : Int) → (token : String) → Except TokenFault Token.Claims
  expiresIn : Int

def TokenScheme.signed (key : Token.Key) : TokenScheme where
  issue := Token.issue key
  validate := Token.validate key
  expiresIn := key.expiry

structure Accounts.Setting (σ : Type) where
  store : UserStore σ
  passwords : PasswordScheme
  tokens : TokenScheme
  /-- The id of the `n`-th user that is made. -/
  newId : Nat → String

structure Accounts (σ : Type) where
  stored : σ
  /-- Seconds since 1970. -/
  now : Int
  /-- How many hashes were made. -/
  hashes : Nat := 0
  /-- How many users were made, taken by the store or not. -/
  made : Nat := 0
  /-- The tokens given out, in order. -/
  issued : List String := []

namespace Accounts

variable {σ : Type}

/-- What an operation comes to: a failure, or an answer that may be a rejection. -/
abbrev Result (α : Type) := Except Failure (Except UserRejection α)

/-! ## The steps that touch the accounts -/

def makeHash (setting : Setting σ) (password : String) :
    Act (Accounts σ) (Except Failure String) := do
  let n := (← Act.get).hashes
  Act.modify fun s => { s with hashes := n + 1 }
  return setting.passwords.hash n password

def consult {α : Type} (operation : σ → α × σ) : Act (Accounts σ) α := fun s =>
  let (r, stored) := operation s.stored
  ⟨.ok r, { s with stored }, []⟩

@[simp]
theorem run_makeHash (setting : Setting σ) (password : String) (a : Accounts σ) :
    (makeHash setting password).run a =
      ⟨.ok (setting.passwords.hash a.hashes password), { a with hashes := a.hashes + 1 }, []⟩ := rfl

@[simp]
theorem run_consult {α : Type} (operation : σ → α × σ) (a : Accounts σ) :
    (consult operation).run a =
      ⟨.ok (operation a.stored).1, { a with stored := (operation a.stored).2 }, []⟩ := rfl

/-! ## Registering -/

inductive RegisterStage where
  | hashing
  | inserting (hash : String)
  | ended (result : Result String)

/-- The next step of a registration. Nobody looks for the name beforehand: the store decides. -/
def RegisterStage.step (setting : Setting σ) (r : Registration) :
    RegisterStage → Act (Accounts σ) RegisterStage
  | .hashing => do
    match ← makeHash setting r.password with
    | .ok hash => return .inserting hash
    | .error f => return .ended (.error f)
  | .inserting hash => do
    let s ← Act.get
    let user : User := ⟨setting.newId s.made, r.username, r.nickname, hash, s.now * 1000⟩
    Act.modify fun s => { s with made := s.made + 1 }
    match ← consult (setting.store.insert user) with
    | .ok () => return .ended (.ok (.ok user.id))
    | .error .taken => return .ended (.ok (.error .usernameExists))
    | .error (.failed f) => return .ended (.error f)
  | .ended result => return .ended result

/-! ## Changing a password -/

inductive ChangeStage where
  | finding
  | verifying (user : User)
  | hashing (user : User)
  | replacing (user : User) (hash : String)
  | ended (result : Result Unit)

/-- The next step of a change. The new hash takes the place of the very hash that was verified,
so a change that came in between wins. -/
def ChangeStage.step (setting : Setting σ) (r : PasswordChange) :
    ChangeStage → Act (Accounts σ) ChangeStage
  | .finding => do
    match ← consult (setting.store.find r.username) with
    | .ok (some user) => return .verifying user
    | .ok none => return .ended (.ok (.error .mismatch))
    | .error f => return .ended (.error f)
  | .verifying user =>
    match setting.passwords.verify r.password user.passwordHash with
    | .ok true => return .hashing user
    | .ok false => return .ended (.ok (.error .mismatch))
    | .error f => return .ended (.error f)
  | .hashing user => do
    match ← makeHash setting r.newPassword with
    | .ok hash => return .replacing user hash
    | .error f => return .ended (.error f)
  | .replacing user hash => do
    match ← consult (setting.store.replaceHash r.username user.passwordHash hash) with
    | .ok (some _) => return .ended (.ok (.ok ()))
    | .ok none => return .ended (.ok (.error .mismatch))
    | .error f => return .ended (.error f)
  | .ended result => return .ended result

/-! ## The operations -/

/-- A user with a free name; the answer is the new id. -/
def register (setting : Setting σ) (r : Registration) : Act (Accounts σ) (Result String) := do
  let step := RegisterStage.step setting r
  match ← step (← step .hashing) with
  | .ended result => return result
  | _ => return .error (.internal "unfinished")

def login (setting : Setting σ) (r : Credentials) :
    Act (Accounts σ) (Result IssuedToken) := do
  match ← consult (setting.store.find r.username) with
  | .error f => return .error f
  | .ok none => return .ok (.error .notFound)
  | .ok (some user) =>
    match setting.passwords.verify r.password user.passwordHash with
    | .error f => return .error f
    | .ok false => return .ok (.error .wrongPassword)
    | .ok true =>
      match setting.tokens.issue (← Act.get).now user.username with
      | .error c => Act.crash c
      | .ok token =>
        Act.modify fun s => { s with issued := s.issued ++ [token] }
        return .ok (.ok ⟨token, setting.tokens.expiresIn⟩)

def updatePassword (setting : Setting σ) (r : PasswordChange) :
    Act (Accounts σ) (Result Unit) := do
  let step := ChangeStage.step setting r
  match ← step (← step (← step (← step .finding))) with
  | .ended result => return result
  | _ => return .error (.internal "unfinished")

def validToken (setting : Setting σ) (token : String) : Act (Accounts σ) (Result String) := do
  match setting.tokens.validate (← Act.get).now token with
  | .ok claims => return .ok (.ok claims.username)
  | .error fault =>
    Act.note [.log .debug "Token rejected" [("error", .text fault.message)]]
    return .ok (.error .invalidToken)

/-! ## What is counted and logged of a call -/

def outcome {α : Type} : Result α → String
  | .ok (.ok _) => "ok"
  | .ok (.error _) => "rejected"
  | .error _ => "error"

def trouble {α : Type} : Result α → Option String
  | .ok (.ok _) => none
  | .ok (.error e) => some (Rejection.message e)
  | .error f => some f.display

/-- The event of a call: whom it was about, and how it went. -/
def called {α : Type} (level : Level) (method : String)
    (subject onSuccess : List (String × FieldValue)) (r : Result α) : Note :=
  .log level "called" (("method", .text method) :: subject ++ match trouble r with
    | none => onSuccess
    | some text => [("err", .text text)])

def registerNotes (r : Registration) (result : Result String) : List Note :=
  let id := match result with
    | .ok (.ok id) => id
    | _ => ""
  [.counted "users_registered_total" [("outcome", outcome result)],
    called .info "register" [("username", .text r.username)] [("id", .text id)] result]

def loginNotes (r : Credentials) (result : Result IssuedToken) : List Note :=
  [.counted "user_logins_total" [("outcome", outcome result)],
    called .info "login" [("username", .text r.username)] [] result]

def updateNotes (r : PasswordChange) (result : Result Unit) : List Note :=
  [.counted "password_updates_total" [("outcome", outcome result)],
    called .info "update_password" [("username", .text r.username)] [] result]

def validNotes (result : Result String) : List Note :=
  let username := match result with
    | .ok (.ok username) => username
    | _ => ""
  [called .debug "valid_token" [] [("username", .text username)] result]

end Accounts

end ServiceMesh
