-- Calls of the accounts made one after the other, beside a ledger that knows
-- each person by name, id, nickname and password, and the tokens given out.
import Mathlib.Data.List.Induction
import Mathlib.Data.Option.Basic
import ServiceMesh.Proofs.Token.Validity
import ServiceMesh.Proofs.Account.Overlap

namespace ServiceMesh.Accounts

/-! ## Calls, one after the other -/

inductive Request where
  | register (r : Registration)
  | login (r : Credentials)
  | change (r : PasswordChange)
  /-- Asks who a token belongs to. -/
  | present (token : String)

/-- What a call comes to. -/
inductive Reply where
  | id (id : String)
  | token (issued : IssuedToken)
  | changed
  | owner (username : String)
  | rejected (e : UserRejection)
  | failed (f : Failure)

def Reply.of {α : Type} (value : α → Reply) : Result α → Reply
  | .ok (.ok x) => value x
  | .ok (.error e) => .rejected e
  | .error f => .failed f

/-- Runs a call to its end. -/
def Request.act (s : Setting Users) : Request → Act (Accounts Users) Reply
  | .register r => do return .of .id (← Accounts.register s r)
  | .login r => do return .of .token (← Accounts.login s r)
  | .change r => do return .of (fun _ => .changed) (← updatePassword s r)
  | .present token => do return .of .owner (← validToken s token)

/-- A call made at a second since 1970. The clock may go back from one call to the next. -/
structure Visit where
  second : Nat
  request : Request

def serve (s : Setting Users) (a : Accounts Users) (v : Visit) : Outcome (Accounts Users) Reply :=
  (v.request.act s).run { a with now := v.second }

/-- The accounts after some calls. -/
def after (s : Setting Users) (a : Accounts Users) (visits : List Visit) : Accounts Users :=
  visits.foldl (fun a v => (serve s a v).state) a

/-- What the calls come to; one that breaks off gives no reply. -/
def replies (s : Setting Users) : Accounts Users → List Visit → List (Except Crash Reply)
  | _, [] => []
  | a, v :: later => (serve s a v).result :: replies s (serve s a v).state later

theorem after_append (s : Setting Users) (a : Accounts Users) (past later : List Visit) :
    after s a (past ++ later) = after s (after s a past) later :=
  List.foldl_append

theorem after_snoc (s : Setting Users) (a : Accounts Users) (past : List Visit) (v : Visit) :
    after s a (past ++ [v]) = (serve s (after s a past) v).state := by
  rw [after_append]
  rfl

/-! ## The ledger -/

/-- What the ledger knows of a person. -/
structure Person where
  id : String
  nickname : String
  /-- Milliseconds since 1970. -/
  created : Int
  password : String

/-- A token that was given out, whom to, and the last second at which it is good. -/
structure Pass where
  token : String
  username : String
  last : Int

structure Ledger where
  people : String → Option Person
  passes : List Pass

/-- The ledger with a person entered under a name. -/
def Ledger.enter (l : Ledger) (name : String) (p : Person) : Ledger :=
  { l with people := fun n => if n = name then some p else l.people n }

/-- All that the ledger lets a call come to, at a second. Only ids and tokens are the accounts'
own choice. -/
inductive Ledger.Step (expiresIn : Int) (second : Nat) :
    Ledger → Request → Reply → Ledger → Prop
  | registered {l : Ledger} {r : Registration} (id : String) : l.people r.username = none →
    Step expiresIn second l (.register r) (.id id)
      (l.enter r.username ⟨id, r.nickname, second * 1000, r.password⟩)
  | taken {l : Ledger} {r : Registration} {p : Person} : l.people r.username = some p →
    Step expiresIn second l (.register r) (.rejected .usernameExists) l
  | unknown {l : Ledger} {r : Credentials} : l.people r.username = none →
    Step expiresIn second l (.login r) (.rejected .notFound) l
  | wrong {l : Ledger} {r : Credentials} {p : Person} : l.people r.username = some p →
    r.password ≠ p.password →
    Step expiresIn second l (.login r) (.rejected .wrongPassword) l
  | loggedIn {l : Ledger} {r : Credentials} {p : Person} (token : String) :
    l.people r.username = some p → r.password = p.password →
    Step expiresIn second l (.login r) (.token ⟨token, expiresIn⟩)
      { l with passes := ⟨token, r.username, second + expiresIn⟩ :: l.passes }
  | changed {l : Ledger} {r : PasswordChange} {p : Person} : l.people r.username = some p →
    r.password = p.password →
    Step expiresIn second l (.change r) .changed
      (l.enter r.username { p with password := r.newPassword })
  | absent {l : Ledger} {r : PasswordChange} : l.people r.username = none →
    Step expiresIn second l (.change r) (.rejected .mismatch) l
  | mismatched {l : Ledger} {r : PasswordChange} {p : Person} : l.people r.username = some p →
    r.password ≠ p.password →
    Step expiresIn second l (.change r) (.rejected .mismatch) l
  | good {l : Ledger} {pass : Pass} : pass ∈ l.passes → second ≤ pass.last →
    Step expiresIn second l (.present pass.token) (.owner pass.username) l
  | ranOut {l : Ledger} {pass : Pass} : pass ∈ l.passes → pass.last < second →
    Step expiresIn second l (.present pass.token) (.rejected .invalidToken) l
  /-- A token that was not given out here is judged by what it says. -/
  | stranger {l : Ledger} {token : String} {reply : Reply} :
    (∀ pass ∈ l.passes, pass.token ≠ token) →
    (reply = .rejected .invalidToken ∨ ∃ name, reply = .owner name) →
    Step expiresIn second l (.present token) reply l

/-- The calls that the ledger lets come to these replies, one after the other. -/
inductive Ledger.Run (expiresIn : Int) : Ledger → List Visit → List Reply → Ledger → Prop
  | nil {l : Ledger} : Run expiresIn l [] [] l
  | cons {l m n : Ledger} {v : Visit} {reply : Reply} {later : List Visit} {more : List Reply} :
    Ledger.Step expiresIn v.second l v.request reply m → Run expiresIn m later more n →
    Run expiresIn l (v :: later) (reply :: more) n

/-- A login with the right password, at a second from which the last one of a token would be
beyond the range of its numbers. -/
def Ledger.Oversteps (expiresIn : Int) (l : Ledger) (v : Visit) : Prop :=
  ∃ r p, v.request = .login r ∧ l.people r.username = some p ∧ r.password = p.password ∧
    ¬ Token.InRange (v.second + expiresIn)

/-- No login among the calls does that. -/
def Ledger.Fits (expiresIn : Int) (l : Ledger) (visits : List Visit) : Prop :=
  ∀ past v later rs m, visits = past ++ v :: later → Ledger.Run expiresIn l past rs m →
    ¬ m.Oversteps expiresIn v

theorem Ledger.Fits.head {expiresIn : Int} {l : Ledger} {v : Visit} {later : List Visit}
    (h : l.Fits expiresIn (v :: later)) : ¬ l.Oversteps expiresIn v :=
  h [] v later [] l rfl .nil

theorem Ledger.Fits.tail {expiresIn : Int} {l m : Ledger} {v : Visit} {later : List Visit}
    {reply : Reply} (h : l.Fits expiresIn (v :: later))
    (hstep : Ledger.Step expiresIn v.second l v.request reply m) : m.Fits expiresIn later := by
  rintro past w rest rs n rfl hrun
  exact h (v :: past) w rest (reply :: rs) n rfl (.cons hstep hrun)

/-- It is enough that every call is early enough for a token. -/
theorem Ledger.fits_of_inRange {expiresIn : Int} {visits : List Visit}
    (h : ∀ v ∈ visits, Token.InRange (v.second + expiresIn)) (l : Ledger) :
    l.Fits expiresIn visits := by
  rintro past v later rs m rfl - ⟨r, p, -, -, -, hbeyond⟩
  exact hbeyond (h v (List.mem_append_right past List.mem_cons_self))

/-! ## What one call can do -/

/-- All that a call can do to the accounts, and what it comes to then. -/
inductive Served (s : Setting Users) :
    Accounts Users → Request → Except Crash Reply → Accounts Users → Prop
  | registered {a : Accounts Users} {r : Registration} {hash : String} (u : User) :
    s.passwords.hash a.hashes r.password = .ok hash → a.stored.find? r.username = none →
    u = ⟨s.newId a.made, r.username, r.nickname, hash, a.now * 1000⟩ →
    Served s a (.register r) (.ok (.id u.id))
      { a with stored := a.stored ++ [u], hashes := a.hashes + 1, made := a.made + 1 }
  | taken {a : Accounts Users} {r : Registration} {hash : String} {u : User} :
    s.passwords.hash a.hashes r.password = .ok hash → a.stored.find? r.username = some u →
    Served s a (.register r) (.ok (.rejected .usernameExists))
      { a with hashes := a.hashes + 1, made := a.made + 1 }
  | unknown {a : Accounts Users} {r : Credentials} : a.stored.find? r.username = none →
    Served s a (.login r) (.ok (.rejected .notFound)) a
  | wrong {a : Accounts Users} {r : Credentials} {u : User} :
    a.stored.find? r.username = some u →
    s.passwords.verify r.password u.passwordHash = .ok false →
    Served s a (.login r) (.ok (.rejected .wrongPassword)) a
  | loggedIn {a : Accounts Users} {r : Credentials} {u : User} {token : String} :
    a.stored.find? r.username = some u →
    s.passwords.verify r.password u.passwordHash = .ok true →
    s.tokens.issue a.now u.username = .ok token →
    Served s a (.login r) (.ok (.token ⟨token, s.tokens.expiresIn⟩))
      { a with issued := a.issued ++ [token] }
  | brokeOff {a : Accounts Users} {r : Credentials} {u : User} {c : Crash} :
    a.stored.find? r.username = some u →
    s.passwords.verify r.password u.passwordHash = .ok true →
    s.tokens.issue a.now u.username = .error c → Served s a (.login r) (.error c) a
  | changed {a : Accounts Users} {r : PasswordChange} {u : User} {hash : String} :
    a.stored.find? r.username = some u →
    s.passwords.verify r.password u.passwordHash = .ok true →
    s.passwords.hash a.hashes r.newPassword = .ok hash →
    Served s a (.change r) (.ok .changed)
      { a with stored := a.stored.setHash r.username hash, hashes := a.hashes + 1 }
  | absent {a : Accounts Users} {r : PasswordChange} : a.stored.find? r.username = none →
    Served s a (.change r) (.ok (.rejected .mismatch)) a
  | mismatched {a : Accounts Users} {r : PasswordChange} {u : User} :
    a.stored.find? r.username = some u →
    s.passwords.verify r.password u.passwordHash = .ok false →
    Served s a (.change r) (.ok (.rejected .mismatch)) a
  | unverified {a : Accounts Users} {q : Request} {u : User} {name password : String}
      {f : Failure} : a.stored.find? name = some u →
    s.passwords.verify password u.passwordHash = .error f → Served s a q (.ok (.failed f)) a
  | unhashed {a : Accounts Users} {q : Request} {password : String} {f : Failure} :
    s.passwords.hash a.hashes password = .error f →
    Served s a q (.ok (.failed f)) { a with hashes := a.hashes + 1 }
  | owned {a : Accounts Users} {token : String} {claims : Token.Claims} :
    s.tokens.validate a.now token = .ok claims →
    Served s a (.present token) (.ok (.owner claims.username)) a
  | refused {a : Accounts Users} {token : String} {fault : TokenFault} :
    s.tokens.validate a.now token = .error fault →
    Served s a (.present token) (.ok (.rejected .invalidToken)) a

variable {s : Setting Users}

/-! ## Every call does that -/

theorem served_register (hs : s.store = Users.store) (a : Accounts Users) (r : Registration) :
    Served s a (.register r) ((Request.register r).act s |>.run a).result
      ((Request.register r).act s |>.run a).state := by
  unfold Request.act Accounts.register
  simp only [Act.run_bind, RegisterStage.step, run_makeHash]
  cases hh : s.passwords.hash a.hashes r.password with
  | error f => exact .unhashed hh
  | ok hash =>
    simp only [Act.run_bind, Act.run_pure, Act.run_get, Act.run_modify, run_consult, hs,
      Users.store, Users.insert]
    cases hf : a.stored.find? r.username with
    | none => exact .registered _ hh hf rfl
    | some u => exact .taken hh hf

theorem served_login (hs : s.store = Users.store) (a : Accounts Users) (r : Credentials) :
    Served s a (.login r) ((Request.login r).act s |>.run a).result
      ((Request.login r).act s |>.run a).state := by
  unfold Request.act Accounts.login
  simp only [Act.run_bind, run_consult, hs, Users.store]
  cases hf : a.stored.find? r.username with
  | none => exact .unknown hf
  | some u =>
    simp only
    cases hv : s.passwords.verify r.password u.passwordHash with
    | error f => exact .unverified hf hv
    | ok good =>
      cases good with
      | false => exact .wrong hf hv
      | true =>
        simp only [Act.run_bind, Act.run_get]
        cases ht : s.tokens.issue a.now u.username with
        | error c => exact .brokeOff hf hv ht
        | ok token => exact .loggedIn hf hv ht

theorem run_finding (hs : s.store = Users.store) (a : Accounts Users) (r : PasswordChange) :
    (ChangeStage.finding.step s r).run a = ⟨.ok (match a.stored.find? r.username with
      | some u => .verifying u
      | none => .ended (.ok (.error .mismatch))), a, []⟩ := by
  unfold ChangeStage.step
  simp only [Act.run_bind, run_consult, hs, Users.store]
  cases a.stored.find? r.username with
  | none => rfl
  | some u => rfl

theorem run_verifying (a : Accounts Users) (r : PasswordChange) (u : User) :
    ((ChangeStage.verifying u).step s r).run a =
      ⟨.ok (match s.passwords.verify r.password u.passwordHash with
        | .ok true => .hashing u
        | .ok false => .ended (.ok (.error .mismatch))
        | .error f => .ended (.error f)), a, []⟩ := by
  unfold ChangeStage.step
  dsimp only
  cases s.passwords.verify r.password u.passwordHash with
  | error f => rfl
  | ok good => cases good <;> rfl

theorem run_hashing (a : Accounts Users) (r : PasswordChange) (u : User) :
    ((ChangeStage.hashing u).step s r).run a =
      ⟨.ok (match s.passwords.hash a.hashes r.newPassword with
        | .ok hash => .replacing u hash
        | .error f => .ended (.error f)), { a with hashes := a.hashes + 1 }, []⟩ := by
  unfold ChangeStage.step
  simp only [Act.run_bind, run_makeHash]
  cases s.passwords.hash a.hashes r.newPassword with
  | error f => rfl
  | ok hash => rfl

/-- When nobody has come in between, the hash that was read is still the one there. -/
theorem run_replacing (hs : s.store = Users.store) {a : Accounts Users} {r : PasswordChange}
    {u : User} (hf : a.stored.find? r.username = some u) (hash : String) :
    ((ChangeStage.replacing u hash).step s r).run a = ⟨.ok (.ended (.ok (.ok ()))),
      { a with stored := a.stored.setHash r.username hash }, []⟩ := by
  unfold ChangeStage.step
  simp only [Act.run_bind, run_consult, hs, Users.store, Users.replaceHash, hf, if_true,
    Act.run_pure, List.append_nil]

/-- Once a change has ended, the steps that are left do nothing. -/
theorem run_change {a b c d e : Accounts Users} {r : PasswordChange} {x y z : ChangeStage}
    {result : Result Unit}
    (h₁ : (ChangeStage.finding.step s r).run a = ⟨.ok x, b, []⟩)
    (h₂ : (x.step s r).run b = ⟨.ok y, c, []⟩) (h₃ : (y.step s r).run c = ⟨.ok z, d, []⟩)
    (h₄ : (z.step s r).run d = ⟨.ok (.ended result), e, []⟩) :
    ((Request.change r).act s).run a = ⟨.ok (.of (fun _ => .changed) result), e, []⟩ := by
  unfold Request.act updatePassword
  simp only [Act.run_bind, h₁, h₂, h₃, h₄, Act.run_pure, List.append_nil]

theorem served_change (hs : s.store = Users.store) (a : Accounts Users) (r : PasswordChange) :
    Served s a (.change r) ((Request.change r).act s |>.run a).result
      ((Request.change r).act s |>.run a).state := by
  have h₁ := run_finding hs a r
  cases hf : a.stored.find? r.username with
  | none =>
    rw [hf] at h₁
    rw [run_change h₁ rfl rfl rfl]
    exact .absent hf
  | some u =>
    have h₂ := run_verifying (s := s) a r u
    rw [hf] at h₁
    cases hv : s.passwords.verify r.password u.passwordHash with
    | error f =>
      rw [hv] at h₂
      rw [run_change h₁ h₂ rfl rfl]
      exact .unverified hf hv
    | ok good =>
      rw [hv] at h₂
      cases good with
      | false =>
        rw [run_change h₁ h₂ rfl rfl]
        exact .mismatched hf hv
      | true =>
        have h₃ := run_hashing (s := s) a r u
        cases hh : s.passwords.hash a.hashes r.newPassword with
        | error f =>
          rw [hh] at h₃
          rw [run_change h₁ h₂ h₃ rfl]
          exact .unhashed hh
        | ok hash =>
          rw [hh] at h₃
          have h₄ := run_replacing hs (a := { a with hashes := a.hashes + 1 }) hf hash
          rw [run_change h₁ h₂ h₃ h₄]
          exact .changed hf hv hh

theorem served_present (a : Accounts Users) (token : String) :
    Served s a (.present token) ((Request.present token).act s |>.run a).result
      ((Request.present token).act s |>.run a).state := by
  unfold Request.act validToken
  simp only [Act.run_bind, Act.run_get]
  cases hv : s.tokens.validate a.now token with
  | ok claims => exact .owned hv
  | error fault => exact .refused hv

/-- Every call does what `Served` says. -/
theorem serve_spec (hs : s.store = Users.store) (a : Accounts Users) (v : Visit) :
    Served s { a with now := v.second } v.request (serve s a v).result (serve s a v).state := by
  obtain ⟨second, request⟩ := v
  cases request with
  | register r => exact served_register hs _ r
  | login r => exact served_login hs _ r
  | change r => exact served_change hs _ r
  | present token => exact served_present _ token

end ServiceMesh.Accounts
