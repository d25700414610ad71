-- Registrations and changes of a password that are under way at the same
-- time. Each call takes its small steps in its own order, and a turn of one
-- call may fall between any two steps of another.
import Mathlib.Data.List.Induction
import ServiceMesh.Account.Service

namespace ServiceMesh.Accounts

/-! ## The calls and their turns -/

/-- A call, and how far it has come. -/
inductive Call where
  | register (r : Registration) (stage : RegisterStage)
  | change (r : PasswordChange) (stage : ChangeStage)

/-- The next step of a call. -/
def Call.step (setting : Setting Users) : Call → Act (Accounts Users) Call
  | .register r stage => do return .register r (← stage.step setting r)
  | .change r stage => do return .change r (← stage.step setting r)

/-- The accounts, and the calls so far, those that have ended among them. -/
structure Traffic where
  accounts : Accounts Users
  calls : List Call

inductive Event where
  /-- A registration begins. -/
  | register (r : Registration)
  /-- A change of a password begins. -/
  | change (r : PasswordChange)
  /-- A call takes its next step. Calls are counted from 0. -/
  | turn (call : Nat)
  /-- Time passes. -/
  | wait (seconds : Nat)

namespace Traffic

/-- The users as they are stored. -/
def users (t : Traffic) : Users := t.accounts.stored

/-- Nothing under way. -/
def quiet (a : Accounts Users) : Traffic := ⟨a, []⟩

def begin (t : Traffic) (c : Call) : Traffic := { t with calls := t.calls ++ [c] }

def turn (setting : Setting Users) (t : Traffic) (i : Nat) : Traffic :=
  match t.calls[i]? with
  | none => t
  | some c =>
    match (c.step setting).run t.accounts with
    | ⟨.ok c, accounts, _⟩ => ⟨accounts, t.calls.set i c⟩
    | ⟨.error _, accounts, _⟩ => { t with accounts }

def step (setting : Setting Users) (t : Traffic) : Event → Traffic
  | .register r => t.begin (.register r .hashing)
  | .change r => t.begin (.change r .finding)
  | .turn i => t.turn setting i
  | .wait seconds => { t with accounts := { t.accounts with now := t.accounts.now + seconds } }

def run (setting : Setting Users) (t : Traffic) (events : List Event) : Traffic :=
  events.foldl (step setting) t

theorem run_append (setting : Setting Users) (t : Traffic) (past later : List Event) :
    run setting t (past ++ later) = run setting (run setting t past) later :=
  List.foldl_append

theorem run_snoc (setting : Setting Users) (t : Traffic) (past : List Event) (e : Event) :
    run setting t (past ++ [e]) = (run setting t past).step setting e := by
  rw [run_append]
  rfl

end Traffic

/-! ## What one turn can do -/

/-- All that a turn of a call can do to the accounts and to the call. -/
inductive Turn (s : Setting Users) : Accounts Users → Call → Accounts Users → Call → Prop
  | hashed {a : Accounts Users} {r : Registration} {hash : String} :
      s.passwords.hash a.hashes r.password = .ok hash →
      Turn s a (.register r .hashing) { a with hashes := a.hashes + 1 }
        (.register r (.inserting hash))
  | unhashed {a : Accounts Users} {r : Registration} {f : Failure} :
      s.passwords.hash a.hashes r.password = .error f →
      Turn s a (.register r .hashing) { a with hashes := a.hashes + 1 }
        (.register r (.ended (.error f)))
  | inserted {a : Accounts Users} {r : Registration} {hash : String} (u : User) :
      a.stored.find? r.username = none → u.username = r.username → u.passwordHash = hash →
      Turn s a (.register r (.inserting hash))
        { a with stored := a.stored ++ [u], made := a.made + 1 }
        (.register r (.ended (.ok (.ok u.id))))
  | taken {a : Accounts Users} {r : Registration} {hash : String} {u : User} :
      a.stored.find? r.username = some u →
      Turn s a (.register r (.inserting hash)) { a with made := a.made + 1 }
        (.register r (.ended (.ok (.error .usernameExists))))
  | found {a : Accounts Users} {r : PasswordChange} {u : User} :
      a.stored.find? r.username = some u →
      Turn s a (.change r .finding) a (.change r (.verifying u))
  | verified {a : Accounts Users} {r : PasswordChange} {u : User} :
      s.passwords.verify r.password u.passwordHash = .ok true →
      Turn s a (.change r (.verifying u)) a (.change r (.hashing u))
  | rehashed {a : Accounts Users} {r : PasswordChange} {u : User} {hash : String} :
      s.passwords.hash a.hashes r.newPassword = .ok hash →
      Turn s a (.change r (.hashing u)) { a with hashes := a.hashes + 1 }
        (.change r (.replacing u hash))
  | swapped {a : Accounts Users} {r : PasswordChange} {u x : User} {hash : String} :
      a.stored.find? r.username = some x → x.passwordHash = u.passwordHash →
      Turn s a (.change r (.replacing u hash))
        { a with stored := a.stored.setHash r.username hash } (.change r (.ended (.ok (.ok ()))))
  /-- A change gives up. A hash may have been asked for, but the users are as before. -/
  | gaveUp {a : Accounts Users} {r : PasswordChange} {stage : ChangeStage} {n : Nat}
      {result : Result Unit} : a.hashes ≤ n → (∀ res, stage ≠ .ended res) → result ≠ .ok (.ok ()) →
      Turn s a (.change r stage) { a with hashes := n } (.change r (.ended result))
  | registerOver {a : Accounts Users} {r : Registration} {result : Result String} :
      Turn s a (.register r (.ended result)) a (.register r (.ended result))
  | changeOver {a : Accounts Users} {r : PasswordChange} {result : Result Unit} :
      Turn s a (.change r (.ended result)) a (.change r (.ended result))

/-! ## Every step of a call is such a turn -/

variable {s : Setting Users}

theorem turn_of_register (hs : s.store = Users.store) (a : Accounts Users) (r : Registration)
    (stage : RegisterStage) :
    ∃ b next, (stage.step s r).run a = ⟨.ok next, b, []⟩ ∧
      Turn s a (.register r stage) b (.register r next) := by
  cases stage with
  | hashing =>
    unfold RegisterStage.step
    simp only [Act.run_bind, run_makeHash]
    cases h : s.passwords.hash a.hashes r.password with
    | ok hash => exact ⟨_, _, rfl, .hashed h⟩
    | error f => exact ⟨_, _, rfl, .unhashed h⟩
  | inserting hash =>
    unfold RegisterStage.step
    simp only [Act.run_bind, Act.run_get, Act.run_modify, run_consult, hs, Users.store, Users.insert]
    cases h : a.stored.find? r.username with
    | none => exact ⟨_, _, rfl, .inserted _ h rfl rfl⟩
    | some u => exact ⟨_, _, rfl, .taken h⟩
  | ended result => exact ⟨_, _, rfl, .registerOver⟩

theorem turn_of_change (hs : s.store = Users.store) (a : Accounts Users) (r : PasswordChange)
    (stage : ChangeStage) :
    ∃ b next, (stage.step s r).run a = ⟨.ok next, b, []⟩ ∧
      Turn s a (.change r stage) b (.change r next) := by
  cases stage with
  | finding =>
    unfold ChangeStage.step
    simp only [Act.run_bind, run_consult, hs, Users.store]
    cases h : a.stored.find? r.username with
    | none => exact ⟨_, _, rfl, .gaveUp (Nat.le_refl _) (by simp) (by simp)⟩
    | some u => exact ⟨_, _, rfl, .found h⟩
  | verifying u =>
    unfold ChangeStage.step
    dsimp only
    cases h : s.passwords.verify r.password u.passwordHash with
    | error f => exact ⟨_, _, rfl, .gaveUp (Nat.le_refl _) (by simp) (by simp)⟩
    | ok good =>
      cases good with
      | true => exact ⟨_, _, rfl, .verified h⟩
      | false => exact ⟨_, _, rfl, .gaveUp (Nat.le_refl _) (by simp) (by simp)⟩
  | hashing u =>
    unfold ChangeStage.step
    simp only [Act.run_bind, run_makeHash]
    cases h : s.passwords.hash a.hashes r.newPassword with
    | ok hash => exact ⟨_, _, rfl, .rehashed h⟩
    | error f => exact ⟨_, _, rfl, .gaveUp (Nat.le_succ _) (by simp) (by simp)⟩
  | replacing u hash =>
    unfold ChangeStage.step
    simp only [Act.run_bind, run_consult, hs, Users.store, Users.replaceHash]
    cases h : a.stored.find? r.username with
    | none => exact ⟨_, _, rfl, .gaveUp (Nat.le_refl _) (by simp) (by simp)⟩
    | some x =>
      by_cases hx : x.passwordHash = u.passwordHash
      · simp only [hx, if_true]
        exact ⟨_, _, rfl, .swapped h hx⟩
      · simp only [hx, if_false]
        exact ⟨_, _, rfl, .gaveUp (Nat.le_refl _) (by simp) (by simp)⟩
  | ended result => exact ⟨_, _, rfl, .changeOver⟩

/-- A turn of a call that is there changes the accounts and that call as `Turn` says. -/
theorem turn_spec (hs : s.store = Users.store) {t : Traffic} {i : Nat} {c : Call}
    (hc : t.calls[i]? = some c) :
    ∃ b d, t.turn s i = ⟨b, t.calls.set i d⟩ ∧ Turn s t.accounts c b d := by
  unfold Traffic.turn
  simp only [hc]
  cases c with
  | register r stage =>
    obtain ⟨b, next, hrun, ht⟩ := turn_of_register hs t.accounts r stage
    refine ⟨b, .register r next, ?_, ht⟩
    simp only [Call.step, Act.run_bind, hrun, Act.run_pure]
  | change r stage =>
    obtain ⟨b, next, hrun, ht⟩ := turn_of_change hs t.accounts r stage
    refine ⟨b, .change r next, ?_, ht⟩
    simp only [Call.step, Act.run_bind, hrun, Act.run_pure]

end ServiceMesh.Accounts
