-- Stores of users. Usernames are unique. A hash is replaced only if it is still the one that
-- the caller has seen.
import ServiceMesh.Account.User
import ServiceMesh.Failure.Basic

namespace ServiceMesh

/-- Why a store takes no new user. -/
inductive InsertFault where
  | taken
  | failed (failure : Failure)
  deriving DecidableEq

def InsertFault.message : InsertFault → String
  | .taken => "username already taken"
  | .failed f => f.display

/-- What a store of users offers; `σ` is what it holds. -/
structure UserStore (σ : Type) where
  insert : User → σ → Except InsertFault Unit × σ
  find : String → σ → Except Failure (Option User) × σ
  /-- Puts a new hash in the place of the current one, and gives the user as it is then. None
  if there is no such user with that hash. -/
  replaceHash : (username current new : String) → σ → Except Failure (Option User) × σ

/-- Users in memory, in the order in which they came. -/
abbrev Users := List User

namespace Users

def find? (users : Users) (username : String) : Option User :=
  List.find? (fun u => u.username == username) users

def insert (users : Users) (u : User) : Except InsertFault Unit × Users :=
  match users.find? u.username with
  | some _ => (.error .taken, users)
  | none => (.ok (), users ++ [u])

def setHash (users : Users) (username hash : String) : Users :=
  List.map (fun u => if u.username = username then { u with passwordHash := hash } else u) users

def replaceHash (users : Users) (username current new : String) : Option User × Users :=
  match users.find? username with
  | none => (none, users)
  | some u =>
    if u.passwordHash = current then
      (some { u with passwordHash := new }, users.setHash username new)
    else (none, users)

/-- The store in memory. It never fails. -/
def store : UserStore Users where
  insert u users := users.insert u
  find username users := (.ok (users.find? username), users)
  replaceHash username current new users :=
    let (r, users) := users.replaceHash username current new
    (.ok r, users)

/-! ## How users look after each step -/

@[simp] theorem find?_nil (name : String) : Users.find? [] name = none := rfl

theorem find?_cons (u : User) (users : Users) (name : String) :
    Users.find? (u :: users) name =
      if u.username = name then some u else Users.find? users name := by
  simp only [find?, List.find?_cons]
  split <;> simp_all

theorem find?_append (a b : Users) (name : String) :
    Users.find? (a ++ b) name = (Users.find? a name <|> Users.find? b name) := by
  simp [find?, List.find?_append]

theorem username_of_find? {users : Users} {name : String} {u : User}
    (h : users.find? name = some u) : u.username = name := by
  simpa using List.find?_some h

/-- After the hash of a user is set, that user has it and all others are as before. -/
theorem find?_setHash (users : Users) (name hash other : String) :
    (users.setHash name hash).find? other =
      (users.find? other).map fun u =>
        if u.username = name then { u with passwordHash := hash } else u := by
  induction users with
  | nil => rfl
  | cons u rest ih =>
    simp only [setHash, List.map_cons] at ih ⊢
    rw [find?_cons, find?_cons]
    by_cases h : u.username = name <;> by_cases h' : u.username = other <;> simp_all

end Users

/-- Trouble that a store may be in: failures of its three operations, and a hash that somebody
else is about to set. -/
structure StoreTrouble where
  insert : Option Failure := none
  find : Option Failure := none
  replaceHash : Option Failure := none
  /-- The hash that somebody else sets just before the next replacement. -/
  rival : Option String := none

def Users.troubledStore : UserStore (StoreTrouble × Users) where
  insert u s :=
    match s.1.insert with
    | some f => (.error (.failed f), s)
    | none =>
      let (r, users) := s.2.insert u
      (r, (s.1, users))
  find username s :=
    match s.1.find with
    | some f => (.error f, s)
    | none => (.ok (s.2.find? username), s)
  replaceHash username current new s :=
    let users := match s.1.rival with
      | some hash => s.2.setHash username hash
      | none => s.2
    let trouble := { s.1 with rival := none }
    match trouble.replaceHash with
    | some f => (.error f, (trouble, users))
    | none =>
      let (r, users) := users.replaceHash username current new
      (.ok r, (trouble, users))

end ServiceMesh
