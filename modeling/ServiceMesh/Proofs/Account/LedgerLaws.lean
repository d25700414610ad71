-- The laws of calls made one after the other: they come to what the ledger
-- says, a call that is refused leaves the store as it was, and all that is
-- ever changed of a user is the hash.
import ServiceMesh.Proofs.Account.Ledger
import ServiceMesh.Proofs.Account.OverlapLaws

namespace ServiceMesh.Accounts

/-! ## What is taken for granted -/

/-- Accounts in memory with signed tokens. A hash is made of every password, and verifies that
password and no other. -/
structure Reliable (s : Setting Users) (key : Token.Key) : Prop where
  in_memory : s.store = Users.store
  signed : s.tokens = .signed key
  hashes : ∀ n p, ∃ hash, s.passwords.hash n p = .ok hash ∧
    ∀ q, s.passwords.verify q hash = .ok (decide (q = p))

/-! ## The users of a ledger -/

/-- A user as it is stored is the person in the ledger. -/
structure Matches (s : Setting Users) (p : Person) (u : User) : Prop where
  id : u.id = p.id
  nickname : u.nickname = p.nickname
  created : u.created = p.created
  password : ∀ q, s.passwords.verify q u.passwordHash = .ok (decide (q = p.password))

/-- A token that was given out is good up to its last second, and then no more. -/
structure Pass.Genuine (s : Setting Users) (pass : Pass) : Prop where
  good : ∀ second : Nat, second ≤ pass.last →
    s.tokens.validate second pass.token = .ok ⟨pass.username, pass.last⟩
  ranOut : ∀ second : Nat, pass.last < second →
    ∃ fault, s.tokens.validate second pass.token = .error fault

/-- The users are those of the ledger, and so are the tokens. -/
structure Recorded (s : Setting Users) (l : Ledger) (a : Accounts Users) : Prop where
  people : ∀ name, Option.Rel (Matches s) (l.people name) (a.stored.find? name)
  passes : ∀ pass ∈ l.passes, pass.Genuine s

variable {s : Setting Users} {key : Token.Key} {l m : Ledger} {a b : Accounts Users}
  {request : Request} {result : Except Crash Reply} {name : String} {u : User}

theorem Recorded.unknown (h : Recorded s l a) (hf : a.stored.find? name = none) :
    l.people name = none := by
  have hname := h.people name
  rw [hf] at hname
  cases hp : l.people name with
  | none => rfl
  | some p =>
    rw [hp] at hname
    cases hname

theorem Recorded.known (h : Recorded s l a) (hf : a.stored.find? name = some u) :
    ∃ p, l.people name = some p ∧ Matches s p u := by
  have hname := h.people name
  rw [hf] at hname
  cases hp : l.people name with
  | none =>
    rw [hp] at hname
    cases hname
  | some p =>
    rw [hp] at hname
    cases hname with
    | some hmatches => exact ⟨p, rfl, hmatches⟩

/-- A hash that was made of a password verifies that password and no other. -/
theorem Reliable.verifies (hs : Reliable s key) {n : Nat} {p hash : String}
    (h : s.passwords.hash n p = .ok hash) (q : String) :
    s.passwords.verify q hash = .ok (decide (q = p)) := by
  obtain ⟨hash', hmade, hverify⟩ := hs.hashes n p
  rw [h] at hmade
  cases hmade
  exact hverify q

/-- What verifies is the password in the ledger. -/
theorem Matches.right {p : Person} (h : Matches s p u) {q : String}
    (hv : s.passwords.verify q u.passwordHash = .ok true) : q = p.password := by
  rw [h.password q] at hv
  simpa using hv

theorem Matches.wrong {p : Person} (h : Matches s p u) {q : String}
    (hv : s.passwords.verify q u.passwordHash = .ok false) : q ≠ p.password := by
  rw [h.password q] at hv
  simpa using hv

/-- A token is one that is good, one that has run out, or none that was given out here. -/
theorem Recorded.judges (h : Recorded s l a) (second : Nat) (token : String) :
    (∃ pass ∈ l.passes, pass.token = token ∧ second ≤ pass.last ∧
      s.tokens.validate second token = .ok ⟨pass.username, pass.last⟩) ∨
    (∃ pass ∈ l.passes, pass.token = token ∧ pass.last < second ∧
      ∃ fault, s.tokens.validate second token = .error fault) ∨
    ∀ pass ∈ l.passes, pass.token ≠ token := by
  by_cases hpass : ∃ pass ∈ l.passes, pass.token = token
  · obtain ⟨pass, hmem, rfl⟩ := hpass
    have genuine := h.passes pass hmem
    by_cases hle : second ≤ pass.last
    · exact .inl ⟨pass, hmem, rfl, hle, genuine.good second hle⟩
    · have hlt : pass.last < second := Int.not_le.mp hle
      exact .inr (.inl ⟨pass, hmem, rfl, hlt, genuine.ranOut second hlt⟩)
  · exact .inr (.inr (by simpa using hpass))

theorem Recorded.same (h : Recorded s l a) (hu : b.stored = a.stored) : Recorded s l b := by
  refine ⟨?_, h.passes⟩
  rw [hu]
  exact h.people

/-- A new user is entered under a name that was free. -/
theorem Recorded.registered (h : Recorded s l a) {p : Person} (hm : Matches s p u)
    (hf : a.stored.find? u.username = none) (hb : b.stored = a.stored ++ [u]) :
    Recorded s (l.enter u.username p) b := by
  refine ⟨?_, h.passes⟩
  intro other
  rw [hb, find?_insert hf]
  unfold Ledger.enter
  by_cases ho : other = u.username
  · simp only [if_pos ho]
    exact .some hm
  · simp only [if_neg ho]
    exact h.people other

/-- A new hash goes with a new password in the ledger, and with nothing else. -/
theorem Recorded.changed (h : Recorded s l a) {p : Person} {password hash : String}
    (hm : Matches s p u) (hf : a.stored.find? name = some u)
    (hhash : ∀ q, s.passwords.verify q hash = .ok (decide (q = password)))
    (hb : b.stored = a.stored.setHash name hash) :
    Recorded s (l.enter name { p with password }) b := by
  refine ⟨?_, h.passes⟩
  intro other
  rw [hb, Users.find?_setHash]
  unfold Ledger.enter
  by_cases ho : other = name
  · have hname := Users.username_of_find? hf
    subst ho
    simp only [if_true, hf, Option.map_some, hname]
    exact .some ⟨hm.id, hm.nickname, hm.created, hhash⟩
  · simp only [if_neg ho]
    have hother := h.people other
    cases hg : a.stored.find? other with
    | none =>
      rw [hg] at hother
      exact hother
    | some v =>
      have hv : ¬ v.username = name := by
        rw [Users.username_of_find? hg]
        exact ho
      rw [hg] at hother
      simp only [Option.map_some, if_neg hv]
      exact hother

/-! ## A call does what the ledger says -/

theorem genuine_of_issue (hs : s.tokens = .signed key) {second : Nat} {token username : String}
    (h : Token.issue key second username = .ok token) :
    Pass.Genuine s ⟨token, username, second + key.expiry⟩ := by
  constructor
  · intro later hle
    rw [hs]
    exact (Token.validate_issued h later (Int.natCast_nonneg later)).1 hle
  · intro later hlt
    rw [hs]
    exact (Token.validate_issued h later (Int.natCast_nonneg later)).2 hlt

/-- The ledger lets a call come to what it comes to, and is that of the users after it. -/
theorem step_of_served (hs : Reliable s key) (h : Served s a request result b)
    (hr : Recorded s l a) {second : Nat} (hnow : a.now = second)
    (hfits : ¬ l.Oversteps key.expiry ⟨second, request⟩) :
    ∃ reply m, result = .ok reply ∧ Ledger.Step key.expiry second l request reply m ∧
      Recorded s m b := by
  cases h with
  | @registered r hash u hh hf hu =>
    subst hu
    have hm : Matches s ⟨s.newId a.made, r.nickname, second * 1000, r.password⟩
        ⟨s.newId a.made, r.username, r.nickname, hash, a.now * 1000⟩ :=
      ⟨rfl, rfl, by rw [hnow], hs.verifies hh⟩
    exact ⟨_, _, rfl, .registered _ (hr.unknown hf), hr.registered hm hf rfl⟩
  | taken hh hf =>
    obtain ⟨p, hp, -⟩ := hr.known hf
    exact ⟨_, l, rfl, .taken hp, hr.same rfl⟩
  | unknown hf => exact ⟨_, l, rfl, .unknown (hr.unknown hf), hr⟩
  | wrong hf hv =>
    obtain ⟨p, hp, hm⟩ := hr.known hf
    exact ⟨_, l, rfl, .wrong hp (hm.wrong hv), hr⟩
  | @loggedIn r u token hf hv ht =>
    obtain ⟨p, hp, hm⟩ := hr.known hf
    rw [hs.signed, Users.username_of_find? hf, hnow] at ht
    have hgenuine := genuine_of_issue hs.signed ht
    have hexpires : s.tokens.expiresIn = key.expiry := by
      rw [hs.signed]
      rfl
    rw [hexpires]
    refine ⟨_, _, rfl, .loggedIn token hp (hm.right hv), hr.people, ?_⟩
    intro pass hpass
    rcases List.mem_cons.mp hpass with rfl | hpass
    · exact hgenuine
    · exact hr.passes pass hpass
  | @brokeOff r u c hf hv ht =>
    obtain ⟨p, hp, hm⟩ := hr.known hf
    rw [hs.signed, hnow] at ht
    exact absurd ⟨r, p, rfl, hp, hm.right hv, (Token.issue_error ht).2⟩ hfits
  | changed hf hv hh =>
    obtain ⟨p, hp, hm⟩ := hr.known hf
    exact ⟨_, _, rfl, .changed hp (hm.right hv), hr.changed hm hf (hs.verifies hh) rfl⟩
  | absent hf => exact ⟨_, l, rfl, .absent (hr.unknown hf), hr⟩
  | mismatched hf hv =>
    obtain ⟨p, hp, hm⟩ := hr.known hf
    exact ⟨_, l, rfl, .mismatched hp (hm.wrong hv), hr⟩
  | unverified hf hv =>
    obtain ⟨p, hp, hm⟩ := hr.known hf
    rw [hm.password] at hv
    cases hv
  | unhashed hh =>
    obtain ⟨hash, hmade, -⟩ := hs.hashes a.hashes _
    rw [hh] at hmade
    cases hmade
  | @owned token claims hv =>
    rw [hnow] at hv
    rcases hr.judges second token with
      ⟨pass, hmem, rfl, hle, hgood⟩ | ⟨pass, hmem, rfl, hlt, fault, hfault⟩ | hstranger
    · rw [hgood] at hv
      cases hv
      exact ⟨_, l, rfl, .good hmem hle, hr⟩
    · rw [hfault] at hv
      cases hv
    · exact ⟨_, l, rfl, .stranger hstranger (Or.inr ⟨_, rfl⟩), hr⟩
  | @refused token fault hv =>
    rw [hnow] at hv
    rcases hr.judges second token with
      ⟨pass, hmem, rfl, hle, hgood⟩ | ⟨pass, hmem, rfl, hlt, -⟩ | hstranger
    · rw [hgood] at hv
      cases hv
    · exact ⟨_, l, rfl, .ranOut hmem hlt, hr⟩
    · exact ⟨_, l, rfl, .stranger hstranger (Or.inl rfl), hr⟩

/-- What the calls come to is what the ledger lets them come to, one after the other. -/
theorem run_of_visits (hs : Reliable s key) (hr : Recorded s l a) {visits : List Visit}
    (hfits : l.Fits key.expiry visits) :
    ∃ rs m, replies s a visits = rs.map .ok ∧ Ledger.Run key.expiry l visits rs m ∧
      Recorded s m (after s a visits) := by
  induction visits generalizing l a with
  | nil => exact ⟨[], l, rfl, .nil, hr⟩
  | cons v later ih =>
    have hserved := serve_spec hs.in_memory a v
    have hnow : Recorded s l { a with now := v.second } := hr.same rfl
    obtain ⟨reply, m, hreply, hstep, hm⟩ := step_of_served hs hserved hnow rfl hfits.head
    obtain ⟨rs, n, hrs, hrun, hn⟩ := ih hm (hfits.tail hstep)
    refine ⟨reply :: rs, n, ?_, .cons hstep hrun, hn⟩
    show (serve s a v).result :: replies s (serve s a v).state later = _
    rw [hreply, hrs]
    rfl

/-! ## What a call leaves as it was -/

/-- Whether a call has come to a new user or a new password. -/
def Wrote : Except Crash Reply → Prop
  | .ok (.id _) => True
  | .ok .changed => True
  | _ => False

theorem Served.stored (h : Served s a request result b) (hw : ¬ Wrote result) :
    b.stored = a.stored := by
  cases h with
  | registered => exact absurd trivial hw
  | changed => exact absurd trivial hw
  | _ => rfl

theorem Served.added {r : Registration} {id : String}
    (h : Served s a (.register r) (.ok (.id id)) b) :
    ∃ u : User, u.id = id ∧ u.username = r.username ∧ u.nickname = r.nickname ∧
      u.created = a.now * 1000 ∧ b.stored = a.stored ++ [u] := by
  cases h with
  | registered u _ _ hu =>
    subst hu
    exact ⟨_, rfl, rfl, rfl, rfl, rfl⟩

theorem Served.swapped {r : PasswordChange} (h : Served s a (.change r) (.ok .changed) b) :
    ∃ hash, s.passwords.hash a.hashes r.newPassword = .ok hash ∧
      b.stored = a.stored.setHash r.username hash := by
  cases h with
  | changed _ _ hh => exact ⟨_, hh, rfl⟩

theorem Served.token {r : Credentials} {issued : IssuedToken}
    (h : Served s a (.login r) (.ok (.token issued)) b) :
    s.tokens.issue a.now r.username = .ok issued.token := by
  cases h with
  | loggedIn hf _ ht =>
    rw [Users.username_of_find? hf] at ht
    exact ht

/-- The same account, whatever its password. -/
structure SameAccount (u v : User) : Prop where
  id : v.id = u.id
  username : v.username = u.username
  nickname : v.nickname = u.nickname
  created : v.created = u.created

theorem Served.lasting (h : Served s a request result b) (hf : a.stored.find? name = some u) :
    ∃ v, b.stored.find? name = some v ∧ SameAccount u v := by
  have hsame : SameAccount u u := ⟨rfl, rfl, rfl, rfl⟩
  cases h with
  | registered x hh hx hu =>
    refine ⟨u, ?_, hsame⟩
    rw [Users.find?_append, hf]
    rfl
  | @changed r x hash hx hv hh =>
    refine ⟨_, by rw [Users.find?_setHash, hf]; rfl, ?_⟩
    dsimp only
    split
    · exact ⟨rfl, rfl, rfl, rfl⟩
    · exact hsame
  | _ => exact ⟨u, hf, hsame⟩

theorem lasting_after (hs : s.store = Users.store) (hf : a.stored.find? name = some u)
    (visits : List Visit) :
    ∃ v, (after s a visits).stored.find? name = some v ∧ SameAccount u v := by
  induction visits generalizing a u with
  | nil => exact ⟨u, hf, rfl, rfl, rfl, rfl⟩
  | cons v later ih =>
    obtain ⟨x, hx, hux⟩ := (serve_spec hs a v).lasting hf
    obtain ⟨y, hy, hxy⟩ := ih hx
    refine ⟨y, hy, ?_⟩
    exact ⟨hxy.id.trans hux.id, hxy.username.trans hux.username, hxy.nickname.trans hux.nickname,
      hxy.created.trans hux.created⟩

/-! ## The laws -/

/-- What calls made one after the other come to, and what they leave as it was. -/
structure Agrees (s : Setting Users) (key : Token.Key) (l : Ledger) (a : Accounts Users)
    (visits : List Visit) : Prop where
  /-- The calls come to what the ledger says, and the users after them are those in it, unless
  one is a login whose token would be good beyond the last second there is. -/
  follows : l.Fits key.expiry visits → ∃ rs m, replies s a visits = rs.map .ok ∧
    Ledger.Run key.expiry l visits rs m ∧ Recorded s m (after s a visits)
  /-- A call that came to no new user and no new password has left the store exactly as it
  was: each that was refused, or failed, or broke off. -/
  unchanged : ∀ past v, past ++ [v] <+: visits → ¬ Wrote (serve s (after s a past) v).result →
    (after s a (past ++ [v])).stored = (after s a past).stored
  /-- A registration that has succeeded has added one user. -/
  added : ∀ past second r id, past ++ [⟨second, .register r⟩] <+: visits →
    (serve s (after s a past) ⟨second, .register r⟩).result = .ok (.id id) →
    ∃ u : User, u.id = id ∧ u.username = r.username ∧ u.nickname = r.nickname ∧
      u.created = second * 1000 ∧
      (after s a (past ++ [⟨second, .register r⟩])).stored = (after s a past).stored ++ [u]
  /-- A token that was given out validates to its user while it has not run out. -/
  tokens : ∀ past second r issued, past ++ [⟨second, .login r⟩] <+: visits →
    (serve s (after s a past) ⟨second, .login r⟩).result = .ok (.token issued) →
    ∀ later : Nat, later ≤ second + key.expiry →
      s.tokens.validate later issued.token = .ok ⟨r.username, second + key.expiry⟩
  /-- A change that has succeeded has set the hash of that user, and only the new password
  verifies with it. -/
  swapped : ∀ past second r, past ++ [⟨second, .change r⟩] <+: visits →
    (serve s (after s a past) ⟨second, .change r⟩).result = .ok .changed →
    ∃ hash, (after s a (past ++ [⟨second, .change r⟩])).stored =
        (after s a past).stored.setHash r.username hash ∧
      ∀ q, s.passwords.verify q hash = .ok (decide (q = r.newPassword))
  /-- Nobody's id, nickname or time of registration ever changes. -/
  lasting : ∀ past, past <+: visits → ∀ name u, (after s a past).stored.find? name = some u →
    ∃ v, (after s a visits).stored.find? name = some v ∧ SameAccount u v

/-- Whatever calls are made one after the other, they come to what the ledger says. -/
theorem calls_in_turn_follow_the_ledger (hs : Reliable s key) (hr : Recorded s l a)
    (visits : List Visit) : Agrees s key l a visits := by
  have served : ∀ past v, Served s { after s a past with now := v.second } v.request
      (serve s (after s a past) v).result (after s a (past ++ [v])) := by
    intro past v
    rw [after_snoc]
    exact serve_spec hs.in_memory _ v
  refine ⟨run_of_visits hs hr, ?_, ?_, ?_, ?_, ?_⟩
  · intro past v _ hw
    exact (served past v).stored hw
  · intro past second r id _ hres
    have h := served past ⟨second, .register r⟩
    rw [hres] at h
    exact h.added
  · intro past second r issued _ hres later hle
    have h := served past ⟨second, .login r⟩
    rw [hres] at h
    have hissued := h.token
    rw [hs.signed] at hissued
    exact (genuine_of_issue hs.signed hissued).good later hle
  · intro past second r _ hres
    have h := served past ⟨second, .change r⟩
    rw [hres] at h
    obtain ⟨hash, hh, hstored⟩ := h.swapped
    exact ⟨hash, hstored, hs.verifies hh⟩
  · rintro past ⟨later, rfl⟩ name u hf
    rw [after_append]
    exact lasting_after hs.in_memory hf later

theorem reliable_plain : Reliable plainSetting ⟨"key", 60⟩ := by
  refine ⟨rfl, rfl, ?_⟩
  intro n p
  exact ⟨_, rfl, honest_plain.verifies n p _ rfl⟩

def blank : Ledger := ⟨fun _ => none, []⟩

/-- A name is registered twice, and a password is changed between wrong guesses. -/
def guesses : List Visit :=
  [⟨0, .register ⟨"ann", "old", "Ann"⟩⟩, ⟨1, .register ⟨"ann", "new", "Anne"⟩⟩,
    ⟨2, .login ⟨"bob", "old"⟩⟩, ⟨3, .change ⟨"ann", "new", "red"⟩⟩,
    ⟨4, .change ⟨"ann", "old", "red"⟩⟩, ⟨5, .login ⟨"ann", "old"⟩⟩, ⟨6, .login ⟨"ann", "red"⟩⟩]

theorem recorded_blank (s : Setting Users) : Recorded s blank { stored := [], now := 0 } :=
  ⟨fun _ => .none, fun _ h => by cases h⟩

theorem guesses_follow_the_ledger :
    Reliable plainSetting ⟨"key", 60⟩ ∧ Recorded plainSetting blank { stored := [], now := 0 } ∧
      Agrees plainSetting ⟨"key", 60⟩ blank { stored := [], now := 0 } guesses ∧
      blank.Fits 60 guesses ∧
      replies plainSetting { stored := [], now := 0 } (guesses.take 6) =
        [.ok (.id "0"), .ok (.rejected .usernameExists), .ok (.rejected .notFound),
          .ok (.rejected .mismatch), .ok .changed, .ok (.rejected .wrongPassword)] := by
  have hr := recorded_blank plainSetting
  have hfits : blank.Fits 60 guesses := by
    apply Ledger.fits_of_inRange
    simp only [guesses, List.forall_mem_cons, Token.InRange]
    decide
  refine ⟨reliable_plain, hr, calls_in_turn_follow_the_ledger reliable_plain hr guesses, hfits, ?_⟩
  rfl

/-- Accounts whose tokens are to be good for as many seconds as their numbers reach. -/
def lastingSetting : Setting Users :=
  { plainSetting with tokens := .signed ⟨"key", (1 <<< 63 : Nat) - 1⟩ }

/-- Who knows the password may get no token, and who is unknown is not told that the password is
wrong, although it is nobody's. -/
theorem some_logins_end_otherwise :
    Reliable lastingSetting ⟨"key", (1 <<< 63 : Nat) - 1⟩ ∧
      Recorded lastingSetting blank { stored := [], now := 0 } ∧
      replies lastingSetting { stored := [], now := 0 }
        [⟨0, .register ⟨"ann", "old", "Ann"⟩⟩, ⟨1, .login ⟨"ann", "old"⟩⟩] =
          [.ok (.id "0"), .error .sumRange] ∧
      replies plainSetting { stored := [], now := 0 } [⟨0, .login ⟨"bob", "old"⟩⟩] =
        [.ok (.rejected .notFound)] :=
  ⟨⟨rfl, rfl, reliable_plain.hashes⟩, recorded_blank lastingSetting, rfl, rfl⟩

end ServiceMesh.Accounts
