-- What the work of a call can come to when hashing and the making of tokens succeed:
-- it goes on, or it answers; and it answers with a rejection exactly where a rule is
-- broken. It never fails.
import ServiceMesh.Proofs.Service.Replies
import ServiceMesh.Proofs.Service.Traffic

namespace ServiceMesh.Server

open Accounts (RegisterStage ChangeStage)

/-! ## What is taken for granted -/

/-- Accounts in memory. Every password can be hashed, and a hash that was made can be read. -/
structure Sturdy (s : Accounts.Setting Users) : Prop where
  in_memory : s.store = Users.store
  hashes : ∀ n p, ∃ hash, s.passwords.hash n p = .ok hash
  reads : ∀ n p hash, s.passwords.hash n p = .ok hash →
    ∀ q, ∃ good, s.passwords.verify q hash = .ok good

/-- A hash that can be read. -/
def Readable (s : Accounts.Setting Users) (hash : String) : Prop :=
  ∀ q, ∃ good, s.passwords.verify q hash = .ok good

/-- At this second every user can be given a token. -/
def Issues (s : Accounts.Setting Users) (second : Int) : Prop :=
  ∀ name, ∃ token, s.tokens.issue second name = .ok token

/-- Accounts that no call fails on. -/
structure Fit (s : Accounts.Setting Users) (a : Accounts Users) : Prop where
  readable : ∀ u ∈ a.stored, Readable s u.passwordHash
  issues : Issues s a.now

/-- What a call holds while it works can be read. -/
def Work.Held (s : Accounts.Setting Users) : (op : Operation) → Work op → Prop
  | .register, .hashing => True
  | .register, .inserting hash => Readable s hash
  | .register, .ended _ => False
  | .updatePassword, .finding => True
  | .updatePassword, .verifying u => Readable s u.passwordHash
  | .updatePassword, .hashing _ => True
  | .updatePassword, .replacing _ hash => Readable s hash
  | .updatePassword, .ended _ => False
  | .sum, _ | .concat, _ | .uppercase, _ | .count, _ | .login, _ | .validToken, _ => True

theorem held_start (s : Accounts.Setting Users) (op : Operation) :
    Work.Held s op (Work.start op) := by
  cases op <;> trivial

/-! ## What one step of the work can do -/

/-- The rules that a step of the work can find broken, each with the rejection that tells it. -/
inductive Breaks (s : Accounts.Setting Users) (a : Accounts Users) : (op : Operation) → op.Request →
    Work op → op.Refusal → Prop
  | zeroes : Breaks s a .sum ⟨0, 0⟩ () .twoZeroes
  | overflow {r : Numbers} : ¬ (r.a = 0 ∧ r.b = 0) →
    (2147483647 < r.a + r.b ∨ r.a + r.b < -2147483648) → Breaks s a .sum r () .overflow
  | tooLong {r : Parts} : 10 < (r.a ++ r.b).utf8ByteSize → Breaks s a .concat r () .tooLong
  | empty : Breaks s a .uppercase "" () .empty
  | taken {r : Registration} {hash : String} {u : User} : a.stored.find? r.username = some u →
    Breaks s a .register r (.inserting hash) .usernameExists
  | unknown {r : Credentials} : a.stored.find? r.username = none →
    Breaks s a .login r () .notFound
  | wrong {r : Credentials} {u : User} : a.stored.find? r.username = some u →
    s.passwords.verify r.password u.passwordHash = .ok false →
    Breaks s a .login r () .wrongPassword
  | absent {r : PasswordChange} : a.stored.find? r.username = none →
    Breaks s a .updatePassword r .finding .mismatch
  | mismatched {r : PasswordChange} {u : User} :
    s.passwords.verify r.password u.passwordHash = .ok false →
    Breaks s a .updatePassword r (.verifying u) .mismatch
  /-- The hash that was verified is not the stored one any more. -/
  | outrun {r : PasswordChange} {u : User} {hash : String} :
    (∀ x, a.stored.find? r.username = some x → x.passwordHash ≠ u.passwordHash) →
    Breaks s a .updatePassword r (.replacing u hash) .mismatch
  | invalid {token : String} {fault : TokenFault} :
    s.tokens.validate a.now token = .error fault →
    Breaks s a .validToken token () .invalidToken

/-- What a step of the work does to the accounts and where it leads, on or to a value, if it
finds no rule broken. -/
inductive Proceeds (s : Accounts.Setting Users) (a : Accounts Users) : (op : Operation) →
    op.Request → Work op → Accounts Users → Work op ⊕ op.Value → Prop
  | summed {r : Numbers} : Proceeds s a .sum r () a (.inr (r.a + r.b))
  | joined {r : Parts} : Proceeds s a .concat r () a (.inr (r.a ++ r.b))
  | raised {text : String} : Proceeds s a .uppercase text () a (.inr (Text.upper text))
  | counted {text : String} : Proceeds s a .count text () a
    (.inr (min text.utf8ByteSize (1 <<< 63 - 1) : Nat))
  | hashed {r : Registration} {hash : String} : s.passwords.hash a.hashes r.password = .ok hash →
    Proceeds s a .register r .hashing { a with hashes := a.hashes + 1 } (.inl (.inserting hash))
  | inserted {r : Registration} {hash : String} (u : User) : u.passwordHash = hash →
    Proceeds s a .register r (.inserting hash)
      { a with stored := a.stored ++ [u], made := a.made + 1 } (.inr u.id)
  | loggedIn {r : Credentials} {token : String} : Proceeds s a .login r ()
      { a with issued := a.issued ++ [token] } (.inr ⟨token, s.tokens.expiresIn⟩)
  | found {r : PasswordChange} {u : User} : a.stored.find? r.username = some u →
    Proceeds s a .updatePassword r .finding a (.inl (.verifying u))
  | verified {r : PasswordChange} {u : User} :
    Proceeds s a .updatePassword r (.verifying u) a (.inl (.hashing u))
  | rehashed {r : PasswordChange} {u : User} {hash : String} :
    s.passwords.hash a.hashes r.newPassword = .ok hash →
    Proceeds s a .updatePassword r (.hashing u) { a with hashes := a.hashes + 1 }
      (.inl (.replacing u hash))
  | swapped {r : PasswordChange} {u : User} {hash : String} :
    Proceeds s a .updatePassword r (.replacing u hash)
      { a with stored := a.stored.setHash r.username hash } (.inr ())
  | owned {token username : String} : Proceeds s a .validToken token () a (.inr username)

variable {s : Accounts.Setting Users} {a b : Accounts Users} {op : Operation} {r : op.Request}
  {w w' : Work op} {x : Work op ⊕ op.Value}

theorem Proceeds.fit (h : Proceeds s a op r w b x) (hf : Fit s a) (hw : Work.Held s op w) :
    Fit s b := by
  refine ⟨?_, ?_⟩
  · cases h with
    | inserted u hu =>
      intro v hv
      rcases List.mem_append.mp hv with hv | hv
      · exact hf.readable v hv
      · obtain rfl := List.mem_singleton.mp hv
        rw [hu]
        exact hw
    | swapped =>
      intro v hv
      obtain ⟨v', hv', rfl⟩ := List.mem_map.mp hv
      split
      · exact hw
      · exact hf.readable v' hv'
    | _ => exact hf.readable
  · cases h <;> exact hf.issues

theorem Proceeds.held (hs : Sturdy s) (h : Proceeds s a op r w b (.inl w')) (hf : Fit s a) :
    Work.Held s op w' := by
  cases h with
  | hashed hh => exact hs.reads _ _ _ hh
  | rehashed hh => exact hs.reads _ _ _ hh
  | found hfound => exact hf.readable _ (List.mem_of_find?_eq_some hfound)
  | verified => trivial

/-- A step of the work in full: it answers with the rejection of a rule that it finds broken, and
leaves the users as they are; or no rule is broken, and it proceeds. -/
inductive Comes (s : Accounts.Setting Users) (a : Accounts Users) (op : Operation) (r : op.Request)
    (w : Work op) : Accounts Users → Progress op → Prop where
  | rejects {b : Accounts Users} {e : op.Refusal} : Breaks s a op r w e → b.stored = a.stored →
    b.now = a.now → Comes s a op r w b (.inr (.ok (.error e)))
  | goesOn {b : Accounts Users} {w' : Work op} : (∀ e, ¬ Breaks s a op r w e) →
    Proceeds s a op r w b (.inl w') → Comes s a op r w b (.inl w')
  | answers {b : Accounts Users} {v : op.Value} : (∀ e, ¬ Breaks s a op r w e) →
    Proceeds s a op r w b (.inr v) → Comes s a op r w b (.inr (.ok (.ok v)))

/-- No two rejections tell of one step. -/
theorem Breaks.unique {e e' : op.Refusal} (h : Breaks s a op r w e) (h' : Breaks s a op r w e') :
    e = e' := by
  cases h with
  | zeroes =>
    cases h' with
    | zeroes => rfl
    | overflow hz _ => exact absurd ⟨rfl, rfl⟩ hz
  | overflow hz _ =>
    cases h' with
    | zeroes => exact absurd ⟨rfl, rfl⟩ hz
    | overflow _ _ => rfl
  | unknown hfree =>
    cases h' with
    | unknown _ => rfl
    | wrong hfound _ =>
      rw [hfree] at hfound
      cases hfound
  | wrong hfound _ =>
    cases h' with
    | unknown hfree =>
      rw [hfree] at hfound
      cases hfound
    | wrong _ _ => rfl
  | _ =>
    cases h'
    rfl

/-- A rejection tells of a broken rule, and of nothing else. -/
theorem Breaks.own {e : op.Refusal} (h : Breaks s a op r w e) : op.IsOwn (.error e) := by
  cases h <;> rfl

theorem isOwn_value (op : Operation) (v : op.Value) : op.IsOwn (.ok v) := by
  cases op <;> trivial

/-! ## Every step of the work does that -/

/-- The step of the work comes to something that `Comes` lets it come to. -/
def Works (s : Accounts.Setting Users) (server : Server Users) (op : Operation) (r : op.Request)
    (w : Work op) : Prop :=
  ∃ b x notes, (Work.step s op r w).run server = ⟨.ok x, { server with accounts := b }, notes⟩ ∧
    Comes s server.accounts op r w b x

section
variable {server : Server Users}

/-- Work that is over in one step. -/
theorem works_perform {b : Accounts Users} {result : Except Failure op.Answer} {notes : List Note}
    (hstep : Work.step s op r w = (do return .inr (← perform s op r)))
    (hrun : (perform s op r).run server = ⟨.ok result, { server with accounts := b }, notes⟩)
    (h : Comes s server.accounts op r w b (.inr result)) : Works s server op r w := by
  refine ⟨b, .inr result, notes ++ [], ?_, h⟩
  rw [hstep]
  exact Act.run_bind_ok hrun

theorem works_sum (r : Numbers) : Works s server .sum r () := by
  refine works_perform rfl rfl ?_
  obtain ⟨x, y⟩ := r
  unfold Adding.sum Adding.intMax Adding.intMin
  simp only
  by_cases hz : x = 0 ∧ y = 0
  · rw [if_pos hz]
    obtain ⟨rfl, rfl⟩ := hz
    exact .rejects .zeroes rfl rfl
  · rw [if_neg hz]
    split
    · refine .rejects (.overflow hz ?_) rfl rfl
      simp only
      omega
    · refine .answers ?_ .summed
      intro e hb
      cases hb with
      | zeroes => exact hz ⟨rfl, rfl⟩
      | overflow _ hover =>
        simp only at hover
        omega

theorem works_concat (r : Parts) : Works s server .concat r () := by
  refine works_perform rfl rfl ?_
  unfold Adding.concat Adding.maxSize
  rw [← String.utf8ByteSize_append]
  by_cases hlong : 10 < (r.a ++ r.b).utf8ByteSize
  · rw [if_pos hlong]
    exact .rejects (.tooLong hlong) rfl rfl
  · rw [if_neg hlong]
    refine .answers ?_ .joined
    intro e hb
    cases hb with
    | tooLong h => exact hlong h

theorem works_uppercase (text : String) : Works s server .uppercase text () := by
  refine works_perform rfl rfl ?_
  unfold Texts.uppercase
  by_cases hempty : text.isEmpty = true
  · rw [if_pos hempty]
    obtain rfl := String.isEmpty_iff.mp hempty
    exact .rejects .empty rfl rfl
  · rw [if_neg hempty]
    refine .answers ?_ .raised
    intro e hb
    cases hb
    exact hempty rfl

theorem works_count (text : String) : Works s server .count text () := by
  refine works_perform rfl rfl (.answers ?_ .counted)
  intro e
  exact e.elim

theorem works_login (hs : Sturdy s) (hf : Fit s server.accounts) (r : Credentials) :
    Works s server .login r () := by
  have found : (Accounts.consult (s.store.find r.username)).run server.accounts =
      ⟨.ok (.ok (server.accounts.stored.find? r.username)), server.accounts, []⟩ := by
    rw [Accounts.run_consult, hs.in_memory]
    rfl
  cases hfind : server.accounts.stored.find? r.username with
  | none =>
    have ran : (Accounts.login s r).run server.accounts =
        ⟨.ok (.ok (.error .notFound)), server.accounts, []⟩ := by
      unfold Accounts.login
      simp only [Act.run_bind, found, hfind, Act.run_pure, List.append_nil]
    exact works_perform rfl (run_noted ran) (.rejects (.unknown hfind) rfl rfl)
  | some u =>
    obtain ⟨good, hv⟩ := hf.readable u (List.mem_of_find?_eq_some hfind) r.password
    cases good with
    | false =>
      have ran : (Accounts.login s r).run server.accounts =
          ⟨.ok (.ok (.error .wrongPassword)), server.accounts, []⟩ := by
        unfold Accounts.login
        simp only [Act.run_bind, found, hfind, hv, Act.run_pure, List.append_nil]
      exact works_perform rfl (run_noted ran) (.rejects (.wrong hfind hv) rfl rfl)
    | true =>
      obtain ⟨token, ht⟩ := hf.issues u.username
      have ran : (Accounts.login s r).run server.accounts =
          ⟨.ok (.ok (.ok ⟨token, s.tokens.expiresIn⟩)),
            { server.accounts with issued := server.accounts.issued ++ [token] }, []⟩ := by
        unfold Accounts.login
        simp only [Act.run_bind, found, hfind, hv, Act.run_get, ht, Act.run_modify, Act.run_pure,
          List.append_nil]
      refine works_perform rfl (run_noted ran) (.answers ?_ .loggedIn)
      intro e hb
      cases hb with
      | unknown hfree =>
        rw [hfree] at hfind
        cases hfind
      | wrong hfind' hv' =>
        rw [hfind] at hfind'
        cases hfind'
        rw [hv] at hv'
        cases hv'

theorem works_validToken (token : String) : Works s server .validToken token () := by
  cases hv : s.tokens.validate server.accounts.now token with
  | ok claims =>
    have ran : (Accounts.validToken s token).run server.accounts =
        ⟨.ok (.ok (.ok claims.username)), server.accounts, []⟩ := by
      unfold Accounts.validToken
      simp only [Act.run_bind, Act.run_get, hv, Act.run_pure, List.append_nil]
    refine works_perform rfl (run_noted ran) (.answers ?_ .owned)
    intro e hb
    cases hb with
    | invalid hv' =>
      rw [hv] at hv'
      cases hv'
  | error fault =>
    have ran : ∃ notes, (Accounts.validToken s token).run server.accounts =
        ⟨.ok (.ok (.error .invalidToken)), server.accounts, notes⟩ := by
      unfold Accounts.validToken
      simp only [Act.run_bind, Act.run_get, hv, Act.run_note, Act.run_pure]
      exact ⟨_, rfl⟩
    obtain ⟨notes, ran⟩ := ran
    exact works_perform rfl (run_noted ran) (.rejects (.invalid hv) rfl rfl)

theorem works_register (hs : Sturdy s) (r : Registration) {stage : RegisterStage}
    (held : Work.Held s .register stage) : Works s server .register r stage := by
  cases stage with
  | hashing =>
    obtain ⟨hash, hh⟩ := hs.hashes server.accounts.hashes r.password
    have ran : (RegisterStage.hashing.step s r).run server.accounts = ⟨.ok (.inserting hash),
        { server.accounts with hashes := server.accounts.hashes + 1 }, []⟩ := by
      unfold RegisterStage.step
      simp only [Act.run_bind, Accounts.run_makeHash, hh, Act.run_pure, List.append_nil]
    refine ⟨_, _, _, run_registering ran, .goesOn ?_ (.hashed hh)⟩
    intro e hb
    cases hb
  | inserting hash =>
    cases hfind : server.accounts.stored.find? r.username with
    | none =>
      have ran : ∃ u : User, u.passwordHash = hash ∧
          ((RegisterStage.inserting hash).step s r).run server.accounts =
            ⟨.ok (.ended (.ok (.ok u.id))), { server.accounts with
              stored := server.accounts.stored ++ [u], made := server.accounts.made + 1 }, []⟩ := by
        unfold RegisterStage.step
        simp only [Act.run_bind, Act.run_get, Act.run_modify, Accounts.run_consult,
          hs.in_memory, Users.store, Users.insert, hfind, Act.run_pure, List.append_nil]
        exact ⟨⟨s.newId server.accounts.made, r.username, r.nickname, hash,
          server.accounts.now * 1000⟩, rfl, rfl⟩
      obtain ⟨u, hu, ran⟩ := ran
      refine ⟨_, _, _, run_registering ran, .answers ?_ (.inserted u hu)⟩
      intro e hb
      cases hb with
      | taken hfind' =>
        rw [hfind] at hfind'
        cases hfind'
    | some u =>
      have ran : ((RegisterStage.inserting hash).step s r).run server.accounts =
          ⟨.ok (.ended (.ok (.error .usernameExists))),
            { server.accounts with made := server.accounts.made + 1 }, []⟩ := by
        unfold RegisterStage.step
        simp only [Act.run_bind, Act.run_get, Act.run_modify, Accounts.run_consult,
          hs.in_memory, Users.store, Users.insert, hfind, Act.run_pure, List.append_nil]
      exact ⟨_, _, _, run_registering ran, .rejects (.taken hfind) rfl rfl⟩
  | ended result => exact held.elim

theorem works_updatePassword (hs : Sturdy s) (r : PasswordChange) {stage : ChangeStage}
    (held : Work.Held s .updatePassword stage) : Works s server .updatePassword r stage := by
  cases stage with
  | finding =>
    have ran := Accounts.run_finding hs.in_memory server.accounts r
    cases hfind : server.accounts.stored.find? r.username with
    | none =>
      rw [hfind] at ran
      exact ⟨_, _, _, run_changing ran, .rejects (.absent hfind) rfl rfl⟩
    | some u =>
      rw [hfind] at ran
      refine ⟨_, _, _, run_changing ran, .goesOn ?_ (.found hfind)⟩
      intro e hb
      cases hb with
      | absent hfree =>
        rw [hfree] at hfind
        cases hfind
  | verifying u =>
    have ran := Accounts.run_verifying (s := s) server.accounts r u
    obtain ⟨good, hv⟩ := held r.password
    rw [hv] at ran
    cases good with
    | false => exact ⟨_, _, _, run_changing ran, .rejects (.mismatched hv) rfl rfl⟩
    | true =>
      refine ⟨_, _, _, run_changing ran, .goesOn ?_ .verified⟩
      intro e hb
      cases hb with
      | mismatched hv' =>
        rw [hv] at hv'
        cases hv'
  | hashing u =>
    have ran := Accounts.run_hashing (s := s) server.accounts r u
    obtain ⟨hash, hh⟩ := hs.hashes server.accounts.hashes r.newPassword
    rw [hh] at ran
    refine ⟨_, _, _, run_changing ran, .goesOn ?_ (.rehashed hh)⟩
    intro e hb
    cases hb
  | replacing u hash =>
    by_cases hx : ∃ x, server.accounts.stored.find? r.username = some x ∧
        x.passwordHash = u.passwordHash
    · obtain ⟨x, hfind, hsame⟩ := hx
      have ran : ((ChangeStage.replacing u hash).step s r).run server.accounts =
          ⟨.ok (.ended (.ok (.ok ()))), { server.accounts with
            stored := server.accounts.stored.setHash r.username hash }, []⟩ := by
        unfold ChangeStage.step
        simp only [Act.run_bind, Accounts.run_consult, hs.in_memory, Users.store,
          Users.replaceHash, hfind, hsame, if_true, Act.run_pure, List.append_nil]
      refine ⟨_, _, _, run_changing ran, .answers ?_ .swapped⟩
      intro e hb
      cases hb with
      | outrun hother => exact hother x hfind hsame
    · push Not at hx
      have ran : ((ChangeStage.replacing u hash).step s r).run server.accounts =
          ⟨.ok (.ended (.ok (.error .mismatch))), server.accounts, []⟩ := by
        unfold ChangeStage.step
        cases hfind : server.accounts.stored.find? r.username with
        | none =>
          simp only [Act.run_bind, Accounts.run_consult, hs.in_memory, Users.store,
            Users.replaceHash, hfind, Act.run_pure, List.append_nil]
        | some x =>
          simp only [Act.run_bind, Accounts.run_consult, hs.in_memory, Users.store,
            Users.replaceHash, hfind, if_neg (hx x hfind), Act.run_pure, List.append_nil]
      exact ⟨_, _, _, run_changing ran, .rejects (.outrun hx) rfl rfl⟩
  | ended result => exact held.elim

/-- When nothing that is taken for granted is missing, no step of any work fails. -/
theorem works (hs : Sturdy s) (hf : Fit s server.accounts) (op : Operation) (r : op.Request)
    {w : Work op} (held : Work.Held s op w) : Works s server op r w := by
  cases op with
  | sum => exact works_sum r
  | concat => exact works_concat r
  | uppercase => exact works_uppercase r
  | count => exact works_count r
  | register => exact works_register hs r held
  | login => exact works_login hs hf r
  | updatePassword => exact works_updatePassword hs r held
  | validToken => exact works_validToken r

end

end ServiceMesh.Server
