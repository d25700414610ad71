-- Tokens and time: a token is good from the login that gives it out to its last second, whatever
-- is done in between, and a text that carries no claims is never good.
import ServiceMesh.Proofs.Account.OverlapLaws
import ServiceMesh.Proofs.Token.Carried

namespace ServiceMesh.Accounts

variable {σ α β : Type} {s : Setting σ} {key : Token.Key}

/-! ## What may happen in between -/

/-- What may happen between a login and the use of its token. Calls that overlap take their steps
apart, each from wherever it has come to. -/
inductive Move where
  | register (r : Registration)
  | change (r : PasswordChange)
  | registerStep (r : Registration) (stage : RegisterStage)
  | changeStep (r : PasswordChange) (stage : ChangeStage)
  | login (r : Credentials)
  | present (token : String)
  | wait (seconds : Nat)

/-- The accounts after a move; what it comes to, or that it breaks off, is of no account. -/
def Move.after (s : Setting σ) (a : Accounts σ) : Move → Accounts σ
  | .register r => ((Accounts.register s r).run a).state
  | .change r => ((updatePassword s r).run a).state
  | .registerStep r stage => ((stage.step s r).run a).state
  | .changeStep r stage => ((stage.step s r).run a).state
  | .login r => ((Accounts.login s r).run a).state
  | .present token => ((validToken s token).run a).state
  | .wait seconds => { a with now := a.now + seconds }

def afterMoves (s : Setting σ) (a : Accounts σ) (moves : List Move) : Accounts σ :=
  moves.foldl (Move.after s) a

/-! ## Only waiting moves the clock -/

/-- An act that leaves the clock as it is. -/
def KeepsTime (act : Act (Accounts σ) α) : Prop := ∀ a, (act.run a).state.now = a.now

theorem KeepsTime.bind {act : Act (Accounts σ) α} {f : α → Act (Accounts σ) β}
    (h : KeepsTime act) (hf : ∀ x, KeepsTime (f x)) : KeepsTime (act >>= f) := by
  intro a
  rw [Act.run_bind]
  have ha := h a
  rcases hrun : act.run a with ⟨c | x, b, notes⟩ <;> rw [hrun] at ha
  · exact ha
  · exact (hf x b).trans ha

theorem keepsTime_pure (x : α) : KeepsTime (pure x : Act (Accounts σ) α) := fun _ => rfl

theorem keepsTime_consult (operation : σ → α × σ) : KeepsTime (consult operation) := fun _ => rfl

theorem keepsTime_makeHash (password : String) : KeepsTime (makeHash s password) := fun _ => rfl

theorem keepsTime_registerStep (r : Registration) (stage : RegisterStage) :
    KeepsTime (stage.step s r) := by
  cases stage with
  | hashing =>
    refine (keepsTime_makeHash _).bind fun hash => ?_
    cases hash <;> exact keepsTime_pure _
  | inserting hash =>
    refine KeepsTime.bind (fun _ => rfl) fun b => KeepsTime.bind (fun _ => rfl) fun _ => ?_
    refine (keepsTime_consult _).bind fun inserted => ?_
    rcases inserted with ⟨_ | f⟩ | ⟨⟩ <;> exact keepsTime_pure _
  | ended result => exact keepsTime_pure _

theorem keepsTime_changeStep (r : PasswordChange) (stage : ChangeStage) :
    KeepsTime (stage.step s r) := by
  cases stage with
  | finding =>
    refine (keepsTime_consult _).bind fun found => ?_
    rcases found with f | _ | user <;> exact keepsTime_pure _
  | verifying user =>
    unfold ChangeStage.step
    dsimp only
    split <;> exact keepsTime_pure _
  | hashing user =>
    refine (keepsTime_makeHash _).bind fun hash => ?_
    cases hash <;> exact keepsTime_pure _
  | replacing user hash =>
    refine (keepsTime_consult _).bind fun replaced => ?_
    rcases replaced with f | _ | user <;> exact keepsTime_pure _
  | ended result => exact keepsTime_pure _

theorem keepsTime_register (r : Registration) : KeepsTime (register s r) := by
  have hstep := keepsTime_registerStep (s := s) r
  refine (hstep _).bind fun stage => (hstep _).bind fun stage => ?_
  cases stage <;> exact keepsTime_pure _

theorem keepsTime_updatePassword (r : PasswordChange) : KeepsTime (updatePassword s r) := by
  have hstep := keepsTime_changeStep (s := s) r
  refine (hstep _).bind fun stage => (hstep _).bind fun stage => (hstep _).bind fun stage =>
    (hstep _).bind fun stage => ?_
  cases stage <;> exact keepsTime_pure _

theorem keepsTime_login (r : Credentials) : KeepsTime (login s r) := by
  refine (keepsTime_consult _).bind fun found => ?_
  rcases found with f | _ | user
  · exact keepsTime_pure _
  · exact keepsTime_pure _
  · dsimp only
    split
    · exact keepsTime_pure _
    · exact keepsTime_pure _
    · refine KeepsTime.bind (fun _ => rfl) fun b => ?_
      split
      · exact fun _ => rfl
      · exact KeepsTime.bind (fun _ => rfl) fun _ => keepsTime_pure _

/-- Whom a token belongs to is told without a change to the accounts. -/
theorem state_validToken (token : String) (a : Accounts σ) :
    ((validToken s token).run a).state = a := by
  unfold validToken
  rw [Act.run_bind_ok (Act.run_get a)]
  cases s.tokens.validate a.now token with
  | ok claims => rfl
  | error fault => rfl

theorem now_le_after (a : Accounts σ) (move : Move) : a.now ≤ (move.after s a).now := by
  cases move with
  | register r => exact Int.le_of_eq (keepsTime_register r a).symm
  | change r => exact Int.le_of_eq (keepsTime_updatePassword r a).symm
  | registerStep r stage => exact Int.le_of_eq (keepsTime_registerStep r stage a).symm
  | changeStep r stage => exact Int.le_of_eq (keepsTime_changeStep r stage a).symm
  | login r => exact Int.le_of_eq (keepsTime_login r a).symm
  | present token =>
    simp only [Move.after, state_validToken]
    exact Int.le_refl _
  | wait seconds =>
    simp only [Move.after]
    omega

/-- The clock goes on, whatever happens. -/
theorem now_le_afterMoves (a : Accounts σ) (moves : List Move) :
    a.now ≤ (afterMoves s a moves).now := by
  induction moves generalizing a with
  | nil => exact Int.le_refl _
  | cons move moves ih => exact Int.le_trans (now_le_after a move) (ih (move.after s a))

/-! ## Logging in and showing a token -/

/-- A login that gives a token has found a user, whose name the token says. -/
theorem issue_of_login (hs : s.tokens = .signed key) {r : Credentials} {a : Accounts σ}
    {issued : IssuedToken} (h : ((login s r).run a).result = .ok (.ok (.ok issued))) :
    ∃ u, (s.store.find r.username a.stored).1 = .ok (some u) ∧
      Token.issue key a.now u.username = .ok issued.token := by
  unfold login at h
  rw [Act.run_bind_ok (run_consult _ _)] at h
  cases hfind : (s.store.find r.username a.stored).1 with
  | error f =>
    simp only [hfind] at h
    cases h
  | ok found =>
    cases found with
    | none =>
      simp only [hfind] at h
      cases h
    | some u =>
      simp only [hfind] at h
      split at h
      · cases h
      · cases h
      · rw [Act.run_bind_ok (Act.run_get _)] at h
        simp only [hs, TokenScheme.signed] at h
        cases hissue : Token.issue key a.now u.username with
        | error c =>
          simp only [hissue] at h
          cases h
        | ok token =>
          simp only [hissue] at h
          cases h
          exact ⟨u, rfl, hissue⟩

theorem run_validToken (hs : s.tokens = .signed key) (token : String) (a : Accounts σ) :
    ((validToken s token).run a).result =
      match Token.validate key a.now token with
      | .ok claims => .ok (.ok (.ok claims.username))
      | .error _ => .ok (.ok (.error .invalidToken)) := by
  unfold validToken
  rw [Act.run_bind_ok (Act.run_get a)]
  simp only [hs, TokenScheme.signed]
  cases Token.validate key a.now token with
  | ok claims => rfl
  | error fault => rfl

/-- A user who gives the right password gets a token, as long as there is a last second for it. -/
theorem result_login (hs : s.tokens = .signed key) {r : Credentials} {a : Accounts σ} {u : User}
    (hfind : (s.store.find r.username a.stored).1 = .ok (some u))
    (hverify : s.passwords.verify r.password u.passwordHash = .ok true)
    (hrange : Token.InRange (a.now + key.expiry)) :
    ∃ issued, ((login s r).run a).result = .ok (.ok (.ok issued)) ∧
      issued.expiresIn = key.expiry := by
  have hissue : Token.issue key a.now u.username =
      .ok (Token.ofClaims key.secret ⟨u.username, a.now + key.expiry⟩) := if_pos hrange
  refine ⟨⟨Token.ofClaims key.secret ⟨u.username, a.now + key.expiry⟩, key.expiry⟩, ?_, rfl⟩
  unfold login
  rw [Act.run_bind_ok (run_consult _ _)]
  simp only [hfind, hverify]
  rw [Act.run_bind_ok (Act.run_get _)]
  simp only [hs, TokenScheme.signed, hissue]
  rfl

/-! ## The laws -/

/-- How tokens are given out and judged. -/
structure TokensHold (s : Setting σ) (key : Token.Key) : Prop where
  /-- A user who gives the right password gets a token, as long as there is a last second for
  it. -/
  given : ∀ (r : Credentials) (a : Accounts σ) u,
    (s.store.find r.username a.stored).1 = .ok (some u) →
    s.passwords.verify r.password u.passwordHash = .ok true →
    Token.InRange (a.now + key.expiry) →
    ∃ issued, ((login s r).run a).result = .ok (.ok (.ok issued)) ∧
      issued.expiresIn = key.expiry
  /-- A token that a login has given out is good up to its last second, whatever has happened
  since, and belongs to who has logged in; from then on it is not good. -/
  window : ∀ (r : Credentials) (a : Accounts σ) issued, 0 ≤ a.now →
    ((login s r).run a).result = .ok (.ok (.ok issued)) →
    ∀ moves, let later := afterMoves s ((login s r).run a).state moves
      a.now ≤ later.now ∧ ((validToken s issued.token).run later).result =
        .ok (.ok (if later.now ≤ a.now + key.expiry then .ok r.username
          else .error .invalidToken))
  /-- A text that carries no claims is no good token, at any time. -/
  strangers : ∀ token, (∀ claims, ¬ Token.Carries key.secret token claims) →
    ∀ a : Accounts σ, ((validToken s token).run a).result = .ok (.ok (.error .invalidToken))
  /-- Of any text it is told whom it belongs to, or that it is no good token: nothing fails or
  breaks off, and nothing is changed. -/
  decided : ∀ token (a : Accounts σ),
    (((validToken s token).run a).result = .ok (.ok (.error .invalidToken)) ∨
      ∃ claims, Token.Carries key.secret token claims ∧
        ((validToken s token).run a).result = .ok (.ok (.ok claims.username))) ∧
    ((validToken s token).run a).state = a

theorem window_of_login (hs : s.tokens = .signed key)
    (hfind : ∀ name stored u, (s.store.find name stored).1 = .ok (some u) → u.username = name)
    {r : Credentials} {a : Accounts σ} {issued : IssuedToken} (hnow : 0 ≤ a.now)
    (h : ((login s r).run a).result = .ok (.ok (.ok issued))) {later : Accounts σ}
    (hlater : a.now ≤ later.now) :
    ((validToken s issued.token).run later).result =
      .ok (.ok (if later.now ≤ a.now + key.expiry then .ok r.username
        else .error .invalidToken)) := by
  obtain ⟨u, hu, hissue⟩ := issue_of_login hs h
  obtain ⟨hgood, hover⟩ := Token.validate_issued hissue later.now (Int.le_trans hnow hlater)
  rw [run_validToken hs]
  by_cases hle : later.now ≤ a.now + key.expiry
  · rw [hgood hle, if_pos hle, hfind r.username a.stored u hu]
  · obtain ⟨fault, hfault⟩ := hover (by omega)
    rw [hfault, if_neg hle]

theorem result_of_stranger (hs : s.tokens = .signed key) {token : String}
    (h : ∀ claims, ¬ Token.Carries key.secret token claims) (a : Accounts σ) :
    ((validToken s token).run a).result = .ok (.ok (.error .invalidToken)) := by
  rw [run_validToken hs]
  cases hvalid : Token.validate key a.now token with
  | ok claims => exact absurd (Token.carries_of_validate hvalid) (h claims)
  | error fault => rfl

/-- A token is good from the login that gives it out up to its last second and no longer, and any
text that does not carry claims under the secret is turned down. -/
theorem tokens_are_good_up_to_their_last_second (hs : s.tokens = .signed key)
    (hfind : ∀ name stored u, (s.store.find name stored).1 = .ok (some u) → u.username = name) :
    TokensHold s key := by
  refine ⟨fun r a u => result_login hs, ?_, fun token => result_of_stranger hs, ?_⟩
  · intro r a issued hnow hlogin moves
    have hlater : a.now ≤ (afterMoves s ((login s r).run a).state moves).now := by
      have hmoves := now_le_afterMoves (s := s) ((login s r).run a).state moves
      rw [keepsTime_login r a] at hmoves
      exact hmoves
    exact ⟨hlater, window_of_login hs hfind hnow hlogin hlater⟩
  · intro token a
    refine ⟨?_, state_validToken token a⟩
    rw [run_validToken hs]
    cases hvalid : Token.validate key a.now token with
    | ok claims => exact Or.inr ⟨claims, Token.carries_of_validate hvalid, rfl⟩
    | error fault => exact Or.inl rfl

/-- Ann's account, a thousand seconds after 1970. -/
def annsAccounts : Accounts Users := ⟨[⟨"0", "ann", "Ann", ".old", 0⟩], 1000, 1, 1, []⟩

/-- What is done while ann's token is good: she changes her password, another ann tries to
register, and a minute goes by. -/
def annsMinute : List Move :=
  [.change ⟨"ann", "old", "new"⟩, .wait 30, .register ⟨"ann", "mine", "Ann"⟩, .wait 30]

theorem token_of_ann_is_good_for_a_minute :
    plainSetting.tokens = .signed ⟨"key", 60⟩ ∧
      (∀ name stored u,
        (plainSetting.store.find name stored).1 = .ok (some u) → u.username = name) ∧
      TokensHold plainSetting ⟨"key", 60⟩ ∧
      ∃ issued,
        ((login plainSetting ⟨"ann", "old"⟩).run annsAccounts).result = .ok (.ok (.ok issued)) ∧
        let b := ((login plainSetting ⟨"ann", "old"⟩).run annsAccounts).state
        ((validToken plainSetting issued.token).run (afterMoves plainSetting b annsMinute)).result =
            .ok (.ok (.ok "ann")) ∧
          ((validToken plainSetting issued.token).run
            (afterMoves plainSetting b (annsMinute ++ [.wait 1]))).result =
              .ok (.ok (.error .invalidToken)) := by
  have hfind : ∀ name stored u,
      (plainSetting.store.find name stored).1 = .ok (some u) → u.username = name := by
    intro name stored u h
    exact Users.username_of_find? (Except.ok.inj h)
  have hold : TokensHold plainSetting ⟨"key", 60⟩ :=
    tokens_are_good_up_to_their_last_second rfl hfind
  obtain ⟨issued, hissued, -⟩ := hold.given ⟨"ann", "old"⟩ annsAccounts
    ⟨"0", "ann", "Ann", ".old", 0⟩ rfl rfl ⟨by decide, by decide⟩
  refine ⟨rfl, hfind, hold, issued, hissued, ?_, ?_⟩
  · rw [(hold.window _ _ issued (by decide) hissued annsMinute).2]
    rw [if_pos (by decide +kernel)]
  · rw [(hold.window _ _ issued (by decide) hissued (annsMinute ++ [Move.wait 1])).2]
    rw [if_neg (by decide +kernel)]

end ServiceMesh.Accounts
