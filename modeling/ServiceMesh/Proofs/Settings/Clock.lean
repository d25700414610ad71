-- The ranges of the numbers that settings bring, and the sums on the clock that they
-- enter. Only the end of a breaker's period and that of a token can be out of range.
import ServiceMesh.Account.Service
import ServiceMesh.Gateway.Link
import ServiceMesh.Proofs.Discovery.Stages
import ServiceMesh.Proofs.Endpoint.Visits
import ServiceMesh.Proofs.Token.Validity
import ServiceMesh.Service.Server
import ServiceMesh.Settings.Process

namespace ServiceMesh

/-! ## The ranges of settings -/

namespace Text

theorem readInteger_contains {r : IntegerRange} (hzero : r.contains 0 = true) {s : String} {n : Int}
    (h : readInteger r s = .ok n) : r.contains n = true := by
  unfold readInteger at h
  split at h
  · cases h
  · split at h
    · cases h
    · split at h
      · exact readDigits_contains hzero h
      · split at h <;> exact readDigits_contains hzero h

theorem asInteger_mem {s : String} {n : Int} (h : asInteger (.signed 64) s = .ok n) :
    Token.InRange n := by
  unfold asInteger at h
  cases hread : readInteger (.signed 64) s with
  | error e =>
    rw [hread] at h
    cases h
  | ok m =>
    rw [hread] at h
    cases h
    obtain ⟨hlow, hhigh⟩ := contains_iff.mp (readInteger_contains (by decide) hread)
    exact ⟨hlow, Int.lt_of_le_sub_one hhigh⟩

theorem asNatural_lt {bits : Nat} {s : String} {n : Nat} (h : asNatural bits s = .ok n) :
    n < 1 <<< bits := by
  have hpos : 0 < 1 <<< bits := by
    rw [Nat.one_shiftLeft]
    exact Nat.two_pow_pos bits
  have low : (IntegerRange.unsigned bits).low = 0 := rfl
  have high : (IntegerRange.unsigned bits).high = (1 <<< bits : Nat) - 1 := rfl
  have hzero : (IntegerRange.unsigned bits).contains 0 = true := by
    refine contains_iff.mpr ⟨Int.le_refl 0, ?_⟩
    omega
  unfold asNatural readNatural at h
  cases hread : readInteger (.unsigned bits) s with
  | error e =>
    rw [hread] at h
    cases h
  | ok m =>
    rw [hread] at h
    cases h
    obtain ⟨hlow, hhigh⟩ := contains_iff.mp (readInteger_contains hzero hread)
    omega

end Text

theorem of_bind_ok {ε α β : Type} {x : Except ε α} {f : α → Except ε β} {b : β}
    (h : (x >>= f) = .ok b) : ∃ a, x = .ok a ∧ f a = .ok b := by
  cases x with
  | error e => cases h
  | ok a => exact ⟨a, rfl, h⟩

namespace EndpointConfig

/-- The numbers fit the types that they are read as. -/
structure Fits (config : EndpointConfig) : Prop where
  maxFailures : config.maxFailures < UInt32.size
  openSeconds : config.openSeconds < UInt64.size

end EndpointConfig

namespace Environment

variable {env : Environment}

/-- What is read of a variable is its default or what a text stands for. -/
theorem parsed_mem {α : Type} {key : String} {read : String → Except String α} {default x : α}
    (h : env.parsed key read default = .ok x) : x = default ∨ ∃ raw, read raw = .ok x := by
  unfold parsed at h
  split at h
  · exact Or.inl (Except.ok.inj h).symm
  · next raw _ =>
    split at h
    · next y hread =>
      rw [Except.ok.inj h] at hread
      exact Or.inr ⟨raw, hread⟩
    · cases h

theorem parsed_natural_lt {key : String} {bits default n : Nat} (hd : default < 1 <<< bits)
    (h : env.parsed key (Text.asNatural bits) default = .ok n) : n < 1 <<< bits := by
  rcases parsed_mem h with rfl | ⟨raw, hread⟩
  · exact hd
  · exact Text.asNatural_lt hread

theorem endpoint_fits {config : EndpointConfig} (h : env.endpoint = .ok config) : config.Fits := by
  unfold endpoint at h
  obtain ⟨rate, -, h⟩ := of_bind_ok h
  obtain ⟨maxFailures, hmax, h⟩ := of_bind_ok h
  obtain ⟨openSeconds, hopen, h⟩ := of_bind_ok h
  cases h
  exact ⟨parsed_natural_lt (by decide) hmax, parsed_natural_lt (by decide) hopen⟩

theorem token_fits {tokens : TokenSettings} (h : env.token = .ok tokens) :
    Token.InRange tokens.expirySeconds := by
  unfold token at h
  obtain ⟨secret, -, h⟩ := of_bind_ok h
  obtain ⟨expiry, hexpiry, h⟩ := of_bind_ok h
  have hmem : Token.InRange expiry := by
    rcases parsed_mem hexpiry with rfl | ⟨raw, hread⟩
    · exact ⟨by decide, by decide⟩
    · exact Text.asInteger_mem hread
  cases h
  exact hmem

theorem retry_fits {retry : Retry} (h : env.retry = .ok retry) :
    Span.millis retry.timeout < UInt64.size := by
  unfold Environment.retry at h
  obtain ⟨max, -, h⟩ := of_bind_ok h
  obtain ⟨timeout, htimeout, h⟩ := of_bind_ok h
  cases h
  rw [Span.millis_ofMillis]
  exact parsed_natural_lt (by decide) htimeout

end Environment

namespace Workplace

variable {w : Workplace}

theorem server_endpoint {kind : ServiceKind} {fresh : String} {default : Nat} {s : ServerSettings}
    (h : w.server kind fresh default = .ok s) : w.extended.endpoint = .ok s.endpoint := by
  unfold server at h
  obtain ⟨⟨port, grpcPort⟩, -, h⟩ := of_bind_ok h
  obtain ⟨service, -, h⟩ := of_bind_ok h
  obtain ⟨endpoint, hendpoint, h⟩ := of_bind_ok h
  cases h
  exact hendpoint

theorem user_read {fresh : String} {s : UserSettings} (h : w.user fresh = .ok s) :
    w.extended.endpoint = .ok s.endpoint ∧ w.extended.token = .ok s.token := by
  unfold user at h
  obtain ⟨⟨port, grpcPort⟩, -, h⟩ := of_bind_ok h
  dsimp only at h
  split at h
  · cases h
  · obtain ⟨service, -, h⟩ := of_bind_ok h
    obtain ⟨endpoint, hendpoint, h⟩ := of_bind_ok h
    obtain ⟨token, htoken, h⟩ := of_bind_ok h
    cases h
    exact ⟨hendpoint, htoken⟩

theorem gateway_read {s : GatewaySettings} (h : w.gateway = .ok s) :
    w.extended.endpoint = .ok s.endpoint ∧ w.extended.retry = .ok s.retry := by
  unfold gateway at h
  dsimp only at h
  split at h
  · cases h
  · obtain ⟨origins, -, h⟩ := of_bind_ok h
    obtain ⟨port, -, h⟩ := of_bind_ok h
    obtain ⟨endpoint, hendpoint, h⟩ := of_bind_ok h
    obtain ⟨retry, hretry, h⟩ := of_bind_ok h
    obtain ⟨limit, -, h⟩ := of_bind_ok h
    cases h
    exact ⟨hendpoint, hretry⟩

end Workplace

/-! ## Endpoints -/

namespace EndpointConfig

/-- What every breaker of a process goes by. -/
def periods (config : EndpointConfig) : Breaker.Settings :=
  ⟨max config.maxFailures 1, config.openSeconds * 1000⟩

/-- The layers that a process puts around an endpoint: of an operation that it serves, or of an
instance that it calls. -/
inductive Layers (config : EndpointConfig) (c : Chain) : Prop where
  | served (op : Operation) (h : config.chain op = .ok c)
  | dialled (op : Operation) (i : Instance) (h : Link.chain config op i = .ok c)

variable {config : EndpointConfig} {c : Chain}

theorem breaker_keeps (config : EndpointConfig) (name : String) :
    (Layer.breaker ⟨name, config.periods, .closed 0⟩).Keeps config.periods :=
  ⟨rfl, Breaker.keepsCount_fresh config.periods⟩

/-- A limiter in front has no part in it. -/
theorem keeps_of_limited {rest : Chain} (hrest : rest.Keeps config.periods)
    (h : (Quota.perWindow config.rate 1).map (fun q => Layer.limiter ⟨q, none⟩ :: rest) = .ok c) :
    c.Keeps config.periods := by
  cases hq : Quota.perWindow config.rate 1 with
  | error crash =>
    rw [hq] at h
    cases h
  | ok q =>
    rw [hq] at h
    cases h
    exact Chain.keeps_cons.mpr ⟨trivial, hrest⟩

theorem Layers.keeps (h : config.Layers c) : c.Keeps config.periods := by
  cases h with
  | served op h =>
    have hrest : Chain.Keeps config.periods [.breaker ⟨op.name, config.periods, .closed 0⟩,
        .logging op.name, .instrumenting op.name] := by
      refine Chain.keeps_cons.mpr ⟨breaker_keeps config op.name, ?_⟩
      simp [Chain.Keeps, Layer.Keeps]
    unfold chain Chain.standard at h
    dsimp only at h
    split at h
    · cases h
      exact hrest
    · refine keeps_of_limited hrest ?_
      rw [← h]
      cases Quota.perWindow config.rate 1 <;> rfl
  | dialled op i h =>
    have hrest : Chain.Keeps config.periods [.breaker (Link.breaker config op i)] := by
      refine Chain.keeps_cons.mpr ⟨breaker_keeps config _, ?_⟩
      simp [Chain.Keeps]
    unfold Link.chain at h
    dsimp only at h
    split at h
    · cases h
      exact hrest
    · refine keeps_of_limited hrest ?_
      rw [← h]
      cases Quota.perWindow config.rate 1 <;> rfl

/-- What comes of the settings of endpoints, whoever calls and whenever. -/
structure Clocked (config : EndpointConfig) : Prop where
  /-- Another failure always fits the counter. -/
  counter_fits : ∀ {α : Type} {c : Chain}, config.Layers c → ∀ (now : Moment)
    (events : List (Session.Event α)) (b : Breaker),
    Layer.breaker b ∈ ((Session.fresh c now).run events).guard.chain →
    ∀ failures, b.circuit = .closed failures → failures + 1 < UInt32.size
  /-- Calls get their results, refusals or leave, whether or not a circuit opens over them, as
  long as the clock reaches to the end of a period. -/
  reliable : ∀ {α : Type} {c : Chain}, config.Layers c → ∀ (now : Moment)
    (events : List (Session.Event α)),
    ((Session.fresh c now).run events).Reliable config.periods
  /-- If it does not, failures in a row end with one that breaks off. -/
  last_failure_lost : ∀ (name : String) (now : Moment) (f : Failure),
    Instant.limit ≤ now.millis + config.openSeconds * 1000 →
    (((Breaker.Series.fresh name config.periods now : Breaker.Series Unit).run
      (List.replicate (max config.maxFailures 1 - 1) (.failing f))).outcome (.failing f)).result =
        .error .clockRange

theorem Fits.clocked (h : config.Fits) : config.Clocked where
  counter_fits := by
    intro α c hc now events b hb failures hclosed
    have hlt := (Session.reliable_run hc.keeps now events).counts b hb failures hclosed
    have hmax := h.maxFailures
    have hsize : UInt32.size = 4294967296 := rfl
    simp only [periods] at hlt
    omega
  reliable := fun hc now events => Session.reliable_run hc.keeps now events
  last_failure_lost := by
    intro name now f hlimit
    have hfull : config.periods.full = max config.maxFailures 1 := by
      show max 1 (max config.maxFailures 1) = max config.maxFailures 1
      omega
    have lost := @Breaker.Series.the_last_failure_is_lost Unit name config.periods now f hlimit
    rw [hfull] at lost
    exact lost

end EndpointConfig

/-! ## Logins -/

namespace Accounts

variable {σ : Type} {setting : Setting σ} {a : Accounts σ} {r : Credentials}

/-- The credentials are those of a user. -/
structure Known (setting : Setting σ) (a : Accounts σ) (r : Credentials) (user : User) : Prop where
  found : (setting.store.find r.username a.stored).1 = .ok (some user)
  verified : setting.passwords.verify r.password user.passwordHash = .ok true

theorem run_login {user : User} (h : Known setting a r user) :
    ((login setting r).run a).result = (setting.tokens.issue a.now user.username).map
      fun token => .ok (.ok ⟨token, setting.tokens.expiresIn⟩) := by
  obtain ⟨hfound, hverified⟩ := h
  unfold login
  have ran : (consult (setting.store.find r.username)).run a =
      ⟨.ok (.ok (some user)), { a with stored := (setting.store.find r.username a.stored).2 },
        []⟩ := by
    rw [run_consult, hfound]
  rw [Act.run_bind_ok ran]
  simp only [hverified]
  rw [Act.run_bind_ok (Act.run_get _)]
  cases hissue : setting.tokens.issue a.now user.username with
  | error c => rfl
  | ok token => rfl

end Accounts

namespace TokenSettings

/-- What the tokens of a process are made with. -/
def key (tokens : TokenSettings) : Token.Key := ⟨tokens.secret, tokens.expirySeconds⟩

/-- What a login with the right password comes to: a token, if its last second is in range. -/
structure Clocked (tokens : TokenSettings) : Prop where
  token_given : ∀ {σ : Type} (setting : Accounts.Setting σ) (a : Accounts σ) (r : Credentials)
    (user : User), setting.tokens = .signed tokens.key → Accounts.Known setting a r user →
    Token.InRange (a.now + tokens.expirySeconds) →
    ∃ token, ((Accounts.login setting r).run a).result =
      .ok (.ok (.ok ⟨token, tokens.expirySeconds⟩))
  login_lost : ∀ {σ : Type} (setting : Accounts.Setting σ) (a : Accounts σ) (r : Credentials)
    (user : User), setting.tokens = .signed tokens.key → Accounts.Known setting a r user →
    ¬ Token.InRange (a.now + tokens.expirySeconds) →
    ((Accounts.login setting r).run a).result = .error .sumRange
  /-- From 1970 on, a token that is given for a negative time is in range too. -/
  in_range_iff : ∀ now : Int, 0 ≤ now →
    (Token.InRange (now + tokens.expirySeconds) ↔
      now + tokens.expirySeconds < (1 <<< 63 : Nat))

theorem clocked {tokens : TokenSettings} (h : Token.InRange tokens.expirySeconds) :
    tokens.Clocked where
  token_given := by
    intro σ setting a r user hsigned hknown hrange
    rw [Accounts.run_login hknown, hsigned]
    show ∃ token, (Token.issue tokens.key a.now user.username).map _ = _
    cases hissue : Token.issue tokens.key a.now user.username with
    | error c => exact absurd hrange (Token.issue_error hissue).2
    | ok token => exact ⟨token, rfl⟩
  login_lost := by
    intro σ setting a r user hsigned hknown hrange
    rw [Accounts.run_login hknown, hsigned]
    show (Token.issue tokens.key a.now user.username).map _ = _
    cases hissue : Token.issue tokens.key a.now user.username with
    | error c =>
      rw [(Token.issue_error hissue).1]
      rfl
    | ok token => exact absurd (Token.issue_ok hissue).1 hrange
  in_range_iff := by
    intro now hnow
    unfold Token.InRange at h ⊢
    omega

end TokenSettings

/-! ## Retries -/

namespace Retry

/-- What calls that are tried again come to, whenever they begin before the last 2⁶⁴ milliseconds
of the clock: a deadline that the clock reaches, and then their attempts. -/
structure Clocked (retry : Retry) : Prop where
  deadline : ∀ now : Instant, now + UInt64.size ≤ Instant.limit →
    now.after (Span.millis retry.timeout) = .ok (now + Span.millis retry.timeout)
  goes_on : ∀ {σ κ ρ : Type} (now : Instant) (pick : Act σ (Except Failure κ))
    (call : κ → Nat → Act σ (Timed ρ)), now + UInt64.size ≤ Instant.limit →
    retry.run now pick call = retry.go pick call retry.attempts {}

theorem clocked {retry : Retry} (h : Span.millis retry.timeout < UInt64.size) :
    retry.Clocked := by
  have hmeets : ∀ now : Instant, now + UInt64.size ≤ Instant.limit → retry.Meets now :=
    fun now hnow => Nat.lt_of_lt_of_le (Nat.add_lt_add_left h now) hnow
  refine ⟨?_, ?_⟩
  · intro now hnow
    exact if_pos (hmeets now hnow)
  · intro σ κ ρ now pick call hnow
    exact run_of_meets (hmeets now hnow) pick call

end Retry

/-! ## The law -/

namespace Workplace

/-- What comes of the settings that the processes come by, once they meet the clock. -/
structure Clocked (w : Workplace) : Prop where
  add : ∀ fresh s, w.add fresh = .ok s → s.endpoint.Clocked
  text : ∀ fresh s, w.text fresh = .ok s → s.endpoint.Clocked
  user : ∀ fresh s, w.user fresh = .ok s → s.endpoint.Clocked ∧ s.token.Clocked
  gateway : ∀ s, w.gateway = .ok s → s.endpoint.Clocked ∧ s.retry.Clocked

theorem only_periods_and_tokens_can_outrun_the_clock (w : Workplace) : w.Clocked where
  add := fun _ _ h => (Environment.endpoint_fits (server_endpoint h)).clocked
  text := fun _ _ h => (Environment.endpoint_fits (server_endpoint h)).clocked
  user := by
    intro fresh s h
    obtain ⟨hendpoint, htoken⟩ := user_read h
    exact ⟨(Environment.endpoint_fits hendpoint).clocked,
      TokenSettings.clocked (Environment.token_fits htoken)⟩
  gateway := by
    intro s h
    obtain ⟨hendpoint, hretry⟩ := gateway_read h
    exact ⟨(Environment.endpoint_fits hendpoint).clocked,
      Retry.clocked (Environment.retry_fits hretry)⟩

/-- The longest periods and tokens that the loaders take. -/
def longest : Workplace :=
  ⟨[("RATE_LIMIT_PER_SECOND", "0"), ("BREAKER_MAX_FAILURES", "1"),
    ("BREAKER_OPEN_SECONDS", "18446744073709551615"),
    ("JWT_EXPIRY_SECONDS", "9223372036854775807")], []⟩

def longPeriods : EndpointConfig := ⟨0, 1, UInt64.size - 1⟩

def longTokens : TokenSettings := ⟨"dev-only-jwt-secret", (1 <<< 63 : Nat) - 1⟩

/-- Accounts that keep passwords as they are. -/
def plainAccounts : Accounts.Setting Users :=
  ⟨Users.store, ⟨fun _ p => .ok p, fun p h => .ok (p == h)⟩, .signed longTokens.key, toString⟩

/-- With them a failure does not reach its caller, and who knows the password gets no token. -/
theorem the_longest_settings_lose_calls_and_logins :
    (longest.user "1").map (fun s => (s.endpoint, s.token)) = .ok (longPeriods, longTokens) ∧
      (∃ c, longPeriods.chain .login = .ok c ∧
        ((Session.fresh c ⟨0, 0⟩).run [.start "call" 1]).find? "call" = some 1 ∧
        ((Session.finish "call" (some (.badGateway "down"))).run
          ((Session.fresh c ⟨0, 0⟩).run [.start "call" 1])).result = .error .clockRange) ∧
      ((Accounts.login plainAccounts ⟨"ann", "old"⟩).run
        { stored := [⟨"0", "ann", "Ann", "old", 0⟩], now := 1 }).result = .error .sumRange := by
  refine ⟨by decide +kernel, ⟨_, rfl, rfl, rfl⟩, rfl⟩

end Workplace

end ServiceMesh
