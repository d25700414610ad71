-- Changes of a password that have read the same hash: the first swap takes
-- that hash away for good, so the others fail. A call that fails has changed
-- nothing.
import ServiceMesh.Proofs.Account.Overlap

namespace ServiceMesh.Accounts

variable {s : Setting Users} {a b : Accounts Users} {c d : Call} {book : Book} {t : Traffic}

/-! ## What the calls have read -/

/-- At some point of the events, call `i` had read user `u` and not yet verified a password. -/
def Read (s : Setting Users) (a : Accounts Users) (events : List Event) (i : Nat) (u : User) : Prop :=
  ∃ past r, past <+: events ∧
    (Traffic.run s (.quiet a) past).calls[i]? = some (.change r (.verifying u))

/-- A change that goes on still means the user that it has read. After one that has succeeded,
the hash of that user is another one. -/
def Call.Recalls (users : Users) (u : User) : Call → Prop
  | .change _ (.verifying v) => v = u
  | .change _ (.hashing v) => v = u
  | .change _ (.replacing v _) => v = u
  | .change r (.ended result) => result = .ok (.ok ()) →
    ∀ x, users.find? r.username = some x → x.passwordHash ≠ u.passwordHash
  | _ => False

/-- What holds of a user that call `i` has read: no call is about to store that hash again. -/
structure Recalled (s : Setting Users) (t : Traffic) (i : Nat) (u : User) : Prop where
  made : ∃ p, MadeOf s t.accounts p u.passwordHash
  not_pending : ∀ (j : Nat) (c : Call), t.calls[j]? = some c → c.pending ≠ some u.passwordHash
  recalls : ∃ c, t.calls[i]? = some c ∧ c.Recalls t.users u

theorem Turn.recalls (h : Turn s a c b d) {u : User} (hp : c.pending ≠ some u.passwordHash)
    (hc : c.Recalls a.stored u) : d.Recalls b.stored u := by
  cases h with
  | verified _ | rehashed _ | changeOver => exact hc
  | gaveUp _ _ hres => exact fun he => absurd he hres
  | @swapped r v x hash hf hx =>
    intro _ y hy hyu
    rw [Users.find?_setHash, hf] at hy
    simp only [Option.map_some, Users.username_of_find? hf, if_true, Option.some.injEq] at hy
    subst hy
    exact hp (congrArg some hyu)
  | _ => exact hc.elim

/-- A turn of another call does not bring back the hash that a change has replaced. -/
theorem Turn.recalls_other (h : Turn s a c b d) {u : User} {e : Call}
    (hp : c.pending ≠ some u.passwordHash) (he : e.Recalls a.stored u) : e.Recalls b.stored u := by
  cases e with
  | register => exact he.elim
  | change r stage =>
    cases stage with
    | ended result =>
      intro hres x hx hxu
      rcases h.stored hx with hx | hx
      · exact he hres x hx hxu
      · exact hp (hxu ▸ hx)
    | _ => exact he

theorem recalled_begin {i : Nat} {u : User} (h : Recalled s t i u) (hp : c.pending = none) :
    Recalled s (t.begin c) i u := by
  refine ⟨h.made, fun j d hd => ?_, ?_⟩
  · rcases get_begin hd with hd | rfl
    · exact h.not_pending j d hd
    · rw [hp]; simp
  · obtain ⟨d, hd, hr⟩ := h.recalls
    refine ⟨d, ?_, hr⟩
    unfold Traffic.begin
    rw [List.getElem?_append_left (List.getElem?_eq_some_iff.1 hd).1]
    exact hd

theorem recalled_turn (hs : Honest s) {i j : Nat} {u : User} (h : Recalled s t i u)
    (hc : t.calls[j]? = some c) (ht : Turn s t.accounts c b d) :
    Recalled s ⟨b, t.calls.set j d⟩ i u := by
  obtain ⟨p, hm⟩ := h.made
  have hcp := h.not_pending j c hc
  refine ⟨⟨p, hm.mono ht.hashes_le⟩, fun k e he hep => ?_, ?_⟩
  · rcases get_set he with ⟨_, rfl⟩ | ⟨_, he⟩
    · exact absurd rfl (ht.pending_new hs hep hm)
    · exact h.not_pending k e he hep
  · obtain ⟨e, he, hr⟩ := h.recalls
    by_cases hij : j = i
    · subst hij
      rw [hc] at he
      cases he
      exact ⟨d, List.getElem?_set_self (List.getElem?_eq_some_iff.1 hc).1, ht.recalls hcp hr⟩
    · exact ⟨e, by rw [List.getElem?_set_ne hij]; exact he, ht.recalls_other hcp hr⟩

theorem recalled_step (hs : Honest s) {i : Nat} {u : User} (h : Recalled s t i u) (e : Event) :
    Recalled s (t.step s e) i u := by
  cases e with
  | register r => exact recalled_begin h rfl
  | change r => exact recalled_begin h rfl
  | wait seconds => exact ⟨h.made, h.not_pending, h.recalls⟩
  | turn j =>
    show Recalled s (t.turn s j) i u
    cases hc : t.calls[j]? with
    | none =>
      have hsame : t.turn s j = t := by simp [Traffic.turn, hc]
      rw [hsame]
      exact h
    | some c =>
      obtain ⟨b, d, he, ht⟩ := turn_spec hs.in_memory hc
      rw [he]
      exact recalled_turn hs h hc ht

/-- A call that has taken no step yet. -/
def Call.Beginning : Call → Prop
  | .register _ .hashing => True
  | .change _ .finding => True
  | _ => False

/-- A call after an event was the same before, or begins with it, or has had its turn. -/
theorem call_step (hs : Honest s) {e : Event} {i : Nat} (hd : (t.step s e).calls[i]? = some d) :
    t.calls[i]? = some d ∨ d.Beginning ∨
      ∃ c b, e = .turn i ∧ t.calls[i]? = some c ∧ (t.step s e).accounts = b ∧
        Turn s t.accounts c b d := by
  cases e with
  | register r | change r =>
    rcases get_begin hd with hd | rfl
    · exact Or.inl hd
    · exact Or.inr (Or.inl trivial)
  | wait seconds => exact Or.inl hd
  | turn j =>
    have hd' : (t.turn s j).calls[i]? = some d := hd
    cases hc : t.calls[j]? with
    | none =>
      have hsame : t.turn s j = t := by simp [Traffic.turn, hc]
      rw [hsame] at hd'
      exact Or.inl hd'
    | some c =>
      obtain ⟨b, d', he, ht⟩ := turn_spec hs.in_memory hc
      rw [he] at hd'
      rcases get_set hd' with ⟨rfl, rfl⟩ | ⟨_, hd'⟩
      · exact Or.inr (Or.inr ⟨c, b, rfl, hc, congrArg Traffic.accounts he, ht⟩)
      · exact Or.inl hd'

/-- A change that means to verify a password meant to before, or has just found the user. -/
theorem read_step (hs : Honest s) {e : Event} {i : Nat} {r : PasswordChange} {u : User}
    (hd : (t.step s e).calls[i]? = some (.change r (.verifying u))) :
    t.calls[i]? = some (.change r (.verifying u)) ∨
      (t.step s e).users.find? r.username = some u := by
  rcases call_step hs hd with hd | hb | ⟨c, b, _, _, hacc, ht⟩
  · exact Or.inl hd
  · exact hb.elim
  · cases ht with
    | found hf =>
      right
      unfold Traffic.users
      rw [hacc]
      exact hf

theorem recalled_run (hs : Honest s) (hk : Kept s book a) (events : List Event) {i : Nat} {u : User}
    (h : Read s a events i u) : Recalled s (Traffic.run s (.quiet a) events) i u := by
  induction events using List.reverseRecOn with
  | nil =>
    obtain ⟨past, r, hp, hr⟩ := h
    rw [List.prefix_nil.1 hp] at hr
    simp [Traffic.run, Traffic.quiet] at hr
  | append_singleton events e ih =>
    rw [Traffic.run_snoc]
    obtain ⟨past, r, hp, hr⟩ := h
    rcases List.prefix_concat_iff.1 hp with rfl | hp
    · rw [Traffic.run_snoc] at hr
      rcases read_step hs hr with hr' | hf
      · exact recalled_step hs (ih ⟨events, r, List.prefix_refl _, hr'⟩) e
      · have hg := good_step hs (good_run hs hk events) e
        exact ⟨hg.kept.made hf, fun j c hc hcp => hg.not_stored j c _ hc hcp _ u hf rfl,
          _, hr, rfl⟩
    · exact recalled_step hs (ih ⟨past, r, hp, hr⟩) e

/-! ## A change that succeeds -/

/-- A stored hash has given way to a hash of the new password, while it still verified the old
one. -/
def Swap (s : Setting Users) (r : PasswordChange) (before after : Users) : Prop :=
  ∃ u hash, before.find? r.username = some u ∧
    s.passwords.verify r.password u.passwordHash = .ok true ∧
    after = before.setHash r.username hash ∧
    ∀ q, s.passwords.verify q hash = .ok (decide (q = r.newPassword))

/-- A change that has succeeded had done so before, or has just put its hash in the place of
the one that it had read. -/
theorem success_step (hs : Honest s) {e : Event} {i : Nat} {r : PasswordChange}
    (hd : (t.step s e).calls[i]? = some (.change r (.ended (.ok (.ok ()))))) :
    t.calls[i]? = some (.change r (.ended (.ok (.ok ())))) ∨
      ∃ u x hash, e = .turn i ∧ t.calls[i]? = some (.change r (.replacing u hash)) ∧
        t.users.find? r.username = some x ∧ x.passwordHash = u.passwordHash ∧
        (t.step s e).users = t.users.setHash r.username hash := by
  rcases call_step hs hd with hd | hb | ⟨c, b, he, hc, hacc, ht⟩
  · exact Or.inl hd
  · exact hb.elim
  · cases ht with
    | swapped hf hx =>
      exact Or.inr ⟨_, _, _, he, hc, hf, hx, congrArg Accounts.stored hacc⟩
    | gaveUp _ _ hres => exact absurd rfl hres
    | changeOver => exact Or.inl hc

theorem swap_of_success (hs : Honest s) (hk : Kept s book a) (events : List Event) {i : Nat}
    {r : PasswordChange}
    (h : (Traffic.run s (.quiet a) events).calls[i]? = some (.change r (.ended (.ok (.ok ()))))) :
    ∃ past later, events = past ++ .turn i :: later ∧
      Swap s r (Traffic.run s (.quiet a) past).users
        (Traffic.run s (.quiet a) (past ++ [.turn i])).users := by
  induction events using List.reverseRecOn with
  | nil => simp [Traffic.run, Traffic.quiet] at h
  | append_singleton events e ih =>
    rw [Traffic.run_snoc] at h
    rcases success_step hs h with h | ⟨u, x, hash, rfl, hc, hf, hx, hu⟩
    · obtain ⟨past, later, rfl, hswap⟩ := ih h
      exact ⟨past, later ++ [e], by simp, hswap⟩
    · obtain ⟨hv, n, _, hn⟩ := (good_run hs hk events).sound i _ hc
      refine ⟨events, [], by simp, x, hash, hf, by rw [hx]; exact hv, ?_, hs.verifies _ _ _ hn⟩
      rw [Traffic.run_snoc]
      exact hu

/-- Of the changes that have read one hash of one user, one succeeds at most: its swap takes
that hash away for good. -/
theorem success_unique (hs : Honest s) (hk : Kept s book a) (events : List Event) {i j : Nat}
    {r q : PasswordChange} {u v : User} (hname : r.username = q.username)
    (hhash : u.passwordHash = v.passwordHash)
    (hi : (Traffic.run s (.quiet a) events).calls[i]? = some (.change r (.ended (.ok (.ok ())))))
    (hj : (Traffic.run s (.quiet a) events).calls[j]? = some (.change q (.ended (.ok (.ok ())))))
    (hu : Read s a events i u) (hv : Read s a events j v) : i = j := by
  induction events using List.reverseRecOn with
  | nil => simp [Traffic.run, Traffic.quiet] at hi
  | append_singleton events e ih =>
    -- A call that has ended is not at its reading, so it has read before this event.
    have before : ∀ {k : Nat} {w : User} {p : PasswordChange}, Read s a (events ++ [e]) k w →
        (Traffic.run s (.quiet a) (events ++ [e])).calls[k]? =
          some (.change p (.ended (.ok (.ok ())))) → Read s a events k w := by
      rintro k w p ⟨past, p', hp, hr⟩ hk
      rcases List.prefix_concat_iff.1 hp with rfl | hp
      · rw [hk] at hr; cases hr
      · exact ⟨past, p', hp, hr⟩
    have hu' := before hu hi
    have hv' := before hv hj
    -- The one that succeeds now cannot have read the hash that an earlier one replaced.
    have clash : ∀ {k l : Nat} {p p' : PasswordChange} {w w' x y : User} {hash : String},
        p.username = p'.username → w.passwordHash = w'.passwordHash →
        Read s a events k w → Read s a events l w' →
        (Traffic.run s (.quiet a) events).calls[k]? = some (.change p (.replacing y hash)) →
        (Traffic.run s (.quiet a) events).users.find? p.username = some x →
        x.passwordHash = y.passwordHash →
        (Traffic.run s (.quiet a) events).calls[l]? = some (.change p' (.ended (.ok (.ok ())))) →
        False := by
      intro k l p p' w w' x y hash hpp hww hw hw' hk' hx hxy hl
      obtain ⟨c, hc, hrec⟩ := (recalled_run hs hk events hw).recalls
      rw [hk'] at hc
      cases hc
      have hyw : y = w := hrec
      obtain ⟨c', hc', hrec'⟩ := (recalled_run hs hk events hw').recalls
      rw [hl] at hc'
      cases hc'
      refine hrec' rfl x (hpp ▸ hx) ?_
      rw [hxy, hyw, hww]
    rw [Traffic.run_snoc] at hi hj
    rcases success_step hs hi with hi | ⟨y, x, hash, he, hc, hx, hxy, _⟩
    · rcases success_step hs hj with hj | ⟨y, x, hash, he, hc, hx, hxy, _⟩
      · exact ih hi hj hu' hv'
      · exact (clash hname.symm hhash.symm hv' hu' hc hx hxy hi).elim
    · rcases success_step hs hj with hj | ⟨_, _, _, he', _⟩
      · exact (clash hname hhash hu' hv' hc hx hxy hj).elim
      · rw [he] at he'
        cases he'
        rfl

/-! ## A call that fails -/

/-- A call that has ended with an error. -/
def Call.Failed : Call → Prop
  | .register _ (.ended result) => ∀ id, result ≠ .ok (.ok id)
  | .change _ (.ended result) => result ≠ .ok (.ok ())
  | _ => False

/-- A call that has ended with success. -/
def Call.Succeeded : Call → Prop
  | .register _ (.ended result) => ∃ id, result = .ok (.ok id)
  | .change _ (.ended result) => result = .ok (.ok ())
  | _ => False

theorem Turn.users_or_succeeded (h : Turn s a c b d) : b.stored = a.stored ∨ d.Succeeded := by
  cases h with
  | inserted u => exact Or.inr ⟨_, rfl⟩
  | swapped => exact Or.inr rfl
  | _ => exact Or.inl rfl

/-- A call that has succeeded has no turns any more. -/
theorem Turn.of_succeeded (h : Turn s a c b d) (hc : c.Succeeded) : d = c := by
  cases h with
  | registerOver | changeOver => rfl
  | @gaveUp _ stage _ _ _ hopen _ =>
    cases stage with
    | ended result => exact absurd rfl (hopen result)
    | _ => exact hc.elim
  | _ => exact hc.elim

theorem succeeded_step (hs : Honest s) {i : Nat} (hc : t.calls[i]? = some c) (hsucc : c.Succeeded)
    (e : Event) : (t.step s e).calls[i]? = some c := by
  have hlt := (List.getElem?_eq_some_iff.1 hc).1
  cases e with
  | register r | change r =>
    show (t.calls ++ [_])[i]? = some c
    rw [List.getElem?_append_left hlt]
    exact hc
  | wait seconds => exact hc
  | turn j =>
    show (t.turn s j).calls[i]? = some c
    cases hj : t.calls[j]? with
    | none =>
      have hsame : t.turn s j = t := by simp [Traffic.turn, hj]
      rw [hsame]
      exact hc
    | some c' =>
      obtain ⟨b, d, he, ht⟩ := turn_spec hs.in_memory hj
      rw [he]
      by_cases hij : j = i
      · subst hij
        rw [hc] at hj
        cases hj
        rw [ht.of_succeeded hsucc]
        exact List.getElem?_set_self hlt
      · show (t.calls.set j d)[i]? = some c
        rw [List.getElem?_set_ne hij]
        exact hc

theorem succeeded_run (hs : Honest s) {i : Nat} (hc : t.calls[i]? = some c) (hsucc : c.Succeeded)
    (events : List Event) : (Traffic.run s t events).calls[i]? = some c := by
  induction events using List.reverseRecOn with
  | nil => exact hc
  | append_singleton events e ih =>
    rw [Traffic.run_snoc]
    exact succeeded_step hs ih hsucc e

/-- No turn of a call that has failed has changed the users. -/
theorem users_of_failed (hs : Honest s) {i : Nat} {past later : List Event}
    (hc : (Traffic.run s t (past ++ .turn i :: later)).calls[i]? = some c) (hf : c.Failed) :
    (Traffic.run s t (past ++ [.turn i])).users = (Traffic.run s t past).users := by
  rw [Traffic.run_snoc]
  show ((Traffic.run s t past).turn s i).users = _
  cases hi : (Traffic.run s t past).calls[i]? with
  | none => simp [Traffic.turn, hi]
  | some c' =>
    obtain ⟨b, d, he, ht⟩ := turn_spec hs.in_memory hi
    rw [he]
    rcases ht.users_or_succeeded with hu | hsucc
    · exact hu
    · exfalso
      have hd : ((Traffic.run s t past).step s (.turn i)).calls[i]? = some d := by
        show ((Traffic.run s t past).turn s i).calls[i]? = some d
        rw [he]
        exact List.getElem?_set_self (List.getElem?_eq_some_iff.1 hi).1
      have hlast := succeeded_run hs hd hsucc later
      rw [← List.singleton_append, ← List.append_assoc, Traffic.run_append, Traffic.run_snoc] at hc
      rw [hlast] at hc
      cases hc
      unfold Call.Succeeded at hsucc
      unfold Call.Failed at hf
      split at hsucc
      · obtain ⟨id, rfl⟩ := hsucc; exact hf id rfl
      · exact hf hsucc
      · exact hsucc

end ServiceMesh.Accounts
