-- The laws of calls that overlap. A new hash takes the place of the very
-- hash that was verified, so no change of a password is lost, whatever the
-- order of the steps.
import ServiceMesh.Proofs.Account.Traffic

namespace ServiceMesh.Accounts

/-! ## What is taken for granted of hashes -/

/-- Accounts in memory whose hashes can be trusted: a hash verifies the password that it was
made of and no other, and no two hashes are the same. -/
structure Honest (s : Setting Users) : Prop where
  in_memory : s.store = Users.store
  verifies : ∀ n p h, s.passwords.hash n p = .ok h →
    ∀ q, s.passwords.verify q h = .ok (decide (q = p))
  fresh : ∀ n m p q h, s.passwords.hash n p = .ok h → s.passwords.hash m q = .ok h → n = m

/-- A hash that was made of a password, and counted. -/
def MadeOf (s : Setting Users) (a : Accounts Users) (p h : String) : Prop :=
  ∃ n < a.hashes, s.passwords.hash n p = .ok h

theorem MadeOf.mono {s : Setting Users} {a b : Accounts Users} {p h : String}
    (hm : MadeOf s a p h) (hab : a.hashes ≤ b.hashes) : MadeOf s b p h := by
  obtain ⟨n, hn, hh⟩ := hm
  exact ⟨n, Nat.lt_of_lt_of_le hn hab, hh⟩

/-- The next hash differs from all that were made. -/
theorem MadeOf.ne_next {s : Setting Users} (hs : Honest s) {a : Accounts Users} {p q h h' : String}
    (hm : MadeOf s a p h) (hn : s.passwords.hash a.hashes q = .ok h') : h ≠ h' := by
  rintro rfl
  obtain ⟨n, hlt, hh⟩ := hm
  have := hs.fresh _ _ _ _ _ hh hn
  omega

/-! ## The passwords that hold -/

/-- The password of each user, by name. -/
abbrev Book := String → Option String

/-- A book with a password put in it. -/
def Book.put (book : Book) : Option (String × String) → Book
  | none => book
  | some (name, p) => fun n => if n = name then some p else book n

/-- The users are those of the book, each with a hash made of the password there. -/
structure Kept (s : Setting Users) (book : Book) (a : Accounts Users) : Prop where
  absent : ∀ name, book name = none → a.stored.find? name = none
  present : ∀ name p, book name = some p →
    ∃ u, a.stored.find? name = some u ∧ MadeOf s a p u.passwordHash

/-- The name and the password that a call which has succeeded has put in force. -/
def Call.achieved : Call → Option (String × String)
  | .register r (.ended (.ok (.ok _))) => some (r.username, r.password)
  | .change r (.ended (.ok (.ok ()))) => some (r.username, r.newPassword)
  | _ => none

/-- What a call has achieved by going on. -/
def Call.news (before after : Call) : Option (String × String) :=
  match before.achieved with
  | some _ => none
  | none => after.achieved

namespace Traffic

/-- What the calls have achieved by an event. -/
def news (s : Setting Users) (t : Traffic) : Event → Option (String × String)
  | .turn i =>
    match t.calls[i]?, (t.turn s i).calls[i]? with
    | some before, some after => before.news after
    | _, _ => none
  | _ => none

/-- The book after some events: the registration of a name puts its password there, and of the
changes that succeed the last one holds. -/
def bookAfter (s : Setting Users) : Traffic → Book → List Event → Book
  | _, book, [] => book
  | t, book, e :: later => bookAfter s (t.step s e) (book.put (t.news s e)) later

theorem bookAfter_snoc (s : Setting Users) (t : Traffic) (book : Book) (past : List Event)
    (e : Event) :
    bookAfter s t book (past ++ [e]) = (bookAfter s t book past).put ((run s t past).news s e) := by
  induction past generalizing t book with
  | nil => rfl
  | cons e' past ih => exact ih _ _

end Traffic

variable {s : Setting Users} {a b : Accounts Users} {c d : Call} {book : Book} {t : Traffic}

/-! ## What a turn does to hashes and users -/

theorem Turn.hashes_le (h : Turn s a c b d) : a.hashes ≤ b.hashes := by
  cases h with
  | gaveUp hn => exact hn
  | _ => simp

/-- The hash that a call has made and not put in the store yet. -/
def Call.pending : Call → Option String
  | .register _ (.inserting hash) => some hash
  | .change _ (.replacing _ hash) => some hash
  | _ => none

/-- A hash that is pending after a turn is the next one, and the users are as before. -/
theorem Turn.pending (h : Turn s a c b d) {hash : String} (hd : d.pending = some hash) :
    ∃ q, s.passwords.hash a.hashes q = .ok hash := by
  cases h with
  | hashed hh => cases hd; exact ⟨_, hh⟩
  | rehashed hh => cases hd; exact ⟨_, hh⟩
  | _ => cases hd

/-- A user after a turn was there before, or has the hash that was pending. -/
theorem Turn.stored (h : Turn s a c b d) {name : String} {x : User}
    (hx : b.stored.find? name = some x) :
    a.stored.find? name = some x ∨ c.pending = some x.passwordHash := by
  cases h with
  | inserted u hn hu hh =>
    rw [Users.find?_append] at hx
    cases hf : Users.find? a.stored name with
    | some y => left; rw [hf] at hx; exact hx
    | none =>
      right
      rw [hf, Users.find?_cons] at hx
      split at hx
      · cases hx; rw [hh]; rfl
      · cases hx
  | @swapped r u y hash hf hy =>
    rw [Users.find?_setHash] at hx
    cases hg : a.stored.find? name with
    | none => rw [hg] at hx; cases hx
    | some z =>
      rw [hg] at hx
      simp only [Option.map_some, Option.some.injEq] at hx
      split at hx
      · right; subst hx; rfl
      · left; rw [hx]
  | _ => exact Or.inl hx

/-! ## Calls that know what they do -/

/-- What a call holds in its hands is what it should be: the user whose hash it means to
replace has the old password, and the hash that it means to store is of the new one. -/
def Call.Sound (s : Setting Users) (a : Accounts Users) : Call → Prop
  | .register r (.inserting hash) => MadeOf s a r.password hash
  | .change r (.hashing u) => s.passwords.verify r.password u.passwordHash = .ok true
  | .change r (.replacing u hash) =>
    s.passwords.verify r.password u.passwordHash = .ok true ∧ MadeOf s a r.newPassword hash
  | _ => True

theorem Call.Sound.mono (hc : c.Sound s a) (hab : a.hashes ≤ b.hashes) : c.Sound s b := by
  unfold Call.Sound at *
  split <;> first | exact hc | exact MadeOf.mono hc hab | exact ⟨hc.1, hc.2.mono hab⟩ | trivial

theorem Call.Sound.made (hc : c.Sound s a) {hash : String} (hp : c.pending = some hash) :
    ∃ p, MadeOf s a p hash := by
  unfold Call.pending at hp
  split at hp
  · cases hp; exact ⟨_, hc⟩
  · cases hp; exact ⟨_, hc.2⟩
  · cases hp

theorem Turn.sound (h : Turn s a c b d) (hc : c.Sound s a) : d.Sound s b := by
  cases h with
  | hashed hh => exact ⟨a.hashes, Nat.lt_succ_self _, hh⟩
  | verified hv => exact hv
  | rehashed hh => exact ⟨hc, a.hashes, Nat.lt_succ_self _, hh⟩
  | _ => trivial

/-! ## The book is kept -/

/-- The book is kept by whatever leaves the users as they are and counts no hash back. -/
theorem Kept.mono (hk : Kept s book a) (hu : b.stored = a.stored) (hab : a.hashes ≤ b.hashes) :
    Kept s book b := by
  refine ⟨fun name hn => hu ▸ hk.absent name hn, fun name p hp => ?_⟩
  obtain ⟨u, hf, hm⟩ := hk.present name p hp
  exact ⟨u, hu ▸ hf, hm.mono hab⟩

theorem Kept.made (hk : Kept s book a) {name : String} {u : User}
    (hf : a.stored.find? name = some u) : ∃ p, MadeOf s a p u.passwordHash := by
  cases hb : book name with
  | none => rw [hk.absent name hb] at hf; cases hf
  | some p =>
    obtain ⟨x, hx, hm⟩ := hk.present name p hb
    rw [hf] at hx
    cases hx
    exact ⟨p, hm⟩

theorem find?_insert {users : Users} {u : User} (hn : users.find? u.username = none)
    (name : String) :
    Users.find? (users ++ [u]) name = if name = u.username then some u else users.find? name := by
  rw [Users.find?_append, Users.find?_cons]
  by_cases h : name = u.username
  · subst h
    rw [hn]
    simp
  · have h' : ¬ u.username = name := fun he => h he.symm
    simp [h, h']

theorem Call.news_self (c : Call) : c.news c = none := by
  unfold Call.news
  cases c.achieved <;> rfl

theorem Call.news_of_achieved_none (hd : d.achieved = none) : c.news d = none := by
  unfold Call.news
  cases c.achieved
  · exact hd
  · rfl

theorem Call.achieved_of_ne {r : PasswordChange} {result : Result Unit}
    (h : result ≠ .ok (.ok ())) : (Call.change r (.ended result)).achieved = none := by
  unfold Call.achieved
  split
  · rename_i he; cases he
  · rename_i he; cases he; exact absurd rfl h
  · rfl

/-- What a turn achieves goes into the book, and the users are those of the book again. -/
theorem Turn.kept (h : Turn s a c b d) (hc : c.Sound s a) (hk : Kept s book a) :
    Kept s (book.put (c.news d)) b := by
  cases h with
  | @inserted r hash u hn hu hh =>
    rw [← hu] at hn
    refine ⟨fun name hb => ?_, fun name p hb => ?_⟩
    · simp only [Call.news, Call.achieved, Book.put] at hb
      split at hb
      · cases hb
      · rename_i hne
        rw [find?_insert hn, if_neg (by rwa [hu]), hk.absent name hb]
    · simp only [Call.news, Call.achieved, Book.put] at hb
      split at hb
      · rename_i he
        cases hb
        refine ⟨u, by rw [find?_insert hn, if_pos (by rwa [hu])], ?_⟩
        rw [hh]
        exact hc
      · rename_i hne
        obtain ⟨x, hx, hm⟩ := hk.present name p hb
        exact ⟨x, by rw [find?_insert hn, if_neg (by rwa [hu]), hx], hm⟩
  | @swapped r u x hash hf hx =>
    refine ⟨fun name hb => ?_, fun name p hb => ?_⟩
    · simp only [Call.news, Call.achieved, Book.put] at hb
      split at hb
      · cases hb
      · rw [Users.find?_setHash, hk.absent name hb]
        rfl
    · simp only [Call.news, Call.achieved, Book.put] at hb
      split at hb
      · rename_i he
        cases hb
        refine ⟨{ x with passwordHash := hash }, ?_, hc.2⟩
        rw [Users.find?_setHash, he, hf]
        simp [Users.username_of_find? hf]
      · rename_i hne
        obtain ⟨y, hy, hm⟩ := hk.present name p hb
        refine ⟨y, ?_, hm⟩
        rw [Users.find?_setHash, hy]
        simp [Users.username_of_find? hy, hne]
  | gaveUp hn _ hres =>
    rw [Call.news_of_achieved_none (Call.achieved_of_ne hres)]
    exact hk.mono rfl hn
  | registerOver | changeOver =>
    rw [Call.news_self]
    exact hk
  | hashed _ | unhashed _ | rehashed _ => exact hk.mono rfl (Nat.le_succ _)
  | taken _ | found _ | verified _ => exact hk.mono rfl (Nat.le_refl _)

/-! ## The invariant of the traffic -/

/-- The users are those of the book, each call is sound, and a hash that is pending belongs to
one call and is not in the store. -/
structure Good (s : Setting Users) (book : Book) (t : Traffic) : Prop where
  kept : Kept s book t.accounts
  sound : ∀ (i : Nat) (c : Call), t.calls[i]? = some c → c.Sound s t.accounts
  distinct : ∀ (i j : Nat) (c d : Call) (hash : String), t.calls[i]? = some c → t.calls[j]? = some d →
    c.pending = some hash → d.pending = some hash → i = j
  not_stored : ∀ (i : Nat) (c : Call) (hash : String), t.calls[i]? = some c → c.pending = some hash →
    ∀ name u, t.users.find? name = some u → u.passwordHash ≠ hash

theorem get_set {calls : List Call} {i j : Nat} (h : (calls.set i d)[j]? = some c) :
    (j = i ∧ c = d) ∨ (j ≠ i ∧ calls[j]? = some c) := by
  rw [List.getElem?_set] at h
  split at h
  · split at h
    · cases h; exact Or.inl ⟨by omega, rfl⟩
    · cases h
  · exact Or.inr ⟨by omega, h⟩

theorem get_begin {j : Nat} (h : (t.begin d).calls[j]? = some c) : t.calls[j]? = some c ∨ c = d := by
  unfold Traffic.begin at h
  rw [List.getElem?_append] at h
  split at h
  · exact Or.inl h
  · rw [List.getElem?_singleton] at h
    split at h
    · cases h; exact Or.inr rfl
    · cases h

theorem good_quiet (hk : Kept s book a) : Good s book (.quiet a) := by
  refine ⟨hk, ?_, ?_, ?_⟩ <;> simp [Traffic.quiet]

theorem good_begin (h : Good s book t) (hc : c.Sound s t.accounts) (hp : c.pending = none) :
    Good s book (t.begin c) := by
  refine ⟨h.kept, fun i d hd => ?_, fun i j d e hash hd he hdp hep => ?_,
    fun i d hash hd hdp => ?_⟩
  · rcases get_begin hd with hd | rfl
    · exact h.sound i d hd
    · exact hc
  · rcases get_begin hd with hd | rfl
    · rcases get_begin he with he | rfl
      · exact h.distinct i j d e hash hd he hdp hep
      · rw [hp] at hep; cases hep
    · rw [hp] at hdp; cases hdp
  · rcases get_begin hd with hd | rfl
    · exact h.not_stored i d hash hd hdp
    · rw [hp] at hdp; cases hdp

/-- A hash that was made before is not the one that a turn makes. -/
theorem Turn.pending_new (hs : Honest s) (h : Turn s a c b d) {hash old p : String}
    (hd : d.pending = some hash) (hm : MadeOf s a p old) : old ≠ hash := by
  obtain ⟨q, hq⟩ := h.pending hd
  exact hm.ne_next hs hq

theorem good_turn (hs : Honest s) (h : Good s book t) {i : Nat} (hc : t.calls[i]? = some c)
    (ht : Turn s t.accounts c b d) : Good s (book.put (c.news d)) ⟨b, t.calls.set i d⟩ := by
  have hsound := h.sound i c hc
  -- A hash that is pending with another call was made before this turn.
  have hother : ∀ (j : Nat) (e : Call) (hash : String), t.calls[j]? = some e → e.pending = some hash →
      ∃ p, MadeOf s t.accounts p hash := fun j e hash he hp => (h.sound j e he).made hp
  refine ⟨ht.kept hsound h.kept, fun j e he => ?_, fun j k e f hash he hf hep hfp => ?_,
    fun j e hash he hep name u hu => ?_⟩
  · rcases get_set he with ⟨rfl, rfl⟩ | ⟨_, he⟩
    · exact ht.sound hsound
    · exact (h.sound j e he).mono ht.hashes_le
  · rcases get_set he with ⟨rfl, rfl⟩ | ⟨hj, he'⟩
    · rcases get_set hf with ⟨rfl, _⟩ | ⟨_, hf'⟩
      · rfl
      · obtain ⟨p, hm⟩ := hother k f hash hf' hfp
        exact absurd rfl (ht.pending_new hs hep hm)
    · rcases get_set hf with ⟨rfl, rfl⟩ | ⟨_, hf'⟩
      · obtain ⟨p, hm⟩ := hother j e hash he' hep
        exact absurd rfl (ht.pending_new hs hfp hm)
      · exact h.distinct j k e f hash he' hf' hep hfp
  · rcases get_set he with ⟨rfl, rfl⟩ | ⟨hj, he⟩
    · rcases ht.stored hu with hu | hu
      · obtain ⟨p, hm⟩ := h.kept.made hu
        exact ht.pending_new hs hep hm
      · obtain ⟨p, hm⟩ := hsound.made hu
        exact ht.pending_new hs hep hm
    · rcases ht.stored hu with hu | hu
      · exact h.not_stored j e hash he hep name u hu
      · rintro rfl
        exact hj (h.distinct j i e c _ he hc hep hu)

theorem news_turn {i : Nat} (hc : t.calls[i]? = some c)
    (he : t.turn s i = ⟨b, t.calls.set i d⟩) : t.news s (.turn i) = c.news d := by
  have hd : (t.calls.set i d)[i]? = some d :=
    List.getElem?_set_self (List.getElem?_eq_some_iff.1 hc).1
  unfold Traffic.news
  simp only [he, hc, hd]

theorem good_step (hs : Honest s) (h : Good s book t) (e : Event) :
    Good s (book.put (t.news s e)) (t.step s e) := by
  cases e with
  | register r => exact good_begin h trivial rfl
  | change r => exact good_begin h trivial rfl
  | wait seconds => exact ⟨h.kept.mono rfl (Nat.le_refl _), h.sound, h.distinct, h.not_stored⟩
  | turn i =>
    cases hc : t.calls[i]? with
    | none =>
      have hsame : t.turn s i = t := by simp [Traffic.turn, hc]
      have hnews : t.news s (.turn i) = none := by simp [Traffic.news, hc]
      rw [hnews]
      show Good s book (t.turn s i)
      rw [hsame]
      exact h
    | some c =>
      obtain ⟨b, d, he, ht⟩ := turn_spec hs.in_memory hc
      rw [news_turn hc he]
      show Good s (book.put (c.news d)) (t.turn s i)
      rw [he]
      exact good_turn hs h hc ht

/-- The traffic is good after any events, with the book as it is by then. -/
theorem good_run (hs : Honest s) (hk : Kept s book a) (events : List Event) :
    Good s (Traffic.bookAfter s (.quiet a) book events) (Traffic.run s (.quiet a) events) := by
  induction events using List.reverseRecOn with
  | nil => exact good_quiet hk
  | append_singleton past e ih =>
    rw [Traffic.bookAfter_snoc, Traffic.run_snoc]
    exact good_step hs ih e

end ServiceMesh.Accounts
