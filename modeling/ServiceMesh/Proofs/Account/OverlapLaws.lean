-- The laws of calls that overlap: no change of a password is lost, and no
-- name is given out twice, whatever the order of the steps.
import ServiceMesh.Proofs.Account.Names

namespace ServiceMesh.Accounts

variable {s : Setting Users} {a b : Accounts Users} {c d : Call} {book : Book} {t : Traffic}

/-! ## The laws -/

/-- What the accounts and the calls come to after some events, and how they have come to it. -/
structure NothingLost (s : Setting Users) (a : Accounts Users) (book : Book) (events : List Event) :
    Prop where
  /-- A change that has succeeded swapped the hash while the stored one verified the old
  password. -/
  swapped : ∀ (i : Nat) r,
    (Traffic.run s (.quiet a) events).calls[i]? = some (.change r (.ended (.ok (.ok ())))) →
    ∃ past later, events = past ++ .turn i :: later ∧
      Swap s r (Traffic.run s (.quiet a) past).users
        (Traffic.run s (.quiet a) (past ++ [.turn i])).users
  /-- Of the changes that have read one hash of one user, one succeeds at most. -/
  one_swap : ∀ (i j : Nat) r q u v,
    (Traffic.run s (.quiet a) events).calls[i]? = some (.change r (.ended (.ok (.ok ())))) →
    (Traffic.run s (.quiet a) events).calls[j]? = some (.change q (.ended (.ok (.ok ())))) →
    Read s a events i u → Read s a events j v →
    r.username = q.username → u.passwordHash = v.passwordHash → i = j
  /-- A call that has failed has changed nothing at any of its turns. -/
  failed : ∀ (i : Nat) c, (Traffic.run s (.quiet a) events).calls[i]? = some c → c.Failed →
    ∀ past later, events = past ++ .turn i :: later →
      (Traffic.run s (.quiet a) (past ++ [.turn i])).users = (Traffic.run s (.quiet a) past).users
  /-- Of the registrations of a free name that have an answer, exactly one has succeeded. -/
  registered : ∀ (i : Nat) r result,
    (Traffic.run s (.quiet a) events).calls[i]? = some (.register r (.ended (.ok result))) →
    a.stored.find? r.username = none →
    ∃ j, (Traffic.run s (.quiet a) events).Registered r.username j ∧
      ∀ k, (Traffic.run s (.quiet a) events).Registered r.username k → k = j
  /-- None has of a name that was taken. -/
  taken : ∀ name, a.stored.find? name ≠ none →
    ∀ j, ¬ (Traffic.run s (.quiet a) events).Registered name j
  /-- A registration ends without an answer only for want of a hash. -/
  unhashed : ∀ (i : Nat) r f,
    (Traffic.run s (.quiet a) events).calls[i]? = some (.register r (.ended (.error f))) →
    ∃ n, s.passwords.hash n r.password = .error f
  /-- The users are those of the book, and each hash verifies the password there and no other. -/
  passwords : ∀ name, match Traffic.bookAfter s (.quiet a) book events name with
    | none => (Traffic.run s (.quiet a) events).users.find? name = none
    | some p => ∃ u, (Traffic.run s (.quiet a) events).users.find? name = some u ∧
      ∀ q, s.passwords.verify q u.passwordHash = .ok (decide (q = p))

/-- Whatever the order of the steps of calls that overlap, no change of a password is lost and
no name is given out twice. -/
theorem overlapping_calls_lose_nothing (hs : Honest s) (hk : Kept s book a) (events : List Event) :
    NothingLost s a book events := by
  have hnamed := named_run (a := a) hs events
  have hkept := (good_run hs hk events).kept
  refine ⟨fun i r h => swap_of_success hs hk events h,
    fun i j r q u v hi hj hu hv hname hhash => success_unique hs hk events hname hhash hi hj hu hv,
    ?_, fun i r result hi hfree => ?_, fun name htaken j hj => htaken (hnamed.free name j hj),
    hnamed.unhashed, fun name => ?_⟩
  · rintro i c hc hf past later rfl
    exact users_of_failed hs hc hf
  · have hthere : ∃ j, (Traffic.run s (.quiet a) events).Registered r.username j := by
      cases result with
      | ok id => exact ⟨i, _, hi, rfl⟩
      | error e =>
        have := (hnamed.taken r.username).1 (hnamed.refused i r e hi)
        simpa [hfree] using this
    obtain ⟨j, hj⟩ := hthere
    exact ⟨j, hj, fun k hk => hnamed.once r.username k j hk hj⟩
  · split
    · rename_i hb
      exact hkept.absent name hb
    · rename_i p hb
      obtain ⟨u, hu, n, _, hn⟩ := hkept.present name p hb
      exact ⟨u, hu, hs.verifies n p _ hn⟩

/-! ## Hashes that show how they were made -/

/-- A hash that is its number in strokes, a dot, and the password. -/
def strokes : PasswordScheme where
  hash n p := .ok (String.ofList (List.replicate n '|' ++ '.' :: p.toList))
  verify p h := .ok (decide (p = String.ofList ((h.toList.dropWhile (· = '|')).drop 1)))

theorem strokes_inj {n m : Nat} {cs ds : List Char}
    (h : List.replicate n '|' ++ '.' :: cs = List.replicate m '|' ++ '.' :: ds) : n = m := by
  induction n generalizing m with
  | zero =>
    cases m with
    | zero => rfl
    | succ m => simp [List.replicate_succ] at h
  | succ n ih =>
    cases m with
    | zero => simp [List.replicate_succ] at h
    | succ m =>
      simp only [List.replicate_succ, List.cons_append, List.cons.injEq, true_and] at h
      rw [ih h]

def plainSetting : Setting Users := ⟨Users.store, strokes, .signed ⟨"key", 60⟩, toString⟩

theorem honest_plain : Honest plainSetting := by
  refine ⟨rfl, fun n p h hh q => ?_, fun n m p q h hn hm => ?_⟩
  · cases hh
    simp [plainSetting, strokes]
  · cases hn
    simp only [plainSetting, strokes, Except.ok.injEq, String.ofList_inj] at hm
    exact (strokes_inj hm).symm

/-- Two changes that read the same hash, and a second registration of the same name. -/
def rivals : List Event :=
  [.register ⟨"ann", "old", "Ann"⟩, .turn 0, .turn 0,
    .change ⟨"ann", "old", "red"⟩, .change ⟨"ann", "old", "blue"⟩, .register ⟨"ann", "new", "Ann"⟩,
    .turn 1, .turn 2, .turn 2, .turn 3, .turn 1, .turn 1, .turn 2, .turn 2, .turn 3, .turn 1]

theorem rivals_lose_nothing :
    Honest plainSetting ∧ Kept plainSetting (fun _ => none) { stored := [], now := 0 } ∧
      NothingLost plainSetting { stored := [], now := 0 } (fun _ => none) rivals ∧
      (Traffic.run plainSetting (.quiet { stored := [], now := 0 }) rivals).calls =
        [.register ⟨"ann", "old", "Ann"⟩ (.ended (.ok (.ok "0"))),
          .change ⟨"ann", "old", "red"⟩ (.ended (.ok (.error .mismatch))),
          .change ⟨"ann", "old", "blue"⟩ (.ended (.ok (.ok ()))),
          .register ⟨"ann", "new", "Ann"⟩ (.ended (.ok (.error .usernameExists)))] := by
  have hk : Kept plainSetting (fun _ => none) { stored := [], now := 0 } :=
    ⟨fun _ _ => rfl, fun _ _ h => by cases h⟩
  refine ⟨honest_plain, hk, overlapping_calls_lose_nothing honest_plain hk rivals, ?_⟩
  rfl

end ServiceMesh.Accounts
