-- What a good token carries: three parts, the last of which signs the other two, a header that
-- names the algorithm, and an object that claims a user and an expiry.
import ServiceMesh.Proofs.Json.Members
import ServiceMesh.Proofs.Token.Validity

namespace ServiceMesh.Token

open Json Json.Reader

variable {bytes : List UInt8} {claims : Claims}

/-! ## Claims that are made -/

/-- All of the bytes are an object with a member for each of the claims. -/
def MakesClaims (bytes : List UInt8) (claims : Claims) : Prop :=
  ∃ b rest ms, Blanks bytes (123 :: b) ∧ Members claimsFields true b ms rest ∧ Blanks rest [] ∧
    ("username", some (.text claims.username)) ∈ ms ∧ ("exp", some (.int claims.exp)) ∈ ms

/-- Bytes begin a list whose first item is a text. -/
def ListsText (bytes : List UInt8) : Prop :=
  ∃ b more, Blanks bytes (91 :: b) ∧ Blanks b (34 :: more)

/-- What the two fields of the claims have read of an object are its members. -/
theorem makesClaims_of_members {b rest mid : List UInt8} {ms : List (String × Option Json)}
    {found values : List (String × Json)} (hms : Members claimsFields true b ms rest)
    (hfound : ∀ f ∈ found, (f.1, some f.2) ∈ ms)
    (h : Gives (complete found claimsFields) mid values mid) :
    ∃ username exp, values = [("username", .text username), ("exp", .int exp)] ∧
      ("username", some (.text username)) ∈ ms ∧ ("exp", some (.int exp)) ∈ ms := by
  obtain ⟨⟨name, u⟩, _, ⟨rfl, hu⟩, hvalues, rfl⟩ := List.forall₂_cons_left_iff.mp h.of_complete
  obtain ⟨⟨name, e⟩, _, ⟨rfl, he⟩, hnone, rfl⟩ := List.forall₂_cons_left_iff.mp hvalues
  cases List.forall₂_nil_left_iff.mp hnone
  -- Both fields are refused when they are absent, so each was found.
  have humem : ("username", some u) ∈ ms := hfound _ (by simpa using hu)
  have hemem : ("exp", some e) ∈ ms := hfound _ (by simpa using he)
  obtain ⟨field, b₁, b₂, hfield, hread⟩ := hms.read humem
  cases hfield
  obtain ⟨username, -, rfl⟩ := hread.of_map
  obtain ⟨field, b₁, b₂, hfield, hread⟩ := hms.read hemem
  cases hfield
  obtain ⟨exp, -, rfl⟩ := hread.of_map
  exact ⟨username, exp, rfl, humem, hemem⟩

/-- Claims are read from an object that makes them, or from a list that begins with a text. -/
theorem makesClaims_or_listsText (h : readClaims bytes = .ok claims) :
    MakesClaims bytes claims ∨ ListsText bytes := by
  unfold readClaims at h
  split at h
  · rename_i j hread
    cases h
    obtain ⟨rest, hrecord, hend⟩ := gives_of_fromAll hread
    rcases hrecord.of_record with
      ⟨b, ms, found, values, hblanks, hms, hfound, ⟨mid, hcomplete⟩, rfl⟩ |
      ⟨b, mid, expected, values, hblanks, hpositional, rfl⟩
    · obtain ⟨username, exp, rfl, humem, hemem⟩ := makesClaims_of_members hms hfound hcomplete
      exact Or.inl ⟨b, rest, ms, hblanks, hms, hend, humem, hemem⟩
    · obtain ⟨x, vs, rfl, ⟨c, more, mid', hfirst, -, hvalue⟩ | habsent⟩ :=
        hpositional.of_positional_first
      · obtain ⟨s, htext, -⟩ := hvalue.of_map
        obtain ⟨more', hquote, -⟩ := htext.of_text
        exact Or.inr ⟨b, more', hblanks, hfirst.trans hquote⟩
      · cases habsent
  · cases h

/-! ## No list makes an expiry -/

theorem gives_of_attempt {α : Type} {r : Reader α} {x : α} {b rest : List UInt8}
    (h : Gives (attempt r) b (some x) rest) : Gives r b x rest := by
  obtain ⟨offset, offset', h⟩ := h
  unfold attempt at h
  cases hr : r ⟨b, offset⟩ with
  | ok y s =>
    rw [hr] at h
    cases h
    exact ⟨offset, offset', hr⟩
  | error f s =>
    rw [hr] at h
    cases h

/-- A text is no number of seconds. -/
theorem not_gives_seconds {more rest : List UInt8} {x : Json} :
    ¬ Gives seconds (34 :: more) x rest := by
  intro h
  unfold seconds at h
  obtain ⟨first, mid, htoken, hrest⟩ := h.of_bind
  obtain ⟨more', rfl, hblanks, hspace⟩ := htoken.of_token
  obtain ⟨rfl, -⟩ := (blanks_refl (34 :: more)).unique hblanks (by decide) hspace
  exact not_gives_wrongType hrest

/-- A list that begins with a text has no expiry, which would be its first item. -/
theorem checkClaims_of_listsText (h : ListsText bytes) (now : Int) :
    checkClaims now bytes ≠ .ok () := by
  obtain ⟨b, more, hlist, hquote⟩ := h
  unfold checkClaims
  split
  · exact fun hne => nomatch hne
  · rename_i j hread
    obtain ⟨rest, hrecord, -⟩ := gives_of_fromAll hread
    rcases hrecord.of_record with
      ⟨b', ms, found, values, hblanks, -⟩ | ⟨b', mid, expected, values, hblanks, hpositional, rfl⟩
    · obtain ⟨hne, -⟩ := hlist.unique hblanks (by decide) (by decide)
      exact absurd hne (by decide)
    · obtain ⟨-, rfl⟩ := hlist.unique hblanks (by decide) (by decide)
      have hnames := hpositional.of_positional_names
      obtain ⟨x, vs, rfl, hfirst⟩ := hpositional.of_positional_first
      have hnull : x = .null := by
        rcases hfirst with ⟨c, more', end', hfirst, hspace, hvalue⟩ | habsent
        · obtain ⟨rfl, rfl⟩ := hquote.unique hfirst (by decide) hspace
          obtain ⟨seconds?, b₃, hattempt, hpure⟩ := hvalue.of_bind
          obtain ⟨rfl, -⟩ := hpure.of_pure
          cases seconds? with
          | none => rfl
          | some n => exact absurd (gives_of_attempt hattempt) not_gives_seconds
        · cases habsent
          rfl
      -- The names of the other fields are not that of the expiry.
      have hget : (Json.object (("exp", x) :: vs)).get? "exp" = some x := by
        have hothers : ∀ v ∈ vs, v.1 ≠ "exp" := by
          intro v hv heq
          have hmem : "exp" ∈ vs.map (·.1) := List.mem_map.mpr ⟨v, hv, heq⟩
          rw [(List.cons.inj hnames).2] at hmem
          exact absurd hmem (by decide)
        unfold Json.get?
        simp only [List.reverse_cons, List.find?_append]
        rw [List.find?_eq_none.mpr]
        · simp
        · intro v hv
          simpa using hothers v (List.mem_reverse.mp hv)
      have hnone : ((Json.object (("exp", x) :: vs)).get? "exp").bind Json.int? = none := by
        rw [hget, hnull]
        rfl
      simp only [hnone]
      exact fun hne => nomatch hne

/-! ## Whole tokens -/

theorem eq_of_cutAtLastPoint {s front tail : String} (h : cutAtLastPoint s = some (front, tail)) :
    s = front ++ "." ++ tail := by
  unfold cutAtLastPoint at h
  simp only at h
  have hwhole : s.toList.reverse.takeWhile (· ≠ '.') ++ s.toList.reverse.dropWhile (· ≠ '.') =
      s.toList.reverse := List.takeWhile_append_dropWhile
  split at h
  · cases h
  · rename_i c before hdrop
    cases h
    have hpoint : c = '.' := by
      have hhead := List.head?_dropWhile_not (· ≠ '.') s.toList.reverse
      rw [hdrop] at hhead
      simpa using hhead
    rw [hdrop, hpoint] at hwhole
    refine String.toList_injective ?_
    rw [String.toList_append, String.toList_append, String.toList_ofList, String.toList_ofList]
    have hback := congrArg List.reverse hwhole
    simpa using hback.symm

/-- A token that was signed under a secret carries claims: its last part signs the two in front,
which are a header that names the algorithm and an object that makes the claims. -/
def Carries (secret token : String) (claims : Claims) : Prop :=
  ∃ head payload header bytes,
    token = head ++ "." ++ payload ++ "." ++ sign secret (head ++ "." ++ payload) ∧
    bytesOfPart head = .ok header ∧ readHeader header = .ok "HS256" ∧
    bytesOfPart payload = .ok bytes ∧ MakesClaims bytes claims

theorem ok_of_mapError {ε ε' α : Type} {f : ε → ε'} {r : Except ε α} {x : α}
    (h : r.mapError f = .ok x) : r = .ok x := by
  cases r with
  | error e => cases h
  | ok y =>
    cases h
    rfl

/-- A token that is good carries the claims that it is good for. -/
theorem carries_of_validate {key : Key} {now : Int} {token : String}
    (h : validate key now token = .ok claims) : Carries key.secret token claims := by
  unfold validate at h
  simp only [bind, Except.bind] at h
  split at h
  case h_2 => cases h
  rename_i message signature hcut
  split at h
  case h_2 => cases h
  rename_i head payload hparts
  split at h
  case h_1 => cases h
  rename_i header hheader
  split at h
  case h_1 => cases h
  rename_i algorithm halgorithm
  split at h
  case isTrue => cases h
  rename_i hsame
  split at h
  case isTrue => cases h
  rename_i hsigned
  split at h
  case h_1 => cases h
  rename_i bytes hbytes
  split at h
  case h_1 => cases h
  rename_i made hmade
  split at h
  case h_1 => cases h
  rename_i hgood
  cases h
  rw [not_not] at hsame hsigned
  subst hsame
  have hmessage := eq_of_cutAtLastPoint hparts
  have htoken := eq_of_cutAtLastPoint hcut
  rw [hsigned, hmessage] at htoken
  refine ⟨head, payload, header, bytes, htoken, hheader, ok_of_mapError halgorithm, hbytes, ?_⟩
  exact (makesClaims_or_listsText (ok_of_mapError hmade)).resolve_right
    fun hlist => checkClaims_of_listsText hlist now hgood

end ServiceMesh.Token
