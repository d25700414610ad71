-- Tokens that are given out: each is read back as the claims that it was made
-- of, up to the second at which it runs out.
import ServiceMesh.Proofs.Encoding.Base64
import ServiceMesh.Proofs.Json.Records
import ServiceMesh.Token.Signed

namespace ServiceMesh.Token

open Json Json.Reader

/-! ## The parts of a token -/

/-- A text is cut at a point behind which there is no other. -/
theorem cutAtLastPoint_append (front : String) {tail : String} (h : '.' ∉ tail.toList) :
    cutAtLastPoint (front ++ "." ++ tail) = some (front, tail) := by
  have hlist : (front ++ "." ++ tail).toList.reverse =
      tail.toList.reverse ++ '.' :: front.toList.reverse := by
    rw [String.toList_append, String.toList_append]
    simp
  have hrun : ∀ c ∈ tail.toList.reverse, decide (c ≠ '.') = true := by
    intro c hc
    rw [List.mem_reverse] at hc
    rw [decide_eq_true_eq]
    rintro rfl
    exact h hc
  have htail : (tail.toList.reverse ++ '.' :: front.toList.reverse).takeWhile (· ≠ '.') =
      tail.toList.reverse := by
    rw [List.takeWhile_append_of_pos hrun, List.takeWhile_cons]
    simp
  have hfront : (tail.toList.reverse ++ '.' :: front.toList.reverse).dropWhile (· ≠ '.') =
      '.' :: front.toList.reverse := by
    rw [List.dropWhile_append_of_pos hrun, List.dropWhile_cons]
    simp
  unfold cutAtLastPoint
  simp only [hlist, htail, hfront, List.reverse_reverse, String.ofList_toList]

theorem jsonPart_eq (j : Json) : jsonPart j = part (rendered j) := by
  unfold jsonPart rendered
  rw [Text.bytes_toUTF8]

theorem bytesOfPart_part (bytes : List UInt8) : bytesOfPart (part bytes) = .ok bytes := by
  unfold bytesOfPart part
  rw [Encoding.Alphabet.decode_encode]
  rfl

theorem part_no_point (bytes : List UInt8) : '.' ∉ (part bytes).toList :=
  Encoding.Alphabet.encode_no_point bytes

/-! ## The header -/

theorem readsValue_text (s expected : String) : ReadsValue (text expected) (quoted s) s := by
  intro c rest _
  exact reads_text s expected (c :: rest)

theorem readsValue_optionalText (name s : String) :
    ReadsValue (optionalText name).read (quoted s) (.text s) := by
  intro c rest _
  have htext := reads_text s "a string" (c :: rest)
  rw [quoted_append] at htext ⊢
  have hoptional : Reads (Reader.optional text) (34 :: (escaped s ++ 34 :: c :: rest)) (some s)
      (c :: rest) := by
    unfold Reader.optional
    exact (reads_peekToken (by decide) _).bind (htext.map some)
  exact hoptional.map (Json.ofOption Json.text)

theorem readsValue_algorithm {s : String} (h : algorithms.contains s = true) :
    ReadsValue algorithm (quoted s) (.text s) := by
  intro c rest _
  have hname : Reads algorithmName (escaped s ++ 34 :: c :: rest) (.text s) (c :: rest) := by
    unfold algorithmName
    refine (reads_textBody s _).bind ?_
    rw [if_pos h]
    exact reads_pure _ _
  rw [quoted_append]
  unfold algorithm
  refine (reads_token (by decide) _).bind ((reads_skip 34 _).bind ?_)
  exact hname.closing (reads_pure () _)

/-- The header of every token names its algorithm. -/
theorem readHeader_header : readHeader (rendered header) = .ok "HS256" := by
  have hfields : Fills headerFields []
      ([("typ", Json.text "JWT"), ("alg", .text "HS256")].map fun f => (f.1, rendered f.2))
      [("alg", .text "HS256"), ("typ", .text "JWT")] := by
    simp only [List.map_cons, List.map_nil, rendered_text]
    refine .known (by rfl) (by rfl) (readsValue_optionalText "typ" "JWT") ?_
    refine .known (by rfl) (by rfl) (readsValue_algorithm (s := "HS256") (by decide)) ?_
    exact .nil
  have hvalues : ∀ bs, Reads (complete [("alg", .text "HS256"), ("typ", .text "JWT")] headerFields)
      bs (("typ", .text "JWT") :: ("alg", .text "HS256") ::
        (headerFields.drop 2).map fun field => (field.name, .null)) bs := by
    intro bs
    refine reads_complete_found (by rfl) (reads_complete_found (by rfl) ?_)
    refine reads_complete_absent ?_ bs
    intro field hf
    simp only [List.mem_cons, List.not_mem_nil, or_false] at hf
    rcases hf with rfl | rfl | rfl | rfl | rfl | rfl | rfl | rfl <;>
      exact ⟨by rfl, Or.inl rfl⟩
  unfold readHeader header
  rw [fromAll_record hfields hvalues]
  rfl

/-! ## The claims -/

/-- The numbers that the expiry of a token may be. -/
def InRange (exp : Int) : Prop := -(1 <<< 63 : Nat) ≤ exp ∧ exp < (1 <<< 63 : Nat)

theorem endsNumber_mark {c : UInt8} (h : c = 44 ∨ c = 125) : EndsNumber c := by
  rcases h with rfl | rfl <;> decide

variable {claims : Claims}

theorem rendered_claims (c : Claims) :
    [("username", Json.text c.username), ("exp", .int c.exp)].map
        (fun f => (f.1, rendered f.2)) =
      [("username", quoted c.username), ("exp", decimal c.exp)] := by
  simp only [List.map_cons, List.map_nil, rendered_text, rendered_int]

/-- Claims are read as they were rendered. -/
theorem readClaims_json (h : InRange claims.exp) :
    readClaims (rendered claims.json) = .ok claims := by
  have hsize : UInt64.size = 18446744073709551616 := rfl
  obtain ⟨hlow, hhigh⟩ := h
  have hexp : ReadsValue (Json.int <$> integer (.signed 64) "i64") (decimal claims.exp)
      (.int claims.exp) := by
    intro c rest hc
    refine Reads.map Json.int ?_
    refine reads_integer (endsNumber_mark hc) ?_ hlow (by omega) "i64" rest
    unfold Text.IntegerRange.signed Text.IntegerRange.contains
    simp only [Bool.and_eq_true, decide_eq_true_eq]
    omega
  have hname : ReadsValue (Json.text <$> text) (quoted claims.username)
      (.text claims.username) := by
    intro c rest hc
    exact (readsValue_text _ _ c rest hc).map Json.text
  have hfields : Fills claimsFields []
      ([("username", Json.text claims.username), ("exp", .int claims.exp)].map
        fun f => (f.1, rendered f.2))
      [("exp", .int claims.exp), ("username", .text claims.username)] := by
    rw [rendered_claims]
    exact .known (by rfl) (by rfl) hname (.known (by rfl) (by rfl) hexp .nil)
  have hvalues : ∀ bs, Reads (complete [("exp", .int claims.exp),
      ("username", .text claims.username)] claimsFields) bs
      [("username", .text claims.username), ("exp", .int claims.exp)] bs := by
    intro bs
    exact reads_complete_found (by rfl) (reads_complete_found (by rfl) (reads_pure [] bs))
  unfold readClaims Claims.json
  rw [fromAll_record hfields hvalues]
  rfl

/-! ## The claims that every token may make -/

section Attempts

variable {α β : Type} {r : Reader α} {bytes mid rest : List UInt8} {x : α}

/-- A reader gives up on some bytes, and leaves the rest. -/
def GivesUp (r : Reader α) (bytes rest : List UInt8) : Prop :=
  ∀ offset, ∃ fault offset', r ⟨bytes, offset⟩ = .error fault ⟨rest, offset'⟩

theorem givesUp_fail (cause : Cause) (bytes : List UInt8) :
    GivesUp (fail cause : Reader α) bytes bytes :=
  fun offset => ⟨_, offset, rfl⟩

theorem GivesUp.after {f : α → Reader β} (hf : GivesUp (f x) mid rest)
    (hr : Reads r bytes x mid) : GivesUp (r >>= f) bytes rest := by
  intro offset
  obtain ⟨offset₁, h₁⟩ := hr offset
  obtain ⟨fault, offset₂, h₂⟩ := hf offset₁
  refine ⟨fault, offset₂, ?_⟩
  change EStateM.bind r f ⟨bytes, offset⟩ = _
  unfold EStateM.bind
  rw [h₁]
  exact h₂

theorem reads_attempt (h : Reads r bytes x rest) : Reads (attempt r) bytes (some x) rest := by
  intro offset
  obtain ⟨offset', h⟩ := h offset
  refine ⟨offset', ?_⟩
  unfold attempt
  rw [h]

theorem reads_attempt_none (h : GivesUp r bytes rest) : Reads (attempt r) bytes none rest := by
  intro offset
  obtain ⟨fault, offset', h⟩ := h offset
  refine ⟨offset', ?_⟩
  unfold attempt
  rw [h]

end Attempts

/-- An expiry that is no negative number is read, and any other counts as none. -/
theorem reads_attempt_seconds {c : UInt8} (hc : EndsNumber c) {k : Int} (hk : InRange k)
    (rest : List UInt8) :
    Reads (attempt seconds) (decimal k ++ c :: rest) (if 0 ≤ k then some (.int k) else none)
      (c :: rest) := by
  have hsize : UInt64.size = 18446744073709551616 := rfl
  obtain ⟨hlow, hhigh⟩ := hk
  have hnumber := reads_number hc hlow (by omega) rest
  obtain ⟨b, bs, hbs, hb⟩ := decimal_cons k
  have htoken := reads_token (isSpace_of_first hb) (bs ++ c :: rest)
  rw [hbs] at hnumber ⊢
  unfold seconds
  by_cases hpos : 0 ≤ k
  · rw [if_pos hpos]
    refine reads_attempt (htoken.bind ?_)
    rw [if_pos (first_of hb)]
    refine hnumber.bind ?_
    simp only [if_pos hpos]
    exact reads_pure _ _
  · rw [if_neg hpos]
    refine reads_attempt_none (GivesUp.after ?_ htoken)
    rw [if_pos (first_of hb)]
    refine GivesUp.after ?_ hnumber
    simp only [if_neg hpos]
    exact givesUp_fail .invalidNumber _

/-- Whether claims are good at a second: an expiry that is a negative number counts as none. -/
theorem checkClaims_json (h : InRange claims.exp) (later : Int) :
    checkClaims later (rendered claims.json) =
      if 0 ≤ claims.exp then if claims.exp < later then .error .expired else .ok ()
      else .error (.missingClaim "exp") := by
  let exp : Json := if 0 ≤ claims.exp then .int claims.exp else .null
  have hexp : ReadsValue (do pure (Json.ofOption id (← attempt seconds))) (decimal claims.exp)
      exp := by
    intro c rest hc
    refine (reads_attempt_seconds (endsNumber_mark hc) h rest).bind ?_
    have hsame : Json.ofOption id (if 0 ≤ claims.exp then some (.int claims.exp) else none) =
        exp := by
      unfold exp
      split <;> rfl
    rw [hsame]
    exact reads_pure exp _
  have hname : ReadsValue skipValue (quoted claims.username) () := by
    intro c rest hc
    rw [quoted_append]
    exact reads_skipValue claims.username (c :: rest)
  have hfields : Fills registeredFields []
      ([("username", Json.text claims.username), ("exp", .int claims.exp)].map
        fun f => (f.1, rendered f.2))
      [("exp", exp)] := by
    rw [rendered_claims]
    exact .unknown (by rfl) hname (.known (by rfl) (by rfl) hexp .nil)
  have hvalues : ∀ bs, Reads (complete [("exp", exp)] registeredFields) bs
      (("exp", exp) :: (registeredFields.drop 1).map fun field => (field.name, .null)) bs := by
    intro bs
    refine reads_complete_found (by rfl) (reads_complete_absent ?_ bs)
    intro field hf
    simp only [List.mem_cons, List.not_mem_nil, or_false] at hf
    rcases hf with rfl | rfl | rfl | rfl
    · exact ⟨by rfl, Or.inr rfl⟩
    · exact ⟨by rfl, Or.inl rfl⟩
    · exact ⟨by rfl, Or.inl rfl⟩
    · exact ⟨by rfl, Or.inl rfl⟩
  unfold checkClaims Claims.json
  rw [fromAll_record hfields hvalues]
  unfold exp
  by_cases hpos : 0 ≤ claims.exp
  · rw [if_pos hpos, if_pos hpos]
    rfl
  · rw [if_neg hpos, if_neg hpos]
    rfl

/-! ## Whole tokens -/

/-- A signed message with a right header is good for what its claims are good for. -/
theorem validate_signed (key : Key) (later : Int) {message : String} {head payload : List UInt8}
    (hparts : cutAtLastPoint message = some (part head, part payload))
    (hhead : readHeader head = .ok "HS256") (hclaims : readClaims payload = .ok claims) :
    validate key later (message ++ "." ++ sign key.secret message) =
      (checkClaims later payload).map fun _ => claims := by
  have hsignature : '.' ∉ (sign key.secret message).toList := part_no_point _
  have hwhole := cutAtLastPoint_append message hsignature
  have halgorithm : (readHeader head).mapError TokenFault.json = .ok "HS256" := by
    rw [hhead]
    rfl
  have hread : (readClaims payload).mapError TokenFault.json = .ok claims := by
    rw [hclaims]
    rfl
  unfold validate
  simp only [hwhole, hparts, bytesOfPart_part, bind, Except.bind, halgorithm, hread]
  rw [if_neg (fun hne => hne rfl), if_neg (fun hne => hne rfl)]
  cases checkClaims later payload with
  | error fault => rfl
  | ok good => rfl

/-- A token is good for what its claims are good for. -/
theorem validate_ofClaims (key : Key) (h : InRange claims.exp) (later : Int) :
    validate key later (ofClaims key.secret claims) =
      (checkClaims later (rendered claims.json)).map fun _ => claims := by
  refine validate_signed key later ?_ readHeader_header (readClaims_json h)
  rw [jsonPart_eq, jsonPart_eq]
  exact cutAtLastPoint_append _ (part_no_point _)

theorem issue_ok {key : Key} {now : Int} {username token : String}
    (h : issue key now username = .ok token) :
    InRange (now + key.expiry) ∧ token = ofClaims key.secret ⟨username, now + key.expiry⟩ := by
  unfold issue at h
  simp only at h
  split at h
  · rename_i hrange
    exact ⟨hrange, (Except.ok.inj h).symm⟩
  · cases h

/-- No token is given out whose last second is beyond the range. -/
theorem issue_error {key : Key} {now : Int} {username : String} {c : Crash}
    (h : issue key now username = .error c) : c = .sumRange ∧ ¬ InRange (now + key.expiry) := by
  unfold issue at h
  simp only at h
  split at h
  · cases h
  · rename_i hrange
    exact ⟨(Except.error.inj h).symm, hrange⟩

/-- A token that was given out is good up to its last second, and then no more. -/
theorem validate_issued {key : Key} {now : Int} {username token : String}
    (h : issue key now username = .ok token) (later : Int) (hlater : 0 ≤ later) :
    (later ≤ now + key.expiry → validate key later token = .ok ⟨username, now + key.expiry⟩) ∧
      (now + key.expiry < later → ∃ fault, validate key later token = .error fault) := by
  obtain ⟨hrange, rfl⟩ := issue_ok h
  have hgood : InRange (Claims.mk username (now + key.expiry)).exp := hrange
  rw [validate_ofClaims key hgood later, checkClaims_json hgood]
  simp only
  constructor
  · intro hle
    rw [if_pos (by omega), if_neg (by omega)]
    rfl
  · intro hlt
    rw [if_pos hlt]
    by_cases hpos : 0 ≤ now + key.expiry
    · rw [if_pos hpos]
      exact ⟨.expired, rfl⟩
    · rw [if_neg hpos]
      exact ⟨.missingClaim "exp", rfl⟩

end ServiceMesh.Token
