-- Rejections and the words that they travel in. Words that a known rejection has for
-- itself stand for it, the empty text stands for success, and any other text is kept
-- word for word, so that nothing is lost on the way from process to process.
import Mathlib.Logic.Function.Iterate
import ServiceMesh.Proofs.Service.Replies

namespace ServiceMesh

open Rejection (encode decode known message remote isBusiness httpStatus ofMessage?)

/-- A kind of rejection that takes the words of other processes as they are, and counts what
it knows itself as the doing of its callers. -/
class WordedRejection (ε : Type) [Rejection ε] : Prop extends LawfulRejection ε where
  message_remote : ∀ text, message (remote text : ε) = text
  isBusiness_iff : ∀ e : ε, isBusiness e = true ↔ ∀ text, e ≠ remote text
  isBusiness_known : ∀ e ∈ (known : List ε), isBusiness e = true

instance : WordedRejection AddRejection where
  message_remote := fun _ => rfl
  isBusiness_iff := by
    intro e
    cases e <;> simp [isBusiness, remote]
  isBusiness_known := by decide

instance : WordedRejection TextRejection where
  message_remote := fun _ => rfl
  isBusiness_iff := by
    intro e
    cases e <;> simp [isBusiness, remote]
  isBusiness_known := by decide

instance : WordedRejection UserRejection where
  message_remote := fun _ => rfl
  isBusiness_iff := by
    intro e
    cases e <;> simp [isBusiness, remote]
  isBusiness_known := by decide

namespace Rejection

/-! ## Words and what they stand for -/

/-- A rejection of the kind's own, and not the words of another process. -/
def IsKnown {ε : Type} [Rejection ε] (e : ε) : Prop := ∀ text, e ≠ remote text

/-- The text is what a known rejection of this kind says. -/
def Says (ε : Type) [Rejection ε] (text : String) : Prop :=
  ∃ e : ε, IsKnown e ∧ message e = text

/-- Words from elsewhere that could not have come from there: none at all, or those of a rejection
that is known here. -/
def IsMisplaced {ε : Type} [Rejection ε] (e : ε) : Prop :=
  ∃ text, e = remote text ∧ (text = "" ∨ Says ε text)

variable {ε : Type} [Rejection ε]

theorem known_or_remote (e : ε) : IsKnown e ∨ ∃ text, e = remote text := by
  by_cases h : ∃ text, e = remote text
  · exact Or.inr h
  · exact Or.inl fun text he => h ⟨text, he⟩

/-- Success is told without words, and nothing else is. -/
theorem decode_eq_none_iff {text : String} : (decode text : Option ε) = none ↔ text = "" := by
  unfold decode
  by_cases h : text.isEmpty = true
  · rw [if_pos h]
    simpa using h
  · rw [if_neg h]
    simpa using h

variable [WordedRejection ε]

theorem decode_message {e : ε} (h : IsKnown e) : decode (message e) = some e :=
  LawfulRejection.decode_message e ((WordedRejection.isBusiness_iff e).mpr h)

/-- Whatever is found for a text is known, and says it. -/
theorem of_ofMessage? {text : String} {e : ε} (h : ofMessage? text = some e) :
    IsKnown e ∧ message e = text := by
  unfold ofMessage? at h
  have hlisted := WordedRejection.isBusiness_known e (List.mem_of_find?_eq_some h)
  exact ⟨(WordedRejection.isBusiness_iff e).mp hlisted, by simpa using List.find?_some h⟩

/-- A text stands for the known rejection that says it, and else for itself. -/
theorem decode_cases {text : String} {e : ε} (h : decode text = some e) :
    (IsKnown e ∧ message e = text) ∨ (¬ Says ε text ∧ e = remote text) := by
  by_cases htold : Says ε text
  · obtain ⟨own, hown, rfl⟩ := htold
    rw [decode_message hown] at h
    cases h
    exact Or.inl ⟨hown, rfl⟩
  · have nobody : (ofMessage? text : Option ε) = none := by
      cases hfound : (ofMessage? text : Option ε) with
      | none => rfl
      | some own => exact absurd ⟨own, of_ofMessage? hfound⟩ htold
    unfold decode at h
    split at h
    · cases h
    · rw [nobody] at h
      cases h
      exact Or.inr ⟨htold, rfl⟩

theorem message_of_decode {text : String} {e : ε} (h : decode text = some e) :
    message e = text := by
  rcases decode_cases h with ⟨-, htold⟩ | ⟨-, rfl⟩
  · exact htold
  · exact WordedRejection.message_remote text

theorem isKnown_of_decode {text : String} {e : ε} (h : decode text = some e) :
    IsKnown e ↔ Says ε text := by
  rcases decode_cases h with ⟨hknown, htold⟩ | ⟨htold, rfl⟩
  · exact iff_of_true hknown ⟨e, hknown, htold⟩
  · exact iff_of_false (fun hknown => hknown text rfl) htold

theorem isBusiness_of_decode {text : String} {e : ε} (h : decode text = some e) :
    isBusiness e = true ↔ Says ε text := by
  rw [WordedRejection.isBusiness_iff]
  exact isKnown_of_decode h

/-! ## There and back -/

/-- The words are the same after they have been read. -/
theorem encode_decode (ε : Type) [Rejection ε] [WordedRejection ε] (text : String) :
    encode (decode text : Option ε) = text := by
  cases h : (decode text : Option ε) with
  | none => exact (decode_eq_none_iff.mp h).symm
  | some e => exact message_of_decode h

/-- Words from elsewhere are taken for such exactly if they can have come from there. -/
theorem decode_remote_iff {text : String} :
    (decode text : Option ε) = some (remote text) ↔ ¬ (text = "" ∨ Says ε text) := by
  constructor
  · rintro h (hnil | htold)
    · rw [decode_eq_none_iff.mpr hnil] at h
      cases h
    · exact (isKnown_of_decode h).mpr htold text rfl
  · intro h
    cases hdecode : (decode text : Option ε) with
    | none => exact absurd (Or.inl (decode_eq_none_iff.mp hdecode)) h
    | some e =>
      rcases decode_cases hdecode with ⟨hknown, htold⟩ | ⟨-, rfl⟩
      · exact absurd (Or.inr ⟨e, hknown, htold⟩) h
      · rfl

theorem remote_inj {text text' : String} (h : (remote text : ε) = remote text') :
    text = text' := by
  have hwords := congrArg message h
  rwa [WordedRejection.message_remote, WordedRejection.message_remote] at hwords

/-- A rejection is found again by its words unless these are misplaced. -/
theorem decode_encode_iff (e : ε) : decode (encode (some e)) = some e ↔ ¬ IsMisplaced e := by
  rcases known_or_remote e with hknown | ⟨text, rfl⟩
  · refine iff_of_true (decode_message hknown) ?_
    rintro ⟨text, hremote, -⟩
    exact hknown text hremote
  · have hwords : encode (some (remote text : ε)) = text := WordedRejection.message_remote text
    rw [hwords, decode_remote_iff, not_iff_not]
    constructor
    · exact fun h => ⟨text, rfl, h⟩
    · rintro ⟨same, hsame, h⟩
      rw [remote_inj hsame]
      exact h

/-! ## Hops -/

/-- What a process makes of a rejection that it is told: it reads the words, and says them
again. -/
def hop (e : Option ε) : Option ε := decode (encode e)

theorem iterate_hop_decode (text : String) (n : Nat) :
    hop^[n] (decode text : Option ε) = decode text := by
  apply Function.iterate_fixed
  unfold hop
  rw [encode_decode]

theorem encode_iterate_hop (e : Option ε) (n : Nat) : encode (hop^[n] e) = encode e := by
  induction n generalizing e with
  | zero => rfl
  | succ n ih =>
    rw [Function.iterate_succ_apply, ih]
    exact encode_decode ε (encode e)

/-- The words of a kind of rejection travel well. -/
structure TravelsWell (ε : Type) [Rejection ε] : Prop where
  /-- Words stay as they are when they are read and said again. -/
  words : ∀ text, encode (decode text : Option ε) = text
  /-- A rejection is found again unless it has its words from elsewhere, and they are empty or
  those of a known one. -/
  found_iff : ∀ e : ε, decode (encode (some e)) = some e ↔ ¬ IsMisplaced e
  /-- What has been read once is found again ever after. -/
  settled : ∀ text (e : ε), decode text = some e → decode (encode (some e)) = some e
  /-- A rule is broken exactly if the words are those of a known rejection. -/
  business_iff : ∀ text (e : ε), decode text = some e → (isBusiness e = true ↔ Says ε text)
  /-- The response tells the words, and whose doing it is. -/
  told : ∀ text (e : ε), decode text = some e →
    response e = .json (if isBusiness e then 400 else 500) (.object [("error", .text text)])
  /-- Words arrive however far they travel, misplaced ones as well. -/
  arrive : ∀ (e : Option ε) n, encode (hop^[n] e) = encode e
  /-- Words are answered alike by the first process that reads them and by the last. -/
  answered_alike : ∀ text n,
    (hop^[n] (decode text : Option ε)).map response = (decode text : Option ε).map response

theorem travelsWell (ε : Type) [Rejection ε] [WordedRejection ε] : TravelsWell ε where
  words := encode_decode ε
  found_iff := decode_encode_iff
  settled := by
    intro text e h
    rw [← h, encode_decode]
  business_iff := fun _ _ => isBusiness_of_decode
  told := by
    intro text e h
    rw [← message_of_decode h]
    rfl
  arrive := encode_iterate_hop
  answered_alike := by
    intro text n
    rw [iterate_hop_decode]

/-- The rejections of all three services travel well. -/
theorem words_of_rejections_travel_well :
    TravelsWell AddRejection ∧ TravelsWell TextRejection ∧ TravelsWell UserRejection :=
  ⟨travelsWell _, travelsWell _, travelsWell _⟩

end Rejection

end ServiceMesh
