-- Percent encoding: what a text stands for once its escapes are undone, and that to escape it
-- first makes no difference to that.
import ServiceMesh.Proofs.Text.Utf8
import ServiceMesh.Web.Percent

namespace ServiceMesh

namespace Text

theorem length_utf8_pos (c : Char) : 0 < (String.utf8EncodeChar c).length :=
  List.length_pos_iff.mpr String.utf8EncodeChar_ne_nil

/-- A text from which characters are left out has fewer bytes. -/
theorem length_utf8_of_sublist {cs ds : List Char} (h : cs.Sublist ds) :
    cs = ds ∨ (utf8 cs).length < (utf8 ds).length := by
  induction h with
  | slnil => exact Or.inl rfl
  | @cons cs ds d h ih =>
    have hd := length_utf8_pos d
    refine Or.inr ?_
    rw [utf8_cons, List.length_append]
    rcases ih with rfl | hlt
    · omega
    · omega
  | @cons_cons cs ds d h ih =>
    rw [utf8_cons, utf8_cons, List.length_append, List.length_append]
    rcases ih with rfl | hlt
    · exact Or.inl rfl
    · exact Or.inr (by omega)

theorem utf8_inj {cs ds : List Char} (h : utf8 cs = utf8 ds) : cs = ds := by
  have hread := textOfBytes_utf8 cs
  rw [h, textOfBytes_utf8] at hread
  exact (String.ofList_injective (Option.some.inj hread)).symm

end Text

namespace Web

/-! ## Hexadecimal digits -/

theorem hexValue?_hexDigit : ∀ n < 16, hexValue? (hexDigit n) = some n := by decide

theorem hexValue?_percent : hexValue? '%' = none := by decide

theorem hexValue?_slash : hexValue? '/' = none := by decide

/-- A digit stands in front. -/
def oneDigit (cs : List Char) : Bool := (cs.head?.bind hexValue?).isSome

/-- Two digits stand in front. -/
def twoDigits (cs : List Char) : Bool := oneDigit cs && oneDigit cs.tail

/-! ## Undoing escapes -/

theorem unescape_digits {a b : Char} {x y : Nat} (ha : hexValue? a = some x)
    (hb : hexValue? b = some y) (rest : List Char) :
    unescape ('%' :: a :: b :: rest) = UInt8.ofNat (x * 16 + y) :: unescape rest := by
  rw [unescape]
  simp only [ha, hb]

/-- What is no escape stands for itself. -/
theorem unescape_cons {c : Char} {rest : List Char} (h : c = '%' → twoDigits rest = false) :
    unescape (c :: rest) = String.utf8EncodeChar c ++ unescape rest := by
  by_cases hc : c = '%'
  · subst hc
    have hpercent : String.utf8EncodeChar '%' = [37] := by decide
    have hno := h rfl
    match rest with
    | [] => rfl
    | [a] => rfl
    | a :: b :: rest =>
      rw [unescape, hpercent]
      cases ha : hexValue? a with
      | none => rfl
      | some x =>
        cases hb : hexValue? b with
        | none => rfl
        | some y => simp [twoDigits, oneDigit, ha, hb] at hno
  · rw [unescape]
    intro a b more heq
    exact absurd heq hc

/-- A text has an escape in it. -/
inductive Escaped : List Char → Prop
  | here {rest : List Char} (h : twoDigits rest = true) : Escaped ('%' :: rest)
  | there {c : Char} {rest : List Char} (h : Escaped rest) : Escaped (c :: rest)

theorem escaped_cons_iff (c : Char) (cs : List Char) :
    Escaped (c :: cs) ↔ c = '%' ∧ twoDigits cs = true ∨ Escaped cs := by
  constructor
  · intro h
    cases h with
    | here h => exact Or.inl ⟨rfl, h⟩
    | there h => exact Or.inr h
  · rintro (⟨rfl, h⟩ | h)
    · exact .here h
    · exact .there h

instance decidableEscaped : (cs : List Char) → Decidable (Escaped cs)
  | [] => .isFalse (fun h => nomatch h)
  | c :: cs =>
    have := decidableEscaped cs
    decidable_of_iff _ (escaped_cons_iff c cs).symm

/-- The three characters of an escape stand for one byte. -/
inductive Undone : List Char → List UInt8 → Prop
  | nil : Undone [] []
  | escape {a b : Char} {x y : Nat} {rest : List Char} {bytes : List UInt8}
      (ha : hexValue? a = some x) (hb : hexValue? b = some y) (h : Undone rest bytes) :
      Undone ('%' :: a :: b :: rest) (UInt8.ofNat (x * 16 + y) :: bytes)
  | plain {c : Char} {rest : List Char} {bytes : List UInt8}
      (hc : c = '%' → twoDigits rest = false) (h : Undone rest bytes) :
      Undone (c :: rest) (String.utf8EncodeChar c ++ bytes)

theorem undone_unescape (cs : List Char) : Undone cs (unescape cs) := by
  induction hn : cs.length using Nat.strongRecOn generalizing cs with
  | ind n ih =>
    subst hn
    cases cs with
    | nil => exact .nil
    | cons c rest =>
      by_cases hc : c = '%' ∧ twoDigits rest = true
      · obtain ⟨rfl, hdigits⟩ := hc
        match rest with
        | [] => cases hdigits
        | [a] => simp [twoDigits, oneDigit] at hdigits
        | a :: b :: rest =>
          rw [twoDigits, Bool.and_eq_true, oneDigit, oneDigit, Option.isSome_iff_exists,
            Option.isSome_iff_exists] at hdigits
          obtain ⟨⟨x, ha⟩, y, hb⟩ := hdigits
          rw [unescape_digits ha hb]
          exact .escape ha hb (ih rest.length (by simp; omega) rest rfl)
      · have hplain : c = '%' → twoDigits rest = false := by
          intro heq
          simpa [heq] using hc
        rw [unescape_cons hplain]
        exact .plain hplain (ih rest.length (by simp) rest rfl)

/-- A text with escapes stands for fewer bytes than it has, any other one for its own. -/
theorem length_unescape (cs : List Char) :
    (¬ Escaped cs ∧ unescape cs = Text.utf8 cs) ∨
      (Escaped cs ∧ (unescape cs).length < (Text.utf8 cs).length) := by
  have h := undone_unescape cs
  generalize unescape cs = bytes at h
  induction h with
  | nil =>
    refine Or.inl ⟨?_, rfl⟩
    intro h
    cases h
  | @escape a b x y rest bytes ha hb h ih =>
    have hpercent := Text.length_utf8_pos '%'
    have ha' := Text.length_utf8_pos a
    have hb' := Text.length_utf8_pos b
    refine Or.inr ⟨.here (by simp [twoDigits, oneDigit, ha, hb]), ?_⟩
    simp only [Text.utf8_cons, List.length_append, List.length_cons]
    rcases ih with ⟨-, rfl⟩ | ⟨-, hlt⟩ <;> omega
  | @plain c rest bytes hc h ih =>
    rw [Text.utf8_cons]
    rcases ih with ⟨hno, rfl⟩ | ⟨hescaped, hlt⟩
    · refine Or.inl ⟨?_, rfl⟩
      intro hescaped
      cases hescaped with
      | here hdigits => simp [hdigits] at hc
      | there hrest => exact hno hrest
    · rw [List.length_append, List.length_append]
      exact Or.inr ⟨.there hescaped, by omega⟩

theorem unescape_of_not_escaped {cs : List Char} (h : ¬ Escaped cs) :
    unescape cs = Text.utf8 cs := by
  rcases length_unescape cs with ⟨-, heq⟩ | ⟨hescaped, -⟩
  · exact heq
  · exact absurd hescaped h

theorem Escaped.append_right {cs : List Char} (h : Escaped cs) (more : List Char) :
    Escaped (cs ++ more) := by
  induction h with
  | @here rest h =>
    refine .here ?_
    match rest with
    | [] => cases h
    | [a] => simp [twoDigits, oneDigit] at h
    | a :: b :: rest => exact h
  | there _ ih => exact .there ih

theorem Escaped.append_left {cs : List Char} (h : Escaped cs) (front : List Char) :
    Escaped (front ++ cs) := by
  induction front with
  | nil => exact h
  | cons c front ih => exact .there ih

theorem twoDigits_slash (cs more : List Char) :
    twoDigits (cs ++ '/' :: more) = twoDigits cs := by
  match cs with
  | [] => simp [twoDigits, oneDigit, hexValue?_slash]
  | [a] => simp [twoDigits, oneDigit, hexValue?_slash]
  | a :: b :: cs => rfl

/-- No escape reaches across a slash. -/
theorem unescape_slash (cs more : List Char) :
    unescape (cs ++ '/' :: more) = unescape cs ++ 47 :: unescape more := by
  have h := undone_unescape cs
  generalize unescape cs = bytes at h
  induction h with
  | nil => exact unescape_cons fun heq => absurd heq (by decide)
  | @escape a b x y rest bytes ha hb h ih =>
    simp only [List.cons_append]
    rw [unescape_digits ha hb, ih]
  | @plain c rest bytes hc h ih =>
    rw [List.cons_append, unescape_cons, ih, List.append_assoc]
    intro heq
    rw [twoDigits_slash]
    exact hc heq

/-- What a text stands for is a text if its bytes are that text's. -/
theorem unescaped?_eq_some_iff {s text : String} :
    unescaped? s = some text ↔ unescape s.toList = Text.utf8 text.toList := by
  constructor
  · intro h
    unfold unescaped? String.fromUTF8? at h
    split at h
    · cases h
      rw [← Text.bytes_toUTF8, Text.byteArray_toList]
      rfl
    · cases h
  · intro h
    have hread := Text.textOfBytes_utf8 text.toList
    rw [String.ofList_toList] at hread
    unfold unescaped?
    rw [h]
    exact hread

/-! ## Escaping -/

theorem unescape_escapeByte (b : UInt8) (cs : List Char) :
    unescape (escapeByte b ++ cs) = b :: unescape cs := by
  have hlt := b.toNat_lt
  have hhigh := hexValue?_hexDigit (b.toNat / 16) (by omega)
  have hlow := hexValue?_hexDigit (b.toNat % 16) (by omega)
  have hsame : b.toNat / 16 * 16 + b.toNat % 16 = b.toNat := by omega
  unfold escapeByte
  simp only [List.cons_append, List.nil_append]
  rw [unescape_digits hhigh hlow, hsame, UInt8.ofNat_toNat]

theorem unescape_escapeBytes (bytes : List UInt8) (cs : List Char) :
    unescape (bytes.flatMap escapeByte ++ cs) = bytes ++ unescape cs := by
  induction bytes with
  | nil => rfl
  | cons b bytes ih =>
    rw [List.flatMap_cons, List.append_assoc, unescape_escapeByte, ih]
    rfl

/-- Neither the mark of an escape nor its digits are escaped. -/
def Keeps (escaped : Char → Bool) : Prop :=
  escaped '%' = false ∧ ∀ c, (hexValue? c).isSome = true → escaped c = false

section Escape

variable {escaped : Char → Bool}

/-- How a character stands once it is escaped. -/
def escapedChar (escaped : Char → Bool) (c : Char) : List Char :=
  if escaped c || 127 ≤ c.toNat then (String.utf8EncodeChar c).flatMap escapeByte else [c]

theorem escape_cons (escaped : Char → Bool) (c : Char) (cs : List Char) :
    escape escaped (c :: cs) = escapedChar escaped c ++ escape escaped cs := List.flatMap_cons

theorem escapedChar_kept {c : Char} (h : escaped c = false) (hc : c.toNat < 127) :
    escapedChar escaped c = [c] := by
  unfold escapedChar
  rw [h, if_neg (by simpa using hc)]

/-- Either a character stays, or a `%` stands in its place. -/
theorem escapedChar_cases (escaped : Char → Bool) (c : Char) :
    escapedChar escaped c = [c] ∨ (∃ cs, escapedChar escaped c = '%' :: cs) ∧
      escapedChar escaped c = (String.utf8EncodeChar c).flatMap escapeByte := by
  unfold escapedChar
  split
  · refine Or.inr ⟨?_, rfl⟩
    obtain ⟨b, bs, hbs⟩ := List.exists_cons_of_ne_nil (String.utf8EncodeChar_ne_nil (c := c))
    rw [hbs]
    exact ⟨_, rfl⟩
  · exact Or.inl rfl

theorem toNat_of_hexValue? {c : Char} (h : (hexValue? c).isSome = true) : c.toNat < 127 := by
  unfold hexValue? at h
  dsimp only at h
  split at h
  · omega
  · split at h
    · omega
    · split at h
      · omega
      · cases h

theorem oneDigit_escape (h : Keeps escaped) (cs : List Char) :
    oneDigit (escape escaped cs) = oneDigit cs ∧
      (oneDigit cs = true → (escape escaped cs).tail = escape escaped cs.tail) := by
  cases cs with
  | nil => exact ⟨rfl, fun _ => rfl⟩
  | cons c cs =>
    rw [escape_cons]
    rcases escapedChar_cases escaped c with hsame | ⟨⟨more, hmore⟩, -⟩
    · rw [hsame]
      exact ⟨rfl, fun _ => rfl⟩
    · have hno : hexValue? c = none := by
        cases hc : hexValue? c with
        | none => rfl
        | some x =>
          have hkept := escapedChar_kept (h.2 c (by simp [hc])) (toNat_of_hexValue? (by simp [hc]))
          rw [hkept] at hmore
          cases hmore
          cases hc
      rw [hmore]
      simp [oneDigit, hno, hexValue?_percent]

theorem twoDigits_escape (h : Keeps escaped) (cs : List Char) :
    twoDigits (escape escaped cs) = twoDigits cs := by
  obtain ⟨hone, htail⟩ := oneDigit_escape h cs
  unfold twoDigits
  rw [hone]
  cases hdigit : oneDigit cs with
  | false => rfl
  | true => rw [htail hdigit, (oneDigit_escape h cs.tail).1]

/-- What is escaped stands for what it stood for. -/
theorem unescape_escape (h : Keeps escaped) (cs : List Char) :
    unescape (escape escaped cs) = unescape cs := by
  have hundone := undone_unescape cs
  generalize unescape cs = bytes at hundone
  induction hundone with
  | nil => rfl
  | @escape a b x y rest bytes ha hb _ ih =>
    have hpercent : escapedChar escaped '%' = ['%'] := escapedChar_kept h.1 (by decide)
    have ha' : escapedChar escaped a = [a] :=
      escapedChar_kept (h.2 a (by simp [ha])) (toNat_of_hexValue? (by simp [ha]))
    have hb' : escapedChar escaped b = [b] :=
      escapedChar_kept (h.2 b (by simp [hb])) (toNat_of_hexValue? (by simp [hb]))
    rw [escape_cons, escape_cons, escape_cons, hpercent, ha', hb']
    simp only [List.cons_append, List.nil_append]
    rw [unescape_digits ha hb, ih]
  | @plain c rest bytes hc _ ih =>
    rw [escape_cons]
    rcases escapedChar_cases escaped c with hsame | ⟨-, hbytes⟩
    · rw [hsame, List.singleton_append, unescape_cons, ih]
      intro heq
      rw [twoDigits_escape h]
      exact hc heq
    · rw [hbytes, unescape_escapeBytes, ih]

end Escape

end Web

end ServiceMesh
