-- Texts read into shapes: what the readers of texts, numbers, lists, tables and records make
-- of whatever is a text of a value of their shape.
import Mathlib.Data.List.Forall2
import Mathlib.Data.List.Nodup
import ServiceMesh.Proofs.Json.Passing

namespace ServiceMesh.Json.Reader

/-! ## Texts -/

/-- A code point that a character has is none of the pairs' halves. -/
theorem not_half (c : Char) : c.toNat < 0xD800 ∨ 0xDFFF < c.toNat := by
  rcases c.valid with h | h
  · exact Or.inl h
  · exact Or.inr h.1

theorem reads_word {c : Char} {d₁ d₂ d₃ d₄ : UInt8} (h : hexWord? d₁ d₂ d₃ d₄ = some c.toNat)
    (bytes : List UInt8) :
    Reads unicodeEscape (d₁ :: d₂ :: d₃ :: d₄ :: bytes) (String.utf8EncodeChar c) bytes := by
  have hhalf := not_half c
  have hlow : ¬ (decide (0xDC00 ≤ c.toNat) && decide (c.toNat ≤ 0xDFFF)) = true := by
    simp only [Bool.and_eq_true, decide_eq_true_eq]
    omega
  have hfirst : (decide (c.toNat < 0xD800) || decide (0xDBFF < c.toNat)) = true := by
    simp only [Bool.or_eq_true, decide_eq_true_eq]
    omega
  unfold unicodeEscape
  refine (reads_hexWord h bytes).bind ?_
  rw [if_neg hlow, if_pos hfirst, utf8_control rfl]
  exact reads_pure _ bytes

theorem reads_pair {c : Char} {d₁ d₂ d₃ d₄ e₁ e₂ e₃ e₄ : UInt8} {n m : Nat}
    (hn : hexWord? d₁ d₂ d₃ d₄ = some n) (hm : hexWord? e₁ e₂ e₃ e₄ = some m)
    (hhigh : 0xD800 ≤ n ∧ n ≤ 0xDBFF) (hlow : 0xDC00 ≤ m ∧ m ≤ 0xDFFF)
    (hc : c.toNat = (n - 0xD800) * 1024 + (m - 0xDC00) + 0x10000) (bytes : List UInt8) :
    Reads unicodeEscape (d₁ :: d₂ :: d₃ :: d₄ :: 92 :: 117 :: e₁ :: e₂ :: e₃ :: e₄ :: bytes)
      (String.utf8EncodeChar c) bytes := by
  have hsecond : ¬ (decide (0xDC00 ≤ n) && decide (n ≤ 0xDFFF)) = true := by
    simp only [Bool.and_eq_true, decide_eq_true_eq]
    omega
  have halone : ¬ (decide (n < 0xD800) || decide (0xDBFF < n)) = true := by
    simp only [Bool.or_eq_true, decide_eq_true_eq]
    omega
  have hpaired : ¬ (decide (m < 0xDC00) || decide (0xDFFF < m)) = true := by
    simp only [Bool.or_eq_true, decide_eq_true_eq]
    omega
  unfold unicodeEscape
  refine (reads_hexWord hn _).bind ?_
  rw [if_neg hsecond, if_neg halone]
  refine (Reads.bind (reads_next 92 _) ((reads_next 117 _).bind ?_))
  refine (reads_hexWord hm bytes).bind ?_
  rw [if_neg hpaired, utf8_control hc]
  exact reads_pure _ bytes

/-- A character is read as its bytes. It takes one turn at most. -/
theorem Letter.reads {c : Char} {front bytes rest : List UInt8} {parts : List (List UInt8)}
    {s : String} {n : Nat} (hc : Letter c front)
    (h : ∀ fuel, n ≤ fuel →
      Reads (textTail (String.utf8EncodeChar c :: parts) (fuel + 1)) bytes s rest)
    {fuel : Nat} (hfuel : n + 1 ≤ fuel) :
    Reads (textTail parts (fuel + 1)) (front ++ bytes) s rest := by
  obtain ⟨fuel, rfl⟩ : ∃ k, fuel = k + 1 := ⟨fuel - 1, by omega⟩
  have same : textTail (String.utf8EncodeChar c :: [] :: parts) (fuel + 1) =
      textTail (String.utf8EncodeChar c :: parts) (fuel + 1) := textTail_congr _ (by simp)
  have hread := h fuel (by omega)
  rw [← same] at hread
  cases hc with
  | plain hplain => exact reads_plain_run hplain (h _ (by omega))
  | short e byte he hshort hc =>
    refine reads_backslash ?_
    rw [if_neg he, hshort]
    dsimp only
    rw [← hc]
    exact hread
  | word d₁ d₂ d₃ d₄ hword =>
    refine reads_backslash ?_
    rw [if_pos rfl]
    exact (reads_word hword bytes).bind hread
  | pair d₁ d₂ d₃ d₄ e₁ e₂ e₃ e₄ high low hn hm hhigh hlow hc =>
    refine reads_backslash ?_
    rw [if_pos rfl]
    exact (reads_pair hn hm hhigh hlow hc bytes).bind hread

theorem Spells.reads {bytes rest : List UInt8} {cs : List Char} (h : Spells bytes cs rest)
    {parts : List (List UInt8)} {s : String}
    (htext : textOfBytes? (parts.reverse.flatten ++ Text.utf8 cs) = some s) {fuel : Nat}
    (hfuel : cs.length ≤ fuel) : Reads (textTail parts (fuel + 1)) bytes s rest := by
  induction h generalizing parts fuel with
  | quote rest =>
    rw [Text.utf8_nil, List.append_nil] at htext
    exact reads_quote htext fuel rest
  | @char front bytes rest c cs hc hcs ih =>
    rw [List.length_cons] at hfuel
    refine hc.reads ?_ hfuel
    intro fuel' hfuel'
    refine ih ?_ hfuel'
    rw [← htext, Text.utf8_cons]
    simp

theorem Spells.reads_textBody {bytes rest : List UInt8} {s : String}
    (h : Spells bytes s.toList rest) : Reads textBody bytes s rest := by
  have htext : textOfBytes? (([] : List (List UInt8)).reverse.flatten ++ Text.utf8 s.toList) =
      some s := by
    change textOfBytes? (Text.utf8 s.toList) = some s
    rw [Text.textOfBytes_utf8, String.ofList_toList]
  have hlength := h.length_lt
  exact (reads_remaining bytes).bind (h.reads htext (by omega))

/-! ## Values of a shape -/

variable {α β : Type}

/-- A reader reads whatever is a text of a value as something. -/
def Takes (r : Reader α) (j : Json) (x : α) : Prop :=
  ∀ bytes b rest, Blanks bytes b → Writes b (.value j) rest → Reads r bytes x rest

theorem Takes.map {r : Reader α} {j : Json} {x : α} (h : Takes r j x) (f : α → β) :
    Takes (f <$> r) j (f x) :=
  fun bytes b rest hblanks hj => (h bytes b rest hblanks hj).map f

theorem takes_skipValue (j : Json) : Takes skipValue j () :=
  fun _ _ _ hblanks hj => hj.reads_skipValue hblanks

theorem Blanks.reads_token {bytes rest : List UInt8} {b : UInt8} (h : Blanks bytes (b :: rest))
    (hb : isSpace b = false) : Reads token bytes b (b :: rest) :=
  (h.reads_peekToken hb).bind (reads_pure b _)

theorem takes_text (s expected : String) : Takes (text expected) (.text s) s := by
  intro bytes b rest hblanks hj
  cases hj with
  | text h =>
    unfold text
    refine (hblanks.reads_token (by decide)).bind ?_
    rw [if_pos rfl]
    exact (reads_skip 34 _).bind h.reads_textBody

theorem takes_integer {range : Text.IntegerRange} {k : Int} (hk : range.contains k = true)
    (expected : String) : Takes (integer range expected) (.int k) k := by
  intro bytes b rest hblanks hj
  generalize hpart : Part.value (.int k) = part at hj
  cases hj with
  | @int k' c hc hlow hhigh rest =>
    cases hpart
    have hnumber := reads_number hc hlow hhigh rest
    obtain ⟨first, ds, hds, hfirst⟩ := decimal_cons k
    rw [hds] at hnumber hblanks
    unfold integer
    refine (Blanks.reads_token hblanks (isSpace_of_first hfirst)).bind ?_
    rw [if_pos (first_of hfirst)]
    refine hnumber.bind ?_
    simp only [hk, if_true]
    exact reads_pure k _
  | _ => cases hpart

/-- What is not null is read as what it is. -/
theorem Takes.optional {r : Reader α} {j : Json} {x : α} (h : Takes r j x) (hnull : j ≠ .null) :
    Takes (optional r) j (some x) := by
  intro bytes b rest hblanks hj
  obtain ⟨first, more, rfl, hspace, -, hfirst⟩ := hj.first
  unfold Reader.optional
  refine (hblanks.reads_peekToken hspace).bind ?_
  split
  · rename_i heq
    exact absurd (hfirst (Option.some.inj heq)) hnull
  · exact (h _ _ rest (blanks_refl _) hj).map some

theorem Blanks.reads_finish {bytes : List UInt8} (h : Blanks bytes []) :
    Reads finish bytes () [] := by
  obtain ⟨run, hrun, rfl⟩ := h
  rw [List.append_nil]
  intro offset
  refine ⟨offset + (run.takeWhile isSpace).length, ?_⟩
  have hnone : run.dropWhile isSpace = [] := by
    rw [← List.append_nil run, List.dropWhile_append_of_pos hrun, List.dropWhile_nil]
  have hskip : peekToken ⟨run, offset⟩ =
      .ok none ⟨[], offset + (run.takeWhile isSpace).length⟩ := by
    unfold peekToken
    change EStateM.bind (skipWhile isSpace) _ _ = _
    unfold EStateM.bind skipWhile
    simp only [hnone]
    rfl
  unfold finish
  change EStateM.bind peekToken _ _ = _
  unfold EStateM.bind
  rw [hskip]
  rfl

/-- A value that is all of the bytes is read as a whole. -/
theorem Takes.fromAll {r : Reader α} {j : Json} {x : α} (h : Takes r j x) {bytes : List UInt8}
    (hall : WritesAll bytes j) : fromAll r bytes = .ok x := by
  obtain ⟨b, rest, hblanks, hj, hrest⟩ := hall
  have hboth : Reads (do let a ← r; finish; pure a) bytes x [] := by
    refine (h bytes b rest hblanks hj).bind ?_
    exact hrest.reads_finish.bind (reads_pure x [])
  obtain ⟨offset, hread⟩ := hboth 0
  unfold Reader.fromAll fromFront
  rw [hread]

/-! ## Lists -/

section List

variable {item : Reader α}

theorem reads_noItem {bytes rest : List UInt8} (h : Blanks bytes (93 :: rest)) (first : Bool) :
    Reads (nextItem first) bytes false (93 :: rest) := by
  unfold nextItem
  exact (h.reads_peekToken (by decide)).bind (reads_pure false _)

theorem reads_nextItem {first : Bool} {bytes b₁ more : List UInt8} {b : UInt8}
    (hspace : isSpace b = false) (hend : b ≠ 93) (hmark : Blanks bytes (mark first ++ b₁))
    (hblanks : Blanks b₁ (b :: more)) : Reads (nextItem first) bytes true (b :: more) := by
  unfold nextItem
  cases first with
  | true =>
    refine ((hmark.trans hblanks).reads_peekToken hspace).bind ?_
    simp only [hend, Bool.not_true, Bool.and_false, Bool.false_eq_true, if_false, if_true]
    exact reads_pure true _
  | false =>
    refine (Blanks.reads_peekToken hmark (by decide)).bind ((reads_skip 44 b₁).bind ?_)
    refine (hblanks.reads_peekToken hspace).bind ?_
    split
    · rename_i heq
      exact absurd (Option.some.inj heq) hend
    · exact reads_pure true _
    · rename_i heq
      cases heq

theorem reads_itemsTail {js : List Json} {xs seen : List α} (h : List.Forall₂ (Takes item) js xs)
    {bytes rest : List UInt8} (hjs : Writes bytes (.items seen.isEmpty js) rest) {fuel : Nat}
    (hfuel : bytes.length ≤ fuel) :
    Reads (itemsTail item seen (fuel + 1)) bytes (xs.reverse ++ seen) (93 :: rest) := by
  induction h generalizing seen bytes fuel with
  | nil =>
    cases hjs with
    | noItem hend =>
      unfold itemsTail
      exact (reads_noItem hend _).bind (reads_pure seen _)
  | @cons j x js xs hj _ ih =>
    cases hjs with
    | @item _ b₁ b₂ b₃ _ _ _ _ hmark hblanks hvalue hmore =>
      have hlt := hvalue.length_lt
      have hle := hblanks.length_le
      have hle' := hmark.length_le
      rw [List.length_append] at hle'
      obtain ⟨b, more, rfl, hspace, hend, -⟩ := hvalue.first
      obtain ⟨fuel, rfl⟩ : ∃ k, fuel = k + 1 := ⟨fuel - 1, by omega⟩
      have hrest : Reads (itemsTail item (x :: seen) (fuel + 1)) b₃ (xs.reverse ++ x :: seen)
          (93 :: rest) := ih hmore (by omega)
      rw [List.reverse_cons, List.append_assoc]
      unfold itemsTail
      refine (reads_nextItem hspace hend hmark hblanks).bind ?_
      exact ((hj _ _ b₃ (blanks_refl _) hvalue).within _).bind hrest

theorem reads_listEnd (rest : List UInt8) : Reads listEnd (93 :: rest) () rest := by
  unfold listEnd
  exact (reads_peekToken (by decide) rest).bind (reads_skip 93 rest)

/-- A list is read item by item, in its order. -/
theorem takes_list {js : List Json} {xs : List α} (h : List.Forall₂ (Takes item) js xs) :
    Takes (list item) (.array js) xs := by
  intro bytes b rest hblanks hj
  cases hj with
  | @array inner _ _ hjs =>
    have hitems : Reads (itemsTail item [] (inner.length + 1)) inner (xs.reverse ++ [])
        (93 :: rest) := reads_itemsTail h hjs (Nat.le_refl _)
    rw [List.append_nil] at hitems
    have hreverse := hitems.map List.reverse
    rw [List.reverse_reverse] at hreverse
    unfold list
    refine (hblanks.reads_token (by decide)).bind ?_
    rw [if_pos rfl]
    refine Reads.closing ?_ (reads_listEnd rest)
    exact (reads_skip 91 inner).bind ((reads_remaining inner).bind hreverse)

end List

/-! ## Objects -/

theorem Blanks.reads_noKey {bytes rest : List UInt8} (h : Blanks bytes (125 :: rest))
    (first : Bool) : Reads (nextKey first) bytes false (125 :: rest) := by
  unfold nextKey
  exact (h.reads_peekToken (by decide)).bind (reads_pure false _)

theorem Blanks.reads_nextKey {first : Bool} {bytes b₁ b₂ : List UInt8}
    (hmark : Blanks bytes (mark first ++ b₁)) (hquote : Blanks b₁ (34 :: b₂)) :
    Reads (nextKey first) bytes true (34 :: b₂) := by
  unfold nextKey
  cases first with
  | true => exact ((hmark.trans hquote).reads_peekToken (by decide)).bind (reads_pure true _)
  | false =>
    refine (Blanks.reads_peekToken hmark (by decide)).bind ((reads_skip 44 b₁).bind ?_)
    exact (hquote.reads_peekToken (by decide)).bind (reads_pure true _)

theorem Blanks.reads_colon {bytes rest : List UInt8} (h : Blanks bytes (58 :: rest)) :
    Reads colon bytes () rest := by
  unfold colon
  exact (h.reads_peekToken (by decide)).bind (reads_skip 58 rest)

/-- A field takes up bytes. -/
theorem length_of_field {first : Bool} {bytes b₁ b₂ b₃ b₄ b₅ b₆ : List UInt8} {cs : List Char}
    {j : Json} (hmark : Blanks bytes (mark first ++ b₁)) (hquote : Blanks b₁ (34 :: b₂))
    (hkey : Spells b₂ cs b₃) (hcolon : Blanks b₃ (58 :: b₄)) (hblanks : Blanks b₄ b₅)
    (hvalue : Writes b₅ (.value j) b₆) : b₆.length < bytes.length := by
  have h₁ := hmark.length_le
  have h₂ := hquote.length_le
  have h₃ := hkey.length_lt
  have h₄ := hcolon.length_le
  have h₅ := hblanks.length_le
  have h₆ := hvalue.length_lt
  rw [List.length_append] at h₁
  rw [List.length_cons] at h₂ h₄
  omega

section Table

variable {value : Reader α}

/-- A field is an entry of a table. -/
def TakesEntry (value : Reader α) (f : String × Json) (e : String × α) : Prop :=
  f.1 = e.1 ∧ Takes value f.2 e.2

theorem reads_entriesTail {fs : List (String × Json)} {es seen : List (String × α)}
    (h : List.Forall₂ (TakesEntry value) fs es) {bytes rest : List UInt8}
    (hfs : Writes bytes (.fields seen.isEmpty fs) rest) {fuel : Nat}
    (hfuel : bytes.length ≤ fuel) :
    Reads (entriesTail value seen (fuel + 1)) bytes (es.reverse ++ seen) (125 :: rest) := by
  induction h generalizing seen bytes fuel with
  | nil =>
    cases hfs with
    | noField hend =>
      unfold entriesTail
      exact (hend.reads_noKey _).bind (reads_pure seen _)
  | @cons f e fs es hf _ ih =>
    obtain ⟨hname, htakes⟩ := hf
    cases hfs with
    | @field _ b₁ b₂ b₃ b₄ b₅ b₆ _ _ key j _ hmark hquote hkey hcolon hblanks hvalue hmore =>
      have hlt := length_of_field hmark hquote hkey hcolon hblanks hvalue
      obtain ⟨fuel, rfl⟩ : ∃ k, fuel = k + 1 := ⟨fuel - 1, by omega⟩
      have hrest : Reads (entriesTail value (e :: seen) (fuel + 1)) b₆ (es.reverse ++ e :: seen)
          (125 :: rest) := ih hmore (by omega)
      obtain ⟨name, x⟩ := e
      cases hname
      rw [List.reverse_cons, List.append_assoc]
      unfold entriesTail
      refine (hmark.reads_nextKey hquote).bind ((reads_skip 34 b₂).bind ?_)
      refine hkey.reads_textBody.bind (hcolon.reads_colon.bind ?_)
      exact ((htakes _ _ b₆ hblanks hvalue).within _).bind hrest

/-- A table is read entry by entry, in its order. -/
theorem takes_table {fs : List (String × Json)} {es : List (String × α)}
    (h : List.Forall₂ (TakesEntry value) fs es) : Takes (table value) (.object fs) es := by
  intro bytes b rest hblanks hj
  cases hj with
  | @object inner _ _ hfs =>
    have hentries : Reads (entriesTail value [] (inner.length + 1)) inner (es.reverse ++ [])
        (125 :: rest) := reads_entriesTail h hfs (Nat.le_refl _)
    rw [List.append_nil] at hentries
    have hreverse := hentries.map List.reverse
    rw [List.reverse_reverse] at hreverse
    unfold table
    refine (hblanks.reads_token (by decide)).bind ?_
    rw [if_pos rfl]
    refine Reads.closing ?_ (reads_objectEnd rest)
    exact (reads_skip 123 inner).bind ((reads_remaining inner).bind hreverse)

end Table

/-! ## Records -/

/-- A key stands once among the fields of an object. -/
def Once (fs : List (String × Json)) (key : String) (j : Json) : Prop :=
  fs.filter (·.1 == key) = [(key, j)]

theorem Once.unique {fs : List (String × Json)} {key : String} {j j' : Json} (h : Once fs key j)
    (hmem : (key, j') ∈ fs) : j' = j := by
  have hin : (key, j') ∈ fs.filter (·.1 == key) := List.mem_filter.mpr ⟨hmem, by simp⟩
  rw [h, List.mem_singleton] at hin
  exact congrArg Prod.snd hin

theorem Once.mem {fs : List (String × Json)} {key : String} {j : Json} (h : Once fs key j) :
    (key, j) ∈ fs := by
  have hin : (key, j) ∈ fs.filter (·.1 == key) := by
    rw [h]
    exact List.mem_singleton_self _
  exact (List.mem_filter.mp hin).1

section Record

variable {fields : List Field}

/-- Fields of an object, as a record takes them in: what was seen before them and what is seen
after. -/
inductive Gathers (fields : List Field) :
    List (String × Json) → List (String × Json) → List (String × Json) → Prop
  | nil {seen : List (String × Json)} : Gathers fields seen [] seen
  | known {seen fs found : List (String × Json)} {key : String} {j x : Json} {field : Field}
      (hfield : fields.find? (·.name == key) = some field) (hnew : seen.any (·.1 == key) = false)
      (hread : Takes field.read j x) (hmore : Gathers fields ((key, x) :: seen) fs found) :
      Gathers fields seen ((key, j) :: fs) found
  | unknown {seen fs found : List (String × Json)} {key : String} {j : Json}
      (hfield : fields.find? (·.name == key) = none) (hmore : Gathers fields seen fs found) :
      Gathers fields seen ((key, j) :: fs) found

theorem Gathers.reads_recordTail {seen fs found : List (String × Json)}
    (h : Gathers fields seen fs found) {first : Bool} {bytes rest : List UInt8}
    (hfs : Writes bytes (.fields first fs) rest) {fuel : Nat} (hfuel : bytes.length ≤ fuel) :
    Reads (recordTail fields first seen (fuel + 1)) bytes found (125 :: rest) := by
  induction h generalizing first bytes fuel with
  | nil =>
    cases hfs with
    | noField hend =>
      unfold recordTail
      exact (hend.reads_noKey _).bind (reads_pure _ _)
  | @known seen fs found key j x field hfield hnew hread hmore ih =>
    cases hfs with
    | @field _ b₁ b₂ b₃ b₄ b₅ b₆ _ _ _ _ _ hmark hquote hkey hcolon hblanks hvalue hrest =>
      have hlt := length_of_field hmark hquote hkey hcolon hblanks hvalue
      obtain ⟨fuel, rfl⟩ : ∃ k, fuel = k + 1 := ⟨fuel - 1, by omega⟩
      unfold recordTail
      refine (hmark.reads_nextKey hquote).bind ((reads_skip 34 b₂).bind ?_)
      refine hkey.reads_textBody.bind ?_
      simp only [hfield, hnew, Bool.false_eq_true, if_false]
      refine hcolon.reads_colon.bind ?_
      exact ((hread _ _ b₆ hblanks hvalue).within _).bind (ih hrest (by omega))
  | @unknown seen fs found key j hfield hmore ih =>
    cases hfs with
    | @field _ b₁ b₂ b₃ b₄ b₅ b₆ _ _ _ _ _ hmark hquote hkey hcolon hblanks hvalue hrest =>
      have hlt := length_of_field hmark hquote hkey hcolon hblanks hvalue
      obtain ⟨fuel, rfl⟩ : ∃ k, fuel = k + 1 := ⟨fuel - 1, by omega⟩
      unfold recordTail
      refine (hmark.reads_nextKey hquote).bind ((reads_skip 34 b₂).bind ?_)
      refine hkey.reads_textBody.bind ?_
      simp only [hfield]
      refine hcolon.reads_colon.bind ?_
      exact ((takes_skipValue j _ _ b₆ hblanks hvalue).within _).bind (ih hrest (by omega))

/-- What is left of an object can be read, as values of a list: each of the fields stands once at
most, also counting those that were seen. -/
structure Readable (fields : List Field) (values seen fs : List (String × Json)) : Prop where
  read : ∀ key j, (key, j) ∈ fs → ∀ field, fields.find? (·.name == key) = some field →
    ∃ x, (key, x) ∈ values ∧ Takes field.read j x
  once : ∀ field ∈ fields, (fs.filter (·.1 == field.name)).length ≤ 1
  listed : ∀ v ∈ seen, v ∈ values
  fresh : ∀ v ∈ seen, fs.filter (·.1 == v.1) = []

theorem Readable.skip {values seen fs : List (String × Json)} {f : String × Json}
    (h : Readable fields values seen (f :: fs)) : Readable fields values seen fs := by
  refine ⟨fun key j hmem => h.read key j (List.mem_cons_of_mem _ hmem), ?_, h.listed, ?_⟩
  · intro field hfield
    have hsub : (fs.filter (·.1 == field.name)).Sublist
        ((f :: fs).filter (·.1 == field.name)) := (List.sublist_cons_self _ _).filter _
    exact Nat.le_trans hsub.length_le (h.once field hfield)
  · intro v hv
    have hnone := h.fresh v hv
    rw [List.filter_eq_nil_iff] at hnone ⊢
    exact fun f hf => hnone f (List.mem_cons_of_mem _ hf)

theorem Readable.take {values seen fs : List (String × Json)} {key : String} {j : Json}
    {field : Field} (h : Readable fields values seen ((key, j) :: fs))
    (hfield : fields.find? (·.name == key) = some field) :
    ∃ x, Takes field.read j x ∧ seen.any (·.1 == key) = false ∧
      Readable fields values ((key, x) :: seen) fs := by
  have hname : field.name = key := by simpa using List.find?_some hfield
  obtain ⟨x, hx, htakes⟩ := h.read key j List.mem_cons_self field hfield
  have hfresh : seen.any (·.1 == key) = false := by
    rw [List.any_eq_false]
    intro v hv hkey
    have hnone := h.fresh v hv
    rw [List.filter_eq_nil_iff] at hnone
    rw [beq_iff_eq] at hkey
    exact hnone (key, j) List.mem_cons_self (beq_iff_eq.mpr hkey.symm)
  have hlast : fs.filter (·.1 == key) = [] := by
    have hle := h.once field (List.mem_of_find?_eq_some hfield)
    rw [hname, List.filter_cons_of_pos (by simp), List.length_cons] at hle
    exact List.eq_nil_of_length_eq_zero (by omega)
  exact ⟨x, htakes, hfresh, h.skip.read, h.skip.once,
    List.forall_mem_cons.mpr ⟨hx, h.listed⟩, List.forall_mem_cons.mpr ⟨hlast, h.skip.fresh⟩⟩

/-- Fields that each stand once at most are gathered, each with its value. -/
theorem exists_gathers {values seen fs : List (String × Json)}
    (h : Readable fields values seen fs) :
    ∃ found, Gathers fields seen fs found ∧ (∀ v ∈ found, v ∈ values) ∧ (∀ v ∈ seen, v ∈ found) ∧
      ∀ key j, (key, j) ∈ fs → (fields.find? (·.name == key)).isSome = true →
        ∃ x, (key, x) ∈ found := by
  induction fs generalizing seen with
  | nil => exact ⟨seen, .nil, h.listed, fun _ hv => hv, fun _ _ hmem => by cases hmem⟩
  | cons f fs ih =>
    obtain ⟨key, j⟩ := f
    cases hfield : fields.find? (·.name == key) with
    | none =>
      obtain ⟨found, hgathers, hvalues, hkept, hfound⟩ := ih h.skip
      refine ⟨found, .unknown hfield hgathers, hvalues, hkept, ?_⟩
      intro key' j' hmem hsome
      obtain heq | hmem := List.mem_cons.mp hmem
      · cases heq
        rw [hfield] at hsome
        cases hsome
      · exact hfound key' j' hmem hsome
    | some field =>
      obtain ⟨x, htakes, hfresh, hmore⟩ := h.take hfield
      obtain ⟨found, hgathers, hvalues, hkept, hfound⟩ := ih hmore
      refine ⟨found, .known hfield hfresh htakes hgathers, hvalues,
        fun v hv => hkept v (List.mem_cons_of_mem _ hv), ?_⟩
      intro key' j' hmem hsome
      obtain heq | hmem := List.mem_cons.mp hmem
      · cases heq
        exact ⟨x, hkept _ List.mem_cons_self⟩
      · exact hfound key' j' hmem hsome

/-- A field stands once, and is read as a value. -/
def TakesField (fs : List (String × Json)) (field : Field) (v : String × Json) : Prop :=
  v.1 = field.name ∧ ∃ j, Once fs field.name j ∧ Takes field.read j v.2

theorem reads_complete {found values : List (String × Json)} {fs : List (String × Json)}
    {more : List Field} (h : List.Forall₂ (TakesField fs) more values)
    (hfound : ∀ v ∈ values, found.find? (·.1 == v.1) = some v) (bs : List UInt8) :
    Reads (complete found more) bs values bs := by
  induction h with
  | nil => exact reads_pure [] bs
  | @cons field v more values hv _ ih =>
    have hone := hfound v List.mem_cons_self
    rw [hv.1] at hone
    exact reads_complete_found hone (ih fun w hw => hfound w (List.mem_cons_of_mem v hw))

/-- Of two lists with partners, every member has one. -/
theorem exists_partner {γ δ : Type} {R : γ → δ → Prop} {as : List γ} {bs : List δ}
    (h : List.Forall₂ R as bs) :
    (∀ a ∈ as, ∃ b ∈ bs, R a b) ∧ ∀ b ∈ bs, ∃ a ∈ as, R a b := by
  induction h with
  | nil => simp
  | cons hab _ ih =>
    simp only [List.mem_cons, forall_eq_or_imp, exists_eq_or_imp]
    exact ⟨⟨Or.inl hab, fun a ha => Or.inr (ih.1 a ha)⟩,
      ⟨Or.inl hab, fun b hb => Or.inr (ih.2 b hb)⟩⟩

theorem map_fst_of_takesField {fs values : List (String × Json)} {more : List Field}
    (h : List.Forall₂ (TakesField fs) more values) : values.map (·.1) = more.map (·.name) := by
  induction h with
  | nil => rfl
  | cons hv _ ih => rw [List.map_cons, List.map_cons, hv.1, ih]

theorem readable_of_takesField {fs values : List (String × Json)}
    (h : List.Forall₂ (TakesField fs) fields values) : Readable fields values [] fs := by
  obtain ⟨hpair, -⟩ := exists_partner h
  refine ⟨?_, ?_, by simp, by simp⟩
  · intro key j hmem field hfield
    have hname : field.name = key := by simpa using List.find?_some hfield
    obtain ⟨v, hv, hkey, j', honce, htakes⟩ := hpair field (List.mem_of_find?_eq_some hfield)
    subst hname
    rw [honce.unique hmem]
    rw [← hkey]
    exact ⟨v.2, hv, htakes⟩
  · intro field hfield
    obtain ⟨v, -, -, j, honce, -⟩ := hpair field hfield
    rw [honce]
    exact Nat.le_refl 1

/-- A record is read from an object in which each of its fields stands once, in whatever order
and among whatever other fields. -/
theorem takes_record {fs values : List (String × Json)} (hnames : (fields.map (·.name)).Nodup)
    (h : List.Forall₂ (TakesField fs) fields values) (name : String) :
    Takes (record name fields) (.object fs) (.object values) := by
  obtain ⟨-, hpair⟩ := exists_partner h
  have hnames' : (values.map (·.1)).Nodup := by
    rw [map_fst_of_takesField h]
    exact hnames
  obtain ⟨found, hgathers, hvalues, -, hall⟩ := exists_gathers (readable_of_takesField h)
  have hfound : ∀ v ∈ values, found.find? (·.1 == v.1) = some v := by
    intro v hv
    obtain ⟨field, hfield, hkey, j, honce, -⟩ := hpair v hv
    have hknown : (fields.find? (·.name == field.name)).isSome = true := by
      rw [List.find?_isSome]
      exact ⟨field, hfield, by simp⟩
    obtain ⟨x, hx⟩ := hall field.name j honce.mem hknown
    obtain ⟨w, hw⟩ : ∃ w, found.find? (·.1 == v.1) = some w := by
      rw [← Option.isSome_iff_exists, List.find?_isSome]
      exact ⟨_, hx, by simp [hkey]⟩
    have hkey' : w.1 = v.1 := by simpa using List.find?_some hw
    rw [hw, List.inj_on_of_nodup_map hnames' (hvalues w (List.mem_of_find?_eq_some hw)) hv hkey']
  intro bytes b rest hblanks hj
  cases hj with
  | @object inner _ _ hfs =>
    unfold record
    refine (hblanks.reads_token (by decide)).bind ?_
    refine Reads.closing ?_ (reads_objectEnd rest)
    refine (reads_skip 123 inner).bind ((reads_remaining inner).bind ?_)
    refine (hgathers.reads_recordTail hfs (Nat.le_refl _)).bind ?_
    exact (reads_complete h hfound _).map Json.object

end Record

end ServiceMesh.Json.Reader
