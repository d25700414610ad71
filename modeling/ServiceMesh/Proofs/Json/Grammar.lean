-- The grammar of JSON texts: which bytes are a text of which value, with blanks wherever they
-- may stand, and with characters spelled out or escaped. It leaves open what follows, as
-- readers do.
import ServiceMesh.Proofs.Json.Records

namespace ServiceMesh.Json.Reader

/-! ## Blanks -/

/-- Bytes begin with blanks, if with any, and go on. -/
def Blanks (bytes rest : List UInt8) : Prop :=
  ∃ run, (∀ b ∈ run, isSpace b = true) ∧ bytes = run ++ rest

theorem blanks_refl (bytes : List UInt8) : Blanks bytes bytes := ⟨[], by simp, rfl⟩

theorem Blanks.length_le {bytes rest : List UInt8} (h : Blanks bytes rest) :
    rest.length ≤ bytes.length := by
  obtain ⟨run, -, rfl⟩ := h
  rw [List.length_append]
  exact Nat.le_add_left _ _

theorem Blanks.trans {bytes mid rest : List UInt8} (h : Blanks bytes mid) (h' : Blanks mid rest) :
    Blanks bytes rest := by
  obtain ⟨run, hrun, rfl⟩ := h
  obtain ⟨more, hmore, rfl⟩ := h'
  refine ⟨run ++ more, ?_, (List.append_assoc _ _ _).symm⟩
  intro b hb
  obtain hb | hb := List.mem_append.mp hb
  · exact hrun b hb
  · exact hmore b hb

/-- A byte that ends a number stands in front of whatever follows one: a blank or a mark. -/
theorem Blanks.endsNumber {bytes rest : List UInt8} {b : UInt8} (h : Blanks bytes (b :: rest))
    (hb : EndsNumber b) : ∃ c more, bytes = c :: more ∧ EndsNumber c := by
  obtain ⟨run, hrun, rfl⟩ := h
  cases run with
  | nil => exact ⟨b, rest, rfl, hb⟩
  | cons blank run =>
    refine ⟨blank, run ++ b :: rest, rfl, ?_⟩
    have hblank := hrun blank List.mem_cons_self
    simp only [isSpace, Bool.or_eq_true, decide_eq_true_eq] at hblank
    rcases hblank with ((rfl | rfl) | rfl) | rfl <;> decide

/-! ## Texts -/

/-- The value of four hexadecimal digits. -/
def hexWord? (d₁ d₂ d₃ d₄ : UInt8) : Option Nat := do
  return (← hexValue? d₁) * 4096 + (← hexValue? d₂) * 256 + (← hexValue? d₃) * 16
    + (← hexValue? d₄)

/-- How a character may stand between quotes. -/
inductive Letter (c : Char) : List UInt8 → Prop where
  | plain (h : ∀ b ∈ String.utf8EncodeChar c, isPlain b = true) :
    Letter c (String.utf8EncodeChar c)
  | short (e byte : UInt8) (he : e ≠ 117) (h : shortEscape? e = some byte)
      (hc : String.utf8EncodeChar c = [byte]) : Letter c [92, e]
  | word (d₁ d₂ d₃ d₄ : UInt8) (h : hexWord? d₁ d₂ d₃ d₄ = some c.toNat) :
    Letter c [92, 117, d₁, d₂, d₃, d₄]
  /-- A character beyond the first plane takes two words. -/
  | pair (d₁ d₂ d₃ d₄ e₁ e₂ e₃ e₄ : UInt8) (n m : Nat) (hn : hexWord? d₁ d₂ d₃ d₄ = some n)
      (hm : hexWord? e₁ e₂ e₃ e₄ = some m) (hhigh : 0xD800 ≤ n ∧ n ≤ 0xDBFF)
      (hlow : 0xDC00 ≤ m ∧ m ≤ 0xDFFF)
      (hc : c.toNat = (n - 0xD800) * 1024 + (m - 0xDC00) + 0x10000) :
    Letter c [92, 117, d₁, d₂, d₃, d₄, 92, 117, e₁, e₂, e₃, e₄]

/-- Behind an opening quote: characters, and the closing quote. -/
inductive Spells : List UInt8 → List Char → List UInt8 → Prop
  | quote (rest : List UInt8) : Spells (34 :: rest) [] rest
  | char {front bytes rest : List UInt8} {c : Char} {cs : List Char} (hc : Letter c front)
      (hcs : Spells bytes cs rest) : Spells (front ++ bytes) (c :: cs) rest

theorem Letter.length_pos {c : Char} {front : List UInt8} (h : Letter c front) :
    0 < front.length := by
  cases h with
  | plain h => exact List.length_pos_iff.mpr String.utf8EncodeChar_ne_nil
  | short e byte he h hc => exact Nat.succ_pos _
  | word d₁ d₂ d₃ d₄ h => exact Nat.succ_pos _
  | pair d₁ d₂ d₃ d₄ e₁ e₂ e₃ e₄ n m hn hm hhigh hlow hc => exact Nat.succ_pos _

theorem Spells.length_lt {bytes rest : List UInt8} {cs : List Char} (h : Spells bytes cs rest) :
    cs.length + rest.length < bytes.length := by
  induction h with
  | quote rest => simp
  | char hc hcs ih =>
    have hpos := hc.length_pos
    rw [List.length_cons, List.length_append]
    omega

/-! ## Numbers -/

inductive Whole : List UInt8 → Prop
  | zero : Whole [48]
  | digits {d : UInt8} {ds : List UInt8} (hd : isDigit d = true) (hne : d ≠ 48)
      (hds : ∀ b ∈ ds, isDigit b = true) : Whole (d :: ds)

inductive Fraction : List UInt8 → Prop
  | none : Fraction []
  | some {ds : List UInt8} (hds : ds ≠ []) (hall : ∀ b ∈ ds, isDigit b = true) :
    Fraction (46 :: ds)

inductive Exponent : List UInt8 → Prop
  | none : Exponent []
  | plain {e d : UInt8} {ds : List UInt8} (he : e = 101 ∨ e = 69) (hd : isDigit d = true)
      (hds : ∀ b ∈ ds, isDigit b = true) : Exponent (e :: d :: ds)
  | signed {e sign d : UInt8} {ds : List UInt8} (he : e = 101 ∨ e = 69)
      (hsign : sign = 43 ∨ sign = 45) (hd : isDigit d = true)
      (hds : ∀ b ∈ ds, isDigit b = true) : Exponent (e :: sign :: d :: ds)

/-- A number without its sign. -/
inductive Unsigned : List UInt8 → Prop
  | mk {whole fraction exponent : List UInt8} (hw : Whole whole) (hf : Fraction fraction)
      (hx : Exponent exponent) : Unsigned (whole ++ (fraction ++ exponent))

inductive Numeral : List UInt8 → Prop
  | unsigned {bytes : List UInt8} (h : Unsigned bytes) : Numeral bytes
  | negative {bytes : List UInt8} (h : Unsigned bytes) : Numeral (45 :: bytes)

theorem whole_digits (n : Nat) : Whole (digits n) := by
  by_cases hzero : n = 0
  · subst hzero
    exact .zero
  · obtain ⟨b, bs, hbs, hb⟩ := digits_head (Nat.pos_of_ne_zero hzero)
    have hall := isDigit_of_mem_digits n
    rw [hbs] at hall ⊢
    exact .digits (hall b List.mem_cons_self) hb fun d hd => hall d (List.mem_cons_of_mem b hd)

theorem unsigned_digits (n : Nat) : Unsigned (digits n) := by
  have h := Unsigned.mk (whole_digits n) .none .none
  rwa [List.append_nil, List.append_nil] at h

theorem numeral_decimal (k : Int) : Numeral (decimal k) := by
  cases k with
  | ofNat n => exact .unsigned (unsigned_digits n)
  | negSucc n => exact .negative (unsigned_digits (n + 1))

/-! ## Values -/

/-- A part of a text: a value, or what stands behind an open bracket up to its end. -/
inductive Part where
  | value (j : Json)
  | items (first : Bool) (js : List Json)
  | fields (first : Bool) (fs : List (String × Json))

/-- Bytes begin with a text of a part, and go on. -/
inductive Writes : List UInt8 → Part → List UInt8 → Prop
  | null (rest : List UInt8) : Writes (110 :: 117 :: 108 :: 108 :: rest) (.value .null) rest
  | yes (rest : List UInt8) :
    Writes (116 :: 114 :: 117 :: 101 :: rest) (.value (.bool true)) rest
  | no (rest : List UInt8) :
    Writes (102 :: 97 :: 108 :: 115 :: 101 :: rest) (.value (.bool false)) rest
  | int {k : Int} {c : UInt8} (hc : EndsNumber c) (hlow : -(1 <<< 63 : Nat) ≤ k)
      (hhigh : k < UInt64.size) (rest : List UInt8) :
    Writes (decimal k ++ c :: rest) (.value (.int k)) (c :: rest)
  /-- Which fraction a number is rounded to, its reader says. -/
  | float {numeral rest : List UInt8} {c : UInt8} {x : Float} (hnumeral : Numeral numeral)
      (hc : EndsNumber c) (hx : Reads number (numeral ++ c :: rest) (.float x) (c :: rest)) :
    Writes (numeral ++ c :: rest) (.value (.float x)) (c :: rest)
  | text {bytes rest : List UInt8} {s : String} (h : Spells bytes s.toList rest) :
    Writes (34 :: bytes) (.value (.text s)) rest
  | array {bytes rest : List UInt8} {js : List Json} (h : Writes bytes (.items true js) rest) :
    Writes (91 :: bytes) (.value (.array js)) rest
  | object {bytes rest : List UInt8} {fs : List (String × Json)}
      (h : Writes bytes (.fields true fs) rest) : Writes (123 :: bytes) (.value (.object fs)) rest
  | noItem {bytes rest : List UInt8} {first : Bool} (h : Blanks bytes (93 :: rest)) :
    Writes bytes (.items first []) rest
  | item {bytes b₁ b₂ b₃ rest : List UInt8} {first : Bool} {j : Json} {js : List Json}
      (hmark : Blanks bytes (mark first ++ b₁)) (hblanks : Blanks b₁ b₂)
      (hj : Writes b₂ (.value j) b₃) (hjs : Writes b₃ (.items false js) rest) :
    Writes bytes (.items first (j :: js)) rest
  | noField {bytes rest : List UInt8} {first : Bool} (h : Blanks bytes (125 :: rest)) :
    Writes bytes (.fields first []) rest
  | field {bytes b₁ b₂ b₃ b₄ b₅ b₆ rest : List UInt8} {first : Bool} {key : String} {j : Json}
      {fs : List (String × Json)} (hmark : Blanks bytes (mark first ++ b₁))
      (hquote : Blanks b₁ (34 :: b₂)) (hkey : Spells b₂ key.toList b₃)
      (hcolon : Blanks b₃ (58 :: b₄)) (hblanks : Blanks b₄ b₅) (hj : Writes b₅ (.value j) b₆)
      (hfs : Writes b₆ (.fields false fs) rest) :
    Writes bytes (.fields first ((key, j) :: fs)) rest

/-- All of the bytes are a text of a value. -/
def WritesAll (bytes : List UInt8) (j : Json) : Prop :=
  ∃ b rest, Blanks bytes b ∧ Writes b (.value j) rest ∧ Blanks rest []

theorem Whole.first {bytes : List UInt8} (h : Whole bytes) :
    ∃ d ds, bytes = d :: ds ∧ isDigit d = true := by
  cases h with
  | zero => exact ⟨48, [], rfl, by decide⟩
  | digits hd hne hds => exact ⟨_, _, rfl, hd⟩

theorem Numeral.first {bytes : List UInt8} (h : Numeral bytes) :
    ∃ b more, bytes = b :: more ∧ (b = 45 ∨ isDigit b = true) := by
  cases h with
  | negative h => exact ⟨45, _, rfl, Or.inl rfl⟩
  | unsigned h =>
    obtain ⟨hw, hf, hx⟩ := h
    obtain ⟨d, ds, rfl, hd⟩ := hw.first
    exact ⟨d, _, rfl, Or.inr hd⟩

/-- The byte that a value begins with is no blank, and ends no list. Only `null` begins as
`null` does. -/
theorem Writes.first {bytes rest : List UInt8} {j : Json} (h : Writes bytes (.value j) rest) :
    ∃ b more, bytes = b :: more ∧ isSpace b = false ∧ b ≠ 93 ∧ (b = 110 → j = .null) := by
  have number (b : UInt8) (hb : b = 45 ∨ isDigit b = true) :
      isSpace b = false ∧ b ≠ 93 ∧ (b = 110 → j = .null) := by
    refine ⟨isSpace_of_first hb, ?_, ?_⟩
    · rintro rfl
      exact absurd hb (by decide)
    · rintro rfl
      exact absurd hb (by decide)
  cases h with
  | null => exact ⟨110, _, rfl, by decide, by decide, fun _ => rfl⟩
  | yes => exact ⟨116, _, rfl, by decide, by decide, fun h => absurd h (by decide)⟩
  | no => exact ⟨102, _, rfl, by decide, by decide, fun h => absurd h (by decide)⟩
  | @int k c hc hlow hhigh rest =>
    obtain ⟨b, bs, hbs, hb⟩ := decimal_cons k
    exact ⟨b, bs ++ c :: rest, by rw [hbs]; rfl, number b hb⟩
  | @float numeral rest c x hnumeral hc hx =>
    obtain ⟨b, bs, rfl, hb⟩ := hnumeral.first
    exact ⟨b, bs ++ c :: rest, rfl, number b hb⟩
  | text h => exact ⟨34, _, rfl, by decide, by decide, fun h => absurd h (by decide)⟩
  | array h => exact ⟨91, _, rfl, by decide, by decide, fun h => absurd h (by decide)⟩
  | object h => exact ⟨123, _, rfl, by decide, by decide, fun h => absurd h (by decide)⟩

/-- Every part takes up bytes. -/
theorem Writes.length_lt {bytes rest : List UInt8} {part : Part} (h : Writes bytes part rest) :
    rest.length < bytes.length := by
  induction h with
  | null rest =>
    simp only [List.length_cons]
    omega
  | yes rest =>
    simp only [List.length_cons]
    omega
  | no rest =>
    simp only [List.length_cons]
    omega
  | @int k c hc hlow hhigh rest =>
    obtain ⟨b, bs, hbs, -⟩ := decimal_cons k
    rw [hbs, List.length_append, List.length_cons, List.length_cons]
    omega
  | float hnumeral hc hx =>
    obtain ⟨b, bs, rfl, -⟩ := hnumeral.first
    rw [List.length_append, List.length_cons, List.length_cons]
    omega
  | text h =>
    have := h.length_lt
    rw [List.length_cons]
    omega
  | array h ih => exact Nat.lt_succ_of_lt ih
  | object h ih => exact Nat.lt_succ_of_lt ih
  | noItem h => exact h.length_le
  | @item bytes b₁ b₂ b₃ rest first j js hmark hblanks hj hjs ihj ihjs =>
    have h₁ := hmark.length_le
    have h₂ := hblanks.length_le
    rw [List.length_append] at h₁
    omega
  | noField h => exact h.length_le
  | @field bytes b₁ b₂ b₃ b₄ b₅ b₆ rest first key j fs hmark hquote hkey hcolon hblanks hj hfs
      ihj ihfs =>
    have h₁ := hmark.length_le
    have h₂ := hquote.length_le
    have h₃ := hkey.length_lt
    have h₄ := hcolon.length_le
    have h₅ := hblanks.length_le
    rw [List.length_append] at h₁
    rw [List.length_cons] at h₂ h₄
    omega

/-- A value in an object or a list is followed by a byte that ends a number. -/
theorem endsNumber_items {bytes rest : List UInt8} {js : List Json}
    (h : Writes bytes (.items false js) rest) : ∃ c more, bytes = c :: more ∧ EndsNumber c := by
  cases h with
  | noItem h => exact h.endsNumber (by decide)
  | item hmark hblanks hj hjs => exact hmark.endsNumber (by decide)

theorem endsNumber_fields {bytes rest : List UInt8} {fs : List (String × Json)}
    (h : Writes bytes (.fields false fs) rest) : ∃ c more, bytes = c :: more ∧ EndsNumber c := by
  cases h with
  | noField h => exact h.endsNumber (by decide)
  | field hmark hquote hkey hcolon hblanks hj hfs => exact hmark.endsNumber (by decide)

/-! ## Compact texts -/

theorem Escape.letter {c : Char} {bytes : List UInt8} (h : Escape c bytes) : Letter c bytes := by
  cases h with
  | plain h => exact .plain h
  | short e byte he h hc => exact .short e byte he h hc
  | hex d₁ d₂ v₁ v₂ h₁ h₂ hc hlt =>
    refine .word 48 48 d₁ d₂ ?_
    have zero : hexValue? 48 = some 0 := by decide
    simp [hexWord?, zero, h₁, h₂, hc]

theorem spells_escaped (cs : List Char) (rest : List UInt8) :
    Spells (Text.utf8 (cs.flatMap escapeChar) ++ 34 :: rest) cs rest := by
  induction cs with
  | nil => exact .quote rest
  | cons c cs ih =>
    rw [List.flatMap_cons, Text.utf8_append, List.append_assoc]
    exact .char (escape_spec c).letter ih

/-- The compact text of a value is a text of it. -/
def Compact (j : Json) : Prop :=
  ∀ c rest, EndsNumber c → Writes (rendered j ++ c :: rest) (.value j) (c :: rest)

theorem compact_text (s : String) : Compact (.text s) := by
  intro c rest _
  rw [rendered_text, quoted_append]
  exact .text (spells_escaped s.toList (c :: rest))

theorem compact_nat {n : Nat} (h : n < UInt64.size) : Compact (.nat n) := by
  intro c rest hc
  unfold Json.nat
  rw [rendered_int]
  refine .int hc ?_ (Int.ofNat_lt.mpr h) rest
  omega

theorem writes_entries {fs : List (String × Json)} (h : ∀ f ∈ fs, Compact f.2) (first : Bool)
    (rest : List UInt8) :
    Writes (entries first (fs.map fun f => (f.1, rendered f.2)) ++ 125 :: rest)
      (.fields first fs) rest := by
  induction fs generalizing first with
  | nil => exact .noField (blanks_refl _)
  | cons f fs ih =>
    obtain ⟨key, j⟩ := f
    have hmore := ih (fun f hf => h f (List.mem_cons_of_mem _ hf)) false
    obtain ⟨c, bs, hnext, hc⟩ := endsNumber_fields hmore
    have hvalue := h (key, j) List.mem_cons_self c bs hc
    rw [hnext] at hmore
    simp only [List.map_cons, entries, List.append_assoc, quoted_append, List.cons_append, hnext]
    exact .field (blanks_refl _) (blanks_refl _) (spells_escaped key.toList _) (blanks_refl _)
      (blanks_refl _) hvalue hmore

theorem writes_object {fs : List (String × Json)} (h : ∀ f ∈ fs, Compact f.2)
    (rest : List UInt8) : Writes (rendered (.object fs) ++ rest) (.value (.object fs)) rest := by
  have hfields := writes_entries h true rest
  rw [rendered_object]
  simpa using Writes.object hfields

theorem compact_object {fs : List (String × Json)} (h : ∀ f ∈ fs, Compact f.2) :
    Compact (.object fs) :=
  fun c rest _ => writes_object h (c :: rest)

/-- The items of a list, each as its bytes. -/
def itemBytes (first : Bool) : List (List UInt8) → List UInt8
  | [] => []
  | bytes :: more => mark first ++ (bytes ++ itemBytes false more)

theorem rendered_items (js : List Json) :
    Text.utf8 (renderItems js).toList = itemBytes true (js.map rendered) := by
  induction js with
  | nil => rfl
  | cons j js ih =>
    cases js with
    | nil => simp [renderItems, itemBytes, mark, rendered]
    | cons j' js =>
      have comma : Text.utf8 ",".toList = [44] := rfl
      have next : itemBytes false ((j' :: js).map rendered) =
          44 :: itemBytes true ((j' :: js).map rendered) := rfl
      simp only [renderItems, String.toList_append, Text.utf8_append, ih, comma]
      change _ = mark true ++ (rendered j ++ itemBytes false ((j' :: js).map rendered))
      rw [next]
      simp only [mark, rendered, if_true, List.nil_append, List.append_assoc, List.cons_append]

theorem rendered_array (js : List Json) :
    rendered (.array js) = 91 :: (itemBytes true (js.map rendered) ++ [93]) := by
  have hrender : (Json.array js).render = "[" ++ renderItems js ++ "]" := by rw [render]
  change Text.utf8 (Json.array js).render.toList = _
  rw [hrender, String.toList_append, String.toList_append, Text.utf8_append, Text.utf8_append,
    rendered_items]
  rfl

theorem writes_itemBytes {js : List Json} (h : ∀ j ∈ js, Compact j) (first : Bool)
    (rest : List UInt8) :
    Writes (itemBytes first (js.map rendered) ++ 93 :: rest) (.items first js) rest := by
  induction js generalizing first with
  | nil => exact .noItem (blanks_refl _)
  | cons j js ih =>
    have hmore := ih (fun j hj => h j (List.mem_cons_of_mem _ hj)) false
    obtain ⟨c, bs, hnext, hc⟩ := endsNumber_items hmore
    have hvalue := h j List.mem_cons_self c bs hc
    rw [hnext] at hmore
    simp only [List.map_cons, itemBytes, List.append_assoc, hnext]
    exact .item (blanks_refl _) (blanks_refl _) hvalue hmore

theorem writes_array {js : List Json} (h : ∀ j ∈ js, Compact j) (rest : List UInt8) :
    Writes (rendered (.array js) ++ rest) (.value (.array js)) rest := by
  have hitems := writes_itemBytes h true rest
  rw [rendered_array]
  simpa using Writes.array hitems

theorem compact_array {js : List Json} (h : ∀ j ∈ js, Compact j) : Compact (.array js) :=
  fun c rest _ => writes_array h (c :: rest)

theorem writesAll_array {js : List Json} (h : ∀ j ∈ js, Compact j) :
    WritesAll (rendered (.array js)) (.array js) := by
  have hall := writes_array h []
  rw [List.append_nil] at hall
  exact ⟨_, [], blanks_refl _, hall, blanks_refl _⟩

end ServiceMesh.Json.Reader
