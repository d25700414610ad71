-- Values of no interest: whatever stands in a text, it is passed over as far as it goes.
import ServiceMesh.Proofs.Json.Grammar

namespace ServiceMesh.Json.Reader

/-! ## Tokens behind blanks -/

theorem Blanks.reads_peekToken {bytes rest : List UInt8} {b : UInt8}
    (h : Blanks bytes (b :: rest)) (hb : isSpace b = false) :
    Reads peekToken bytes (some b) (b :: rest) := by
  obtain ⟨run, hrun, rfl⟩ := h
  exact (reads_skipWhile hrun hb).bind (reads_peek b rest)

/-! ## Texts -/

theorem reads_hexWord {d₁ d₂ d₃ d₄ : UInt8} {n : Nat} (h : hexWord? d₁ d₂ d₃ d₄ = some n)
    (bytes : List UInt8) : Reads hexEscape (d₁ :: d₂ :: d₃ :: d₄ :: bytes) n bytes := by
  intro offset
  refine ⟨offset + 4, ?_⟩
  unfold hexWord? at h
  unfold hexEscape
  cases h₁ : hexValue? d₁ with
  | none => simp [h₁] at h
  | some v₁ =>
    cases h₂ : hexValue? d₂ with
    | none => simp [h₁, h₂] at h
    | some v₂ =>
      cases h₃ : hexValue? d₃ with
      | none => simp [h₁, h₂, h₃] at h
      | some v₃ =>
        cases h₄ : hexValue? d₄ with
        | none => simp [h₁, h₂, h₃, h₄] at h
        | some v₄ =>
          have hn : v₁ * 4096 + v₂ * 256 + v₃ * 16 + v₄ = n := by simpa [h₁, h₂, h₃, h₄] using h
          simp only [h₁, h₂, h₃, h₄, hn]

theorem skips_word {d₁ d₂ d₃ d₄ : UInt8} {n : Nat} (h : hexWord? d₁ d₂ d₃ d₄ = some n)
    {bytes rest : List UInt8} {fuel : Nat} (hr : Reads (skipTextTail fuel) bytes () rest) :
    Reads (skipTextTail (fuel + 1)) (92 :: 117 :: d₁ :: d₂ :: d₃ :: d₄ :: bytes) () rest := by
  refine skips_backslash ?_
  rw [if_pos rfl]
  exact (reads_hexWord h bytes).bind hr

/-- A character takes two turns at most. -/
theorem skips_letter {c : Char} {front bytes rest : List UInt8} {n : Nat} (hc : Letter c front)
    (h : ∀ fuel, n ≤ fuel → Reads (skipTextTail (fuel + 1)) bytes () rest) {fuel : Nat}
    (hfuel : n + front.length ≤ fuel) :
    Reads (skipTextTail (fuel + 1)) (front ++ bytes) () rest := by
  cases hc with
  | plain hplain => exact skips_plain_run hplain (h fuel (by omega))
  | short e byte he hshort hc =>
    simp only [List.length_cons] at hfuel
    obtain ⟨fuel, rfl⟩ : ∃ k, fuel = k + 1 := ⟨fuel - 1, by omega⟩
    refine skips_backslash ?_
    rw [if_neg he, hshort, if_pos (by rfl)]
    exact h fuel (by omega)
  | word d₁ d₂ d₃ d₄ hword =>
    simp only [List.length_cons] at hfuel
    obtain ⟨fuel, rfl⟩ : ∃ k, fuel = k + 1 := ⟨fuel - 1, by omega⟩
    exact skips_word hword (h fuel (by omega))
  | pair d₁ d₂ d₃ d₄ e₁ e₂ e₃ e₄ high low hn hm =>
    simp only [List.length_cons] at hfuel
    obtain ⟨fuel, rfl⟩ : ∃ k, fuel = k + 2 := ⟨fuel - 2, by omega⟩
    exact skips_word hn (skips_word hm (h fuel (by omega)))

theorem Spells.skips {bytes rest : List UInt8} {cs : List Char} (h : Spells bytes cs rest)
    {fuel : Nat} (hfuel : bytes.length ≤ fuel) :
    Reads (skipTextTail (fuel + 1)) bytes () rest := by
  induction h generalizing fuel with
  | quote rest => exact skips_quote fuel rest
  | @char front bytes rest c cs hc hcs ih =>
    rw [List.length_append] at hfuel
    exact skips_letter hc (fun fuel' hfuel' => ih hfuel') (by omega)

theorem Spells.reads_skipText {bytes rest : List UInt8} {cs : List Char}
    (h : Spells bytes cs rest) : Reads skipText bytes () rest :=
  (reads_remaining bytes).bind (h.skips (Nat.le_refl _))

/-! ## Words and numbers -/

theorem reads_ident (word rest : List UInt8) : Reads (ident word) (word ++ rest) () rest := by
  induction word with
  | nil => exact reads_pure () rest
  | cons b word ih =>
    unfold ident
    refine (reads_next b (word ++ rest)).bind ?_
    simp only [if_true]
    exact ih

/-- What follows the digits of a number is no digit. -/
theorem exists_no_digit {fraction exponent : List UInt8} {c : UInt8} (hf : Fraction fraction)
    (hx : Exponent exponent) (hc : EndsNumber c) (rest : List UInt8) :
    ∃ b more, fraction ++ (exponent ++ c :: rest) = b :: more ∧ isDigit b = false := by
  cases hf with
  | some hds hall => exact ⟨46, _, rfl, by decide⟩
  | none =>
    cases hx with
    | none => exact ⟨c, rest, rfl, hc.1⟩
    | plain he hd hds => exact ⟨_, _, rfl, by rcases he with rfl | rfl <;> decide⟩
    | signed he hsign hd hds => exact ⟨_, _, rfl, by rcases he with rfl | rfl <;> decide⟩

theorem exists_no_point {exponent : List UInt8} {c : UInt8} (hx : Exponent exponent)
    (hc : EndsNumber c) (rest : List UInt8) :
    ∃ b more, exponent ++ c :: rest = b :: more ∧ b ≠ 46 ∧ isDigit b = false := by
  cases hx with
  | none => exact ⟨c, rest, rfl, hc.2.1, hc.1⟩
  | plain he hd hds =>
    exact ⟨_, _, rfl, by rcases he with rfl | rfl <;> decide,
      by rcases he with rfl | rfl <;> decide⟩
  | signed he hsign hd hds =>
    exact ⟨_, _, rfl, by rcases he with rfl | rfl <;> decide,
      by rcases he with rfl | rfl <;> decide⟩

theorem isDigit_sign {b : UInt8} (h : isDigit b = true) : b ≠ 43 ∧ b ≠ 45 := by
  constructor
  · rintro rfl
    cases h
  · rintro rfl
    cases h

/-! ## Numbers, part by part -/

def skipExponentDigits : Reader Unit := do
  match ← next with
  | some c => if isDigit c then skipWhile isDigit else fail .invalidNumber
  | none => fail .invalidNumber

def skipSignedDigits : Reader Unit := do
  match ← peek with
  | some 43 | some 45 => skip
  | _ => pure ()
  skipExponentDigits

def skipExponent : Reader Unit := do
  match ← peek with
  | some 101 | some 69 => do
    skip
    skipSignedDigits
  | _ => pure ()

def skipFraction : Reader Unit := do
  match ← peek with
  | some 46 => do
    skip
    let digits ← takeWhile isDigit
    if digits.isEmpty then failNext .invalidNumber
  | _ => pure ()
  skipExponent

section Number

variable {c : UInt8} (hc : EndsNumber c) (rest : List UInt8)

include hc

theorem reads_skipExponentDigits {d : UInt8} {ds : List UInt8} (hd : isDigit d = true)
    (hds : ∀ b ∈ ds, isDigit b = true) :
    Reads skipExponentDigits (d :: (ds ++ c :: rest)) () (c :: rest) := by
  refine (reads_next d _).bind ?_
  simp only [hd, if_true]
  exact reads_skipWhile hds hc.1

theorem reads_skipSignedDigits {d : UInt8} {ds : List UInt8} (hd : isDigit d = true)
    (hds : ∀ b ∈ ds, isDigit b = true) :
    Reads skipSignedDigits (d :: (ds ++ c :: rest)) () (c :: rest) ∧
      ∀ sign, sign = 43 ∨ sign = 45 →
        Reads skipSignedDigits (sign :: d :: (ds ++ c :: rest)) () (c :: rest) := by
  have hdigits := reads_skipExponentDigits hc rest hd hds
  refine ⟨(reads_peek d _).bind ?_, fun sign hsign => (reads_peek sign _).bind ?_⟩
  · split
    · rename_i heq
      exact absurd (Option.some.inj heq) (isDigit_sign hd).1
    · rename_i heq
      exact absurd (Option.some.inj heq) (isDigit_sign hd).2
    · exact hdigits
  · rcases hsign with rfl | rfl
    · exact (reads_skip 43 _).bind hdigits
    · exact (reads_skip 45 _).bind hdigits

theorem reads_skipExponent {exponent : List UInt8} (hx : Exponent exponent) :
    Reads skipExponent (exponent ++ c :: rest) () (c :: rest) := by
  have behind_letter {e : UInt8} {bytes : List UInt8} (he : e = 101 ∨ e = 69)
      (h : Reads skipSignedDigits bytes () (c :: rest)) :
      Reads skipExponent (e :: bytes) () (c :: rest) := by
    refine (reads_peek e bytes).bind ?_
    rcases he with rfl | rfl
    · exact (reads_skip 101 bytes).bind h
    · exact (reads_skip 69 bytes).bind h
  cases hx with
  | none =>
    refine (reads_peek c rest).bind ?_
    split
    · rename_i heq
      exact absurd (Option.some.inj heq) hc.2.2.1
    · rename_i heq
      exact absurd (Option.some.inj heq) hc.2.2.2
    · exact reads_pure () _
  | plain he hd hds => exact behind_letter he (reads_skipSignedDigits hc rest hd hds).1
  | signed he hsign hd hds =>
    exact behind_letter he ((reads_skipSignedDigits hc rest hd hds).2 _ hsign)

theorem reads_skipFraction {fraction exponent : List UInt8} (hf : Fraction fraction)
    (hx : Exponent exponent) :
    Reads skipFraction (fraction ++ (exponent ++ c :: rest)) () (c :: rest) := by
  have hexponent := reads_skipExponent hc rest hx
  obtain ⟨b, more, hnext, hpoint, hdigit⟩ := exists_no_point hx hc rest
  rw [hnext] at hexponent ⊢
  cases hf with
  | none =>
    refine (reads_peek b more).bind ?_
    split
    · rename_i heq
      exact absurd (Option.some.inj heq) hpoint
    · exact hexponent
  | @some ds hds hall =>
    have hempty : ¬ ds.isEmpty = true := by simpa using hds
    refine (reads_peek 46 _).bind ((reads_skip 46 _).bind ?_)
    refine (reads_takeWhile hall hdigit).bind ?_
    rw [if_neg hempty]
    exact hexponent

/-- A number is passed over up to the byte that ends it. -/
theorem reads_skipNumber {bytes : List UInt8} (h : Unsigned bytes) :
    Reads skipNumber (bytes ++ c :: rest) () (c :: rest) := by
  obtain ⟨hw, hf, hx⟩ := h
  rename_i whole fraction exponent
  have hfraction := reads_skipFraction hc rest hf hx
  obtain ⟨b, more, hnext, hb⟩ := exists_no_digit hf hx hc rest
  rw [List.append_assoc, List.append_assoc, hnext]
  rw [hnext] at hfraction
  cases hw with
  | zero =>
    refine (reads_next 48 _).bind ((reads_peek b more).bind ?_)
    simp only [hb, Bool.false_eq_true, if_false]
    exact hfraction
  | @digits d ds hd hne hds =>
    have hno : ¬ (!isDigit d) = true := by simp [hd]
    refine (reads_next d _).bind ?_
    dsimp -zeta only
    rw [if_neg hno, if_neg hne]
    exact (reads_skipWhile hds hb).bind hfraction

end Number

/-! ## Values -/

/-- Every bracket is closed once, so more turns than brackets make no difference. -/
theorem closeValues_congr (stack : List UInt8) (comma : Bool) {fuel : Nat}
    (hfuel : stack.length < fuel) :
    closeValues comma stack fuel = closeValues comma stack (stack.length + 1) := by
  induction stack generalizing comma fuel with
  | nil =>
    obtain ⟨fuel, rfl⟩ : ∃ k, fuel = k + 1 := ⟨fuel - 1, by omega⟩
    rfl
  | cons open_ outer ih =>
    rw [List.length_cons] at hfuel
    obtain ⟨fuel, rfl⟩ : ∃ k, fuel = k + 1 := ⟨fuel - 1, by omega⟩
    rw [List.length_cons]
    unfold closeValues
    dsimp only
    rw [ih true (by omega)]

/-- The next value inside the brackets that are still open. In an object a key stands in front
of it. -/
def onward (fuel : Nat) : List UInt8 → Reader Unit
  | [] => pure ()
  | open_ :: outer => do
    if open_ = 123 then do
      match ← peekToken with
      | some 34 => do skip; skipText
      | some _ => failNext .keyMustBeText
      | none => fail .eofInObject
      match ← peekToken with
      | some 58 => skip
      | some _ => failNext .expectedColon
      | none => fail .eofInObject
    skipValues (open_ :: outer) fuel

/-- What is left to do behind a value, or behind a bracket that was opened. -/
def behind (comma : Bool) (stack : List UInt8) (fuel : Nat) : Reader Unit := do
  let stack ← closeValues comma stack (stack.length + 1)
  onward fuel stack

theorem reads_behind {comma : Bool} {stack bytes rest : List UInt8} {fuel : Nat}
    {next : List UInt8 → Reader Unit} (h : Reads (behind comma stack fuel) bytes () rest)
    (hnext : ∀ stack, onward fuel stack = next stack) :
    Reads (do
      let n ← remaining
      let stack ← closeValues comma stack (n + stack.length + 2)
      next stack) bytes () rest := by
  refine (reads_remaining bytes).bind ?_
  rw [closeValues_congr stack comma (by omega), ← funext hnext]
  exact h

/-- A value without brackets, from its first byte on. -/
inductive Leaf : UInt8 → List UInt8 → List UInt8 → Prop
  | null {rest : List UInt8} : Leaf 110 (117 :: 108 :: 108 :: rest) rest
  | yes {rest : List UInt8} : Leaf 116 (114 :: 117 :: 101 :: rest) rest
  | no {rest : List UInt8} : Leaf 102 (97 :: 108 :: 115 :: 101 :: rest) rest
  | unsigned {b : UInt8} {bytes rest : List UInt8} (hb : isDigit b = true)
      (h : Reads skipNumber (b :: bytes) () rest) : Leaf b bytes rest
  | negative {bytes rest : List UInt8} (h : Reads skipNumber bytes () rest) : Leaf 45 bytes rest
  | text {bytes rest : List UInt8} (h : Reads skipText bytes () rest) : Leaf 34 bytes rest

theorem isDigit_ne {b c : UInt8} (hb : isDigit b = true) (hc : isDigit c = false) : b ≠ c := by
  rintro rfl
  rw [hb] at hc
  cases hc

theorem Leaf.reads {b : UInt8} {stack bytes more mid rest : List UInt8} {fuel : Nat}
    (hleaf : Leaf b more mid) (hbytes : Blanks bytes (b :: more))
    (h : Reads (behind true stack fuel) mid () rest) :
    Reads (skipValues stack (fuel + 1)) bytes () rest := by
  have hspace : isSpace b = false := by
    cases hleaf with
    | unsigned hb h => exact isSpace_of_first (Or.inr hb)
    | _ => decide
  unfold skipValues
  refine (hbytes.reads_peekToken hspace).bind ?_
  dsimp -zeta only
  extract_lets closed
  have hclosed : Reads (closed false) mid () rest :=
    reads_behind h fun stack => by cases stack <;> rfl
  cases hleaf with
  | null =>
    refine (reads_skip 110 _).bind ?_
    exact (reads_ident [117, 108, 108] mid).bind hclosed
  | yes =>
    refine (reads_skip 116 _).bind ?_
    exact (reads_ident [114, 117, 101] mid).bind hclosed
  | no =>
    refine (reads_skip 102 _).bind ?_
    exact (reads_ident [97, 108, 115, 101] mid).bind hclosed
  | negative h => exact (reads_skip 45 _).bind (h.bind hclosed)
  | text h => exact (reads_skip 34 _).bind (h.bind hclosed)
  | unsigned hb h =>
    have hbracket : ¬ (decide (b = 91) || decide (b = 123)) = true := by
      simp [isDigit_ne hb (by decide : isDigit 91 = false),
        isDigit_ne hb (by decide : isDigit 123 = false)]
    rw [if_neg hbracket, if_neg (isDigit_ne hb (by decide)), if_neg (isDigit_ne hb (by decide)),
      if_neg (isDigit_ne hb (by decide)), if_neg (isDigit_ne hb (by decide)), if_pos hb]
    exact h.bind hclosed

/-- A bracket opens. -/
theorem reads_opened {b : UInt8} (hb : b = 91 ∨ b = 123) {stack bytes more rest : List UInt8}
    {fuel : Nat} (hbytes : Blanks bytes (b :: more))
    (h : Reads (behind false (b :: stack) fuel) more () rest) :
    Reads (skipValues stack (fuel + 1)) bytes () rest := by
  have hspace : isSpace b = false := by rcases hb with rfl | rfl <;> decide
  unfold skipValues
  refine (hbytes.reads_peekToken hspace).bind ?_
  dsimp -zeta only
  extract_lets opened
  have hopened : Reads (opened true) more () rest :=
    reads_behind h fun stack => by cases stack <;> rfl
  rw [if_pos (by rcases hb with rfl | rfl <;> rfl)]
  exact (reads_skip b more).bind hopened

/-- The mark that ends a list or an object. -/
def closes (open_ b : UInt8) : Bool :=
  (decide (b = 93) && decide (open_ = 91)) || (decide (b = 125) && !decide (open_ = 91))

/-- A bracket closes. -/
theorem reads_closed {comma : Bool} {open_ b : UInt8} (hb : closes open_ b = true)
    {stack bytes more rest : List UInt8} {fuel : Nat} (hbytes : Blanks bytes (b :: more))
    (h : Reads (behind true stack fuel) more () rest) :
    Reads (behind comma (open_ :: stack) fuel) bytes () rest := by
  have hmark : b = 93 ∨ b = 125 := by
    simp only [closes, Bool.or_eq_true, Bool.and_eq_true, decide_eq_true_eq] at hb
    exact hb.imp And.left And.left
  have hspace : isSpace b = false := by rcases hmark with rfl | rfl <;> decide
  have hcomma : ¬ (decide (b = 44) && comma) = true := by
    rcases hmark with rfl | rfl <;> exact Bool.false_ne_true
  have hclose : Reads (closeValues comma (open_ :: stack) (stack.length + 1 + 1) >>= onward fuel)
      bytes () rest := by
    rw [closeValues, bind_assoc]
    refine (hbytes.reads_peekToken hspace).bind ?_
    unfold closes at hb
    dsimp only
    rw [if_neg hcomma, if_pos hb, bind_assoc]
    exact (reads_skip b more).bind h
  exact hclose

/-- Inside a bracket stands another value, behind a comma unless it is the first one. -/
theorem reads_inside {open_ b : UInt8} (hb : closes open_ b = false) (hspace : isSpace b = false)
    {first : Bool} {stack bytes b₁ more rest : List UInt8} {fuel : Nat}
    (hmark : Blanks bytes (mark first ++ b₁)) (hblanks : Blanks b₁ (b :: more))
    (h : ∀ front, Blanks front (b :: more) → Reads (onward fuel (open_ :: stack)) front () rest) :
    Reads (behind (!first) (open_ :: stack) fuel) bytes () rest := by
  have hnext : Reads
      (closeValues (!first) (open_ :: stack) (stack.length + 1 + 1) >>= onward fuel)
      bytes () rest := by
    rw [closeValues, bind_assoc]
    cases first with
    | true =>
      refine ((hmark.trans hblanks).reads_peekToken hspace).bind ?_
      unfold closes at hb
      simp only [Bool.not_true, Bool.and_false, Bool.false_eq_true, if_false, hb]
      exact h _ (blanks_refl _)
    | false =>
      have hfound : Reads (do skip; pure (open_ :: stack)) (44 :: b₁) (open_ :: stack) b₁ :=
        (reads_skip 44 b₁).bind (reads_pure _ b₁)
      refine (Blanks.reads_peekToken hmark (by decide)).bind ?_
      exact hfound.bind (h b₁ hblanks)
  exact hnext

theorem onward_list (fuel : Nat) (stack : List UInt8) :
    onward fuel (91 :: stack) = skipValues (91 :: stack) fuel := rfl

theorem reads_key {front b₂ b₃ b₄ stack rest : List UInt8} {cs : List Char} {fuel : Nat}
    (hquote : Blanks front (34 :: b₂)) (hkey : Spells b₂ cs b₃) (hcolon : Blanks b₃ (58 :: b₄))
    (h : Reads (skipValues (123 :: stack) fuel) b₄ () rest) :
    Reads (onward fuel (123 :: stack)) front () rest := by
  unfold onward
  dsimp -zeta only
  extract_lets value
  rw [if_pos rfl]
  refine (hquote.reads_peekToken (by decide)).bind ?_
  refine (reads_skip 34 b₂).bind (hkey.reads_skipText.bind ?_)
  refine (hcolon.reads_peekToken (by decide)).bind ?_
  exact (reads_skip 58 b₄).bind h

/-- What it means for a part to be passed over, with as many turns as it has bytes: what is done
behind it is done. -/
def Passes (bytes : List UInt8) (part : Part) (rest : List UInt8) : Prop :=
  ∀ stack last turns, (∀ fuel, turns ≤ fuel → Reads (behind true stack fuel) rest () last) →
    ∀ fuel, turns + bytes.length ≤ fuel + rest.length →
      match part with
      | .value _ => ∀ front, Blanks front bytes → Reads (skipValues stack fuel) front () last
      | .items first _ => Reads (behind (!first) (91 :: stack) fuel) bytes () last
      | .fields first _ => Reads (behind (!first) (123 :: stack) fuel) bytes () last

theorem Leaf.passes {b : UInt8} {more rest : List UInt8} (hleaf : Leaf b more rest)
    (hlt : rest.length < (b :: more).length) (j : Json) : Passes (b :: more) (.value j) rest := by
  intro stack last turns h fuel hfuel front hfront
  obtain ⟨fuel, rfl⟩ : ∃ k, fuel = k + 1 := ⟨fuel - 1, by omega⟩
  exact hleaf.reads hfront (h fuel (by omega))

theorem leaf_numeral {numeral : List UInt8} {c : UInt8} (h : Numeral numeral) (hc : EndsNumber c)
    (rest : List UInt8) :
    ∃ b more, numeral ++ c :: rest = b :: more ∧ Leaf b more (c :: rest) := by
  cases h with
  | negative h => exact ⟨45, _, rfl, .negative (reads_skipNumber hc rest h)⟩
  | unsigned h =>
    have hread := reads_skipNumber hc rest h
    obtain ⟨hw, hf, hx⟩ := h
    obtain ⟨d, ds, rfl, hd⟩ := hw.first
    exact ⟨d, _, rfl, .unsigned hd hread⟩

/-- Whatever is written is passed over. -/
theorem Writes.passes {bytes rest : List UInt8} {part : Part} (h : Writes bytes part rest) :
    Passes bytes part rest := by
  have hlt := h.length_lt
  induction h with
  | null rest => exact Leaf.null.passes hlt _
  | yes rest => exact Leaf.yes.passes hlt _
  | no rest => exact Leaf.no.passes hlt _
  | @int k c hc hlow hhigh rest =>
    obtain ⟨b, more, hbytes, hleaf⟩ := leaf_numeral (numeral_decimal k) hc rest
    rw [hbytes] at hlt ⊢
    exact hleaf.passes hlt _
  | @float numeral rest c x hnumeral hc hx =>
    obtain ⟨b, more, hbytes, hleaf⟩ := leaf_numeral hnumeral hc rest
    rw [hbytes] at hlt ⊢
    exact hleaf.passes hlt _
  | text h => exact (Leaf.text h.reads_skipText).passes hlt _
  | array h ih =>
    intro stack last turns hlast fuel hfuel front hfront
    have hinner := h.length_lt
    rw [List.length_cons] at hfuel
    obtain ⟨fuel, rfl⟩ : ∃ k, fuel = k + 1 := ⟨fuel - 1, by omega⟩
    exact reads_opened (Or.inl rfl) hfront (ih hinner stack last turns hlast fuel (by omega))
  | object h ih =>
    intro stack last turns hlast fuel hfuel front hfront
    have hinner := h.length_lt
    rw [List.length_cons] at hfuel
    obtain ⟨fuel, rfl⟩ : ∃ k, fuel = k + 1 := ⟨fuel - 1, by omega⟩
    exact reads_opened (Or.inr rfl) hfront (ih hinner stack last turns hlast fuel (by omega))
  | noItem h =>
    intro stack last turns hlast fuel hfuel
    exact reads_closed (by decide) h (hlast fuel (by omega))
  | noField h =>
    intro stack last turns hlast fuel hfuel
    exact reads_closed (by decide) h (hlast fuel (by omega))
  | @item bytes b₁ b₂ b₃ rest first j js hmark hblanks hj hjs ihj ihjs =>
    intro stack last turns hlast fuel hfuel
    have hlt₃ := hjs.length_lt
    have hlt₂ := hj.length_lt
    have hle₁ := hmark.length_le
    have hle₂ := hblanks.length_le
    rw [List.length_append] at hle₁
    obtain ⟨b, more, rfl, hspace, hend, -⟩ := hj.first
    refine reads_inside (by simp [closes, hend]) hspace hmark hblanks ?_
    intro front hfront
    rw [onward_list]
    refine ihj hlt₂ (91 :: stack) last (turns + b₃.length - rest.length) ?_ fuel (by omega) front
      hfront
    intro fuel' hfuel'
    exact ihjs hlt₃ stack last turns hlast fuel' (by omega)
  | @field bytes b₁ b₂ b₃ b₄ b₅ b₆ rest first key j fs hmark hquote hkey hcolon hblanks hj hfs
      ihj ihfs =>
    intro stack last turns hlast fuel hfuel
    have hlt₆ := hfs.length_lt
    have hlt₅ := hj.length_lt
    have hle₁ := hmark.length_le
    have hle₂ := hquote.length_le
    have hlt₃ := hkey.length_lt
    have hle₄ := hcolon.length_le
    have hle₅ := hblanks.length_le
    rw [List.length_append] at hle₁
    rw [List.length_cons] at hle₂ hle₄
    refine reads_inside (by decide) (by decide) hmark hquote ?_
    intro front hfront
    refine reads_key hfront hkey hcolon ?_
    refine ihj hlt₅ (123 :: stack) last (turns + b₆.length - rest.length) ?_ fuel (by omega) b₄
      hblanks
    intro fuel' hfuel'
    exact ihfs hlt₆ stack last turns hlast fuel' (by omega)

theorem Writes.reads_skipValue {bytes b rest : List UInt8} {j : Json} (hblanks : Blanks bytes b)
    (h : Writes b (.value j) rest) : Reads skipValue bytes () rest := by
  have hdone (fuel : Nat) : Reads (behind true [] fuel) rest () rest := reads_pure () rest
  have hle := hblanks.length_le
  refine (reads_remaining bytes).bind ?_
  exact h.passes [] rest 0 (fun fuel _ => hdone fuel) _ (by omega) bytes hblanks

end ServiceMesh.Json.Reader
