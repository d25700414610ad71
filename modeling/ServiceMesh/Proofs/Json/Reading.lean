-- What readers of JSON read from the front of their bytes: texts as they are
-- rendered, whole numbers, and the marks of an object between them.
import ServiceMesh.Json.Shape
import ServiceMesh.Proofs.Text.Utf8

namespace ServiceMesh.Json.Reader

variable {α β : Type}

/-! ## Reading from the front -/

/-- A reader reads a value from the front of some bytes, and leaves the rest. -/
def Reads (r : Reader α) (bytes : List UInt8) (x : α) (rest : List UInt8) : Prop :=
  ∀ offset, ∃ offset', r ⟨bytes, offset⟩ = .ok x ⟨rest, offset'⟩

variable {r : Reader α} {bytes mid rest : List UInt8} {x : α} {y : β}

theorem reads_pure (x : α) (bytes : List UInt8) : Reads (pure x) bytes x bytes :=
  fun offset => ⟨offset, rfl⟩

theorem Reads.bind {f : α → Reader β} (hr : Reads r bytes x mid) (hf : Reads (f x) mid y rest) :
    Reads (r >>= f) bytes y rest := by
  intro offset
  obtain ⟨offset₁, h₁⟩ := hr offset
  obtain ⟨offset₂, h₂⟩ := hf offset₁
  refine ⟨offset₂, ?_⟩
  change EStateM.bind r f ⟨bytes, offset⟩ = _
  unfold EStateM.bind
  rw [h₁]
  exact h₂

/-- From the same bytes a reader reads one value, and leaves one rest. -/
theorem Reads.unique {x' : α} {rest' : List UInt8} (h : Reads r bytes x rest)
    (h' : Reads r bytes x' rest') : x = x' ∧ rest = rest' := by
  obtain ⟨offset, hread⟩ := h 0
  obtain ⟨offset', hread'⟩ := h' 0
  rw [hread] at hread'
  cases hread'
  exact ⟨rfl, rfl⟩

theorem Reads.map (f : α → β) (hr : Reads r bytes x rest) : Reads (f <$> r) bytes (f x) rest := by
  intro offset
  obtain ⟨offset', h⟩ := hr offset
  refine ⟨offset', ?_⟩
  change EStateM.map f r ⟨bytes, offset⟩ = _
  unfold EStateM.map
  rw [h]

theorem Reads.within (step : Step) (hr : Reads r bytes x rest) :
    Reads (within step r) bytes x rest := by
  intro offset
  obtain ⟨offset', h⟩ := hr offset
  refine ⟨offset', ?_⟩
  unfold Reader.within
  rw [h]

theorem Reads.closing {close : Reader Unit} (hr : Reads r bytes x mid)
    (hclose : Reads close mid () rest) : Reads (closing r close) bytes x rest := by
  intro offset
  obtain ⟨offset₁, h₁⟩ := hr offset
  obtain ⟨offset₂, h₂⟩ := hclose offset₁
  refine ⟨offset₂, ?_⟩
  unfold Reader.closing
  rw [h₁]
  simp only [h₂]

theorem Reads.fromAll (hr : Reads r bytes x []) : fromAll r bytes = .ok x := by
  have hfinish : Reads finish [] () [] := fun offset => ⟨offset, rfl⟩
  have hboth : Reads (do let a ← r; finish; pure a) bytes x [] := by
    refine hr.bind ?_
    exact hfinish.bind (reads_pure x [])
  obtain ⟨offset, h⟩ := hboth 0
  unfold Reader.fromAll fromFront
  rw [h]

theorem reads_peek (b : UInt8) (bs : List UInt8) : Reads peek (b :: bs) (some b) (b :: bs) :=
  fun offset => ⟨offset, rfl⟩

theorem reads_next (b : UInt8) (bs : List UInt8) : Reads next (b :: bs) (some b) bs :=
  fun offset => ⟨offset + 1, rfl⟩

theorem reads_skip (b : UInt8) (bs : List UInt8) : Reads skip (b :: bs) () bs :=
  fun offset => ⟨offset + 1, rfl⟩

theorem reads_remaining (bytes : List UInt8) : Reads remaining bytes bytes.length bytes :=
  fun offset => ⟨offset, rfl⟩

/-- A run of bytes of a class ends where another byte stands. -/
theorem reads_takeWhile {p : UInt8 → Bool} {run : List UInt8} {b : UInt8} {bs : List UInt8}
    (hrun : ∀ c ∈ run, p c = true) (hb : p b = false) :
    Reads (takeWhile p) (run ++ b :: bs) run (b :: bs) := by
  intro offset
  refine ⟨offset + run.length, ?_⟩
  have htake : (run ++ b :: bs).takeWhile p = run := by
    rw [List.takeWhile_append_of_pos hrun, List.takeWhile_cons]
    simp [hb]
  have hdrop : (run ++ b :: bs).dropWhile p = b :: bs := by
    rw [List.dropWhile_append_of_pos hrun, List.dropWhile_cons]
    simp [hb]
  unfold takeWhile
  simp only [htake, hdrop]

theorem reads_skipWhile {p : UInt8 → Bool} {run : List UInt8} {b : UInt8} {bs : List UInt8}
    (hrun : ∀ c ∈ run, p c = true) (hb : p b = false) :
    Reads (skipWhile p) (run ++ b :: bs) () (b :: bs) := by
  intro offset
  have htake : Reads (takeWhile p) (run ++ b :: bs) run (b :: bs) := reads_takeWhile hrun hb
  obtain ⟨offset', h⟩ := htake offset
  refine ⟨offset', ?_⟩
  simp only [takeWhile, EStateM.Result.ok.injEq] at h
  simp only [skipWhile, h.2]

/-- No blank stands in front of a mark. -/
theorem reads_peekToken {b : UInt8} (h : isSpace b = false) (bs : List UInt8) :
    Reads peekToken (b :: bs) (some b) (b :: bs) := by
  have blanks : Reads (skipWhile isSpace) ([] ++ b :: bs) () (b :: bs) :=
    reads_skipWhile (by simp) h
  exact blanks.bind (reads_peek b bs)

theorem reads_token {b : UInt8} (h : isSpace b = false) (bs : List UInt8) :
    Reads token (b :: bs) b (b :: bs) :=
  (reads_peekToken h bs).bind (reads_pure b _)

/-! ## Texts -/

/-- Only the bytes of the parts count, not how they were cut. -/
theorem textTail_congr (fuel : Nat) {parts parts' : List (List UInt8)}
    (h : parts.reverse.flatten = parts'.reverse.flatten) :
    textTail parts fuel = textTail parts' fuel := by
  induction fuel generalizing parts parts' with
  | zero => rfl
  | succ fuel ih =>
    have one : ∀ run, (run :: parts).reverse.flatten = (run :: parts').reverse.flatten := by
      intro run
      simp only [List.reverse_cons, List.flatten_append, h]
    have two : ∀ bs run,
        textTail (bs :: run :: parts) fuel = textTail (bs :: run :: parts') fuel := by
      intro bs run
      refine ih ?_
      rw [List.reverse_cons, List.flatten_append, one run]
      simp
    unfold textTail
    simp only [one, two]

/-- A byte that stands for itself may as well have been read before. -/
theorem textTail_plain {b : UInt8} (hb : isPlain b = true) (parts : List (List UInt8)) (fuel : Nat)
    (bs : List UInt8) (offset : Nat) :
    textTail parts (fuel + 1) ⟨b :: bs, offset⟩ =
      textTail ([b] :: parts) (fuel + 1) ⟨bs, offset + 1⟩ := by
  have two : ∀ more run, textTail (more :: (b :: run) :: parts) fuel =
      textTail (more :: run :: [b] :: parts) fuel := by
    intro more run
    refine textTail_congr fuel ?_
    simp
  have one : ∀ run : List UInt8, ((b :: run) :: parts).reverse.flatten =
      (run :: [b] :: parts).reverse.flatten := by
    intro run
    simp
  have moved : offset + ((bs.takeWhile isPlain).length + 1) =
      offset + 1 + (bs.takeWhile isPlain).length := by omega
  unfold textTail
  change EStateM.bind (takeWhile isPlain) _ _ = EStateM.bind (takeWhile isPlain) _ _
  unfold EStateM.bind takeWhile
  simp only [List.takeWhile_cons, List.dropWhile_cons, hb, if_true, one, two, List.length_cons,
    moved]

/-- How a character stands in a text that is rendered: for itself, behind a backslash, or by its
number. -/
inductive Escape (c : Char) : List UInt8 → Prop where
  | plain (h : ∀ b ∈ String.utf8EncodeChar c, isPlain b = true) :
    Escape c (String.utf8EncodeChar c)
  | short (e byte : UInt8) (he : e ≠ 117) (h : shortEscape? e = some byte)
      (hc : String.utf8EncodeChar c = [byte]) : Escape c [92, e]
  | hex (d₁ d₂ : UInt8) (v₁ v₂ : Nat) (h₁ : hexValue? d₁ = some v₁) (h₂ : hexValue? d₂ = some v₂)
      (hc : c.toNat = v₁ * 16 + v₂) (hlt : c.toNat < 32) : Escape c [92, 117, 48, 48, d₁, d₂]

theorem hexDigit_spec : ∀ d < 16, (hexDigit d).toNat < 128 ∧
    hexValue? (hexDigit d).toNat.toUInt8 = some d := by decide

theorem isPlain_of_ascii : ∀ n < 128, 32 ≤ n → n ≠ 34 → n ≠ 92 → isPlain n.toUInt8 = true := by
  decide

theorem toNat_ne {c d : Char} (h : c ≠ d) : c.toNat ≠ d.toNat := by
  intro hn
  exact h (by rw [← Char.ofNat_toNat c, hn, Char.ofNat_toNat])

theorem escape_spec (c : Char) : Escape c (Text.utf8 (escapeChar c)) := by
  unfold escapeChar
  split
  · rename_i h
    subst h
    exact .short 34 34 (by decide) rfl (by decide)
  split
  · rename_i h
    subst h
    exact .short 92 92 (by decide) rfl (by decide)
  split
  · rename_i h
    subst h
    exact .short 110 10 (by decide) rfl (by decide)
  split
  · rename_i h
    subst h
    exact .short 114 13 (by decide) rfl (by decide)
  split
  · rename_i h
    subst h
    exact .short 116 9 (by decide) rfl (by decide)
  split
  · rename_i h
    have hc : c = Char.ofNat 8 := by rw [← h, Char.ofNat_toNat]
    subst hc
    exact .short 98 8 (by decide) rfl (by decide)
  split
  · rename_i h
    have hc : c = Char.ofNat 12 := by rw [← h, Char.ofNat_toNat]
    subst hc
    exact .short 102 12 (by decide) rfl (by decide)
  split
  · rename_i h
    obtain ⟨hlt₁, hv₁⟩ := hexDigit_spec (c.toNat / 16) (by omega)
    obtain ⟨hlt₂, hv₂⟩ := hexDigit_spec (c.toNat % 16) (by omega)
    have hbytes :
        Text.utf8 ['\\', 'u', '0', '0', hexDigit (c.toNat / 16), hexDigit (c.toNat % 16)] =
          [92, 117, 48, 48, (hexDigit (c.toNat / 16)).toNat.toUInt8,
            (hexDigit (c.toNat % 16)).toNat.toUInt8] := by
      simp only [Text.utf8_cons, Text.utf8EncodeChar_ascii hlt₁, Text.utf8EncodeChar_ascii hlt₂]
      rfl
    rw [hbytes]
    exact .hex _ _ _ _ hv₁ hv₂ (by omega) h
  · rename_i hquote hback _ _ _ _ _ hctl
    have hone : Text.utf8 [c] = String.utf8EncodeChar c := by simp [Text.utf8_cons]
    rw [hone]
    refine .plain ?_
    intro b hb
    by_cases hascii : c.toNat < 128
    · rw [Text.utf8EncodeChar_ascii hascii, List.mem_singleton] at hb
      rw [hb]
      exact isPlain_of_ascii _ hascii (by omega) (toNat_ne hquote) (toNat_ne hback)
    · have hbig := Text.le_of_mem_utf8EncodeChar (by omega) b hb
      have hnat : 128 ≤ b.toNat := UInt8.le_iff_toNat_le.mp hbig
      unfold isPlain
      simp only [Bool.and_eq_true, decide_eq_true_eq]
      refine ⟨⟨?_, ?_⟩, ?_⟩
      · rw [UInt8.le_iff_toNat_le]
        exact Nat.le_trans (by decide) hnat
      · intro heq
        rw [heq] at hnat
        exact absurd hnat (by decide)
      · intro heq
        rw [heq] at hnat
        exact absurd hnat (by decide)

theorem reads_hexEscape {d₁ d₂ : UInt8} {v₁ v₂ : Nat} (h₁ : hexValue? d₁ = some v₁)
    (h₂ : hexValue? d₂ = some v₂) (bs : List UInt8) :
    Reads hexEscape (48 :: 48 :: d₁ :: d₂ :: bs) (v₁ * 16 + v₂) bs := by
  intro offset
  refine ⟨offset + 4, ?_⟩
  have zero : hexValue? 48 = some 0 := by decide
  simp only [hexEscape, zero, h₁, h₂, Nat.zero_mul, Nat.zero_add]

theorem reads_plain_run {run : List UInt8} (h : ∀ b ∈ run, isPlain b = true)
    {parts : List (List UInt8)} {fuel : Nat} {bs rest : List UInt8} {s : String}
    (hr : Reads (textTail (run :: parts) (fuel + 1)) bs s rest) :
    Reads (textTail parts (fuel + 1)) (run ++ bs) s rest := by
  induction run generalizing parts with
  | nil =>
    have same : textTail parts (fuel + 1) = textTail ([] :: parts) (fuel + 1) :=
      textTail_congr _ (by simp)
    rw [same]
    exact hr
  | cons b run ih =>
    have same : textTail (run :: [b] :: parts) (fuel + 1) =
        textTail ((b :: run) :: parts) (fuel + 1) := textTail_congr _ (by simp)
    intro offset
    rw [List.cons_append, textTail_plain (h b List.mem_cons_self)]
    refine ih (fun c hc => h c (List.mem_cons_of_mem b hc)) ?_ (offset + 1)
    rw [same]
    exact hr

theorem reads_quote {parts : List (List UInt8)} {s : String}
    (h : textOfBytes? parts.reverse.flatten = some s) (fuel : Nat) (rest : List UInt8) :
    Reads (textTail parts (fuel + 1)) (34 :: rest) s rest := by
  have hrun : Reads (takeWhile isPlain) ([] ++ 34 :: rest) [] (34 :: rest) :=
    reads_takeWhile (by simp) (by decide)
  have same : (([] : List UInt8) :: parts).reverse.flatten = parts.reverse.flatten := by simp
  unfold textTail
  refine hrun.bind ((reads_peek 34 rest).bind ?_)
  simp only [if_true, same, h]
  exact (reads_skip 34 rest).bind (reads_pure s rest)

/-- A backslash ends a run of plain bytes. -/
theorem reads_backslash {parts : List (List UInt8)} {fuel : Nat} {e : UInt8}
    {bs rest : List UInt8} {s : String}
    (h : Reads (if e = 117 then do
        let bytes ← unicodeEscape
        textTail (bytes :: [] :: parts) fuel
      else
        match shortEscape? e with
        | some byte => textTail ([byte] :: [] :: parts) fuel
        | none => fail .invalidEscape) bs s rest) :
    Reads (textTail parts (fuel + 1)) (92 :: e :: bs) s rest := by
  have hrun : Reads (takeWhile isPlain) ([] ++ 92 :: e :: bs) [] (92 :: e :: bs) :=
    reads_takeWhile (by simp) (by decide)
  unfold textTail
  refine hrun.bind ((reads_peek 92 (e :: bs)).bind ?_)
  simp only [show ¬ ((92 : UInt8) = 34) by decide, if_false, if_true]
  exact (reads_skip 92 (e :: bs)).bind ((reads_next e bs).bind h)

theorem utf8_control {c : Char} {n : Nat} (hc : c.toNat = n) :
    utf8 n = String.utf8EncodeChar c := by
  unfold utf8
  rw [← hc, Char.ofNat_toNat, Text.bytes_toUTF8]
  simp [Text.utf8_cons]

/-- A character that is rendered is read as its bytes. It takes one turn at most. -/
theorem reads_escape {c : Char} {parts : List (List UInt8)} {n : Nat} {bs rest : List UInt8}
    {s : String}
    (h : ∀ fuel, n ≤ fuel →
      Reads (textTail (String.utf8EncodeChar c :: parts) (fuel + 1)) bs s rest)
    {fuel : Nat} (hn : n + 1 ≤ fuel) :
    Reads (textTail parts (fuel + 1)) (Text.utf8 (escapeChar c) ++ bs) s rest := by
  obtain ⟨fuel, rfl⟩ : ∃ k, fuel = k + 1 := ⟨fuel - 1, by omega⟩
  have same : textTail (String.utf8EncodeChar c :: [] :: parts) (fuel + 1) =
      textTail (String.utf8EncodeChar c :: parts) (fuel + 1) := textTail_congr _ (by simp)
  have hescape := escape_spec c
  generalize Text.utf8 (escapeChar c) = bytes at hescape
  cases hescape with
  | plain hplain => exact reads_plain_run hplain (h _ (by omega))
  | short e byte he hshort hc =>
    refine reads_backslash ?_
    rw [if_neg he, hshort]
    simp only
    rw [← hc, same]
    exact h fuel (by omega)
  | hex d₁ d₂ v₁ v₂ h₁ h₂ hc hlt =>
    refine reads_backslash ?_
    rw [if_pos rfl]
    have hlow : ¬ (decide (0xDC00 ≤ v₁ * 16 + v₂) && decide (v₁ * 16 + v₂ ≤ 0xDFFF)) = true := by
      simp only [Bool.and_eq_true, decide_eq_true_eq]
      omega
    have hfirst : (decide (v₁ * 16 + v₂ < 0xD800) || decide (0xDBFF < v₁ * 16 + v₂)) = true := by
      simp only [Bool.or_eq_true, decide_eq_true_eq]
      omega
    have hunicode : Reads unicodeEscape (48 :: 48 :: d₁ :: d₂ :: bs)
        (String.utf8EncodeChar c) bs := by
      unfold unicodeEscape
      refine (reads_hexEscape h₁ h₂ bs).bind ?_
      rw [if_neg hlow, if_pos hfirst, utf8_control hc]
      exact reads_pure _ bs
    refine hunicode.bind ?_
    rw [same]
    exact h fuel (by omega)

/-- The characters of a text as they are rendered, behind the opening quote. -/
def escaped (s : String) : List UInt8 := Text.utf8 (s.toList.flatMap escapeChar)

theorem reads_escaped {cs : List Char} {parts : List (List UInt8)} {s : String}
    (h : textOfBytes? (parts.reverse.flatten ++ Text.utf8 cs) = some s) (rest : List UInt8)
    {fuel : Nat} (hfuel : cs.length ≤ fuel) :
    Reads (textTail parts (fuel + 1)) (Text.utf8 (cs.flatMap escapeChar) ++ 34 :: rest) s rest := by
  induction cs generalizing parts fuel with
  | nil =>
    rw [Text.utf8_nil, List.append_nil] at h
    exact reads_quote h fuel rest
  | cons c cs ih =>
    rw [List.flatMap_cons, Text.utf8_append, List.append_assoc]
    refine reads_escape ?_ hfuel
    intro fuel' hfuel'
    refine ih ?_ hfuel'
    rw [← h, Text.utf8_cons]
    simp

theorem length_le_utf8 (cs : List Char) : cs.length ≤ (Text.utf8 cs).length := by
  induction cs with
  | nil => exact Nat.le_refl _
  | cons c cs ih =>
    have hc : 0 < (String.utf8EncodeChar c).length :=
      List.length_pos_iff.mpr String.utf8EncodeChar_ne_nil
    rw [Text.utf8_cons, List.length_append, List.length_cons]
    omega

theorem length_le_escaped (s : String) : s.toList.length ≤ (escaped s).length := by
  refine Nat.le_trans ?_ (length_le_utf8 _)
  induction s.toList with
  | nil => exact Nat.le_refl _
  | cons c cs ih =>
    have hc : 0 < (escapeChar c).length := by
      unfold escapeChar
      repeat' split
      all_goals simp
    rw [List.flatMap_cons, List.length_append, List.length_cons]
    omega

/-- A text is read as it was rendered. -/
theorem reads_textBody (s : String) (rest : List UInt8) :
    Reads textBody (escaped s ++ 34 :: rest) s rest := by
  have htext : textOfBytes? (([] : List (List UInt8)).reverse.flatten ++ Text.utf8 s.toList) =
      some s := by
    change textOfBytes? (Text.utf8 s.toList) = some s
    rw [Text.textOfBytes_utf8, String.ofList_toList]
  have hlength : s.toList.length ≤ (escaped s ++ 34 :: rest).length := by
    have := length_le_escaped s
    rw [List.length_append]
    omega
  exact (reads_remaining _).bind (reads_escaped htext rest hlength)

/-! ## Texts passed over -/

theorem skipTextTail_plain {b : UInt8} (hb : isPlain b = true) (fuel : Nat) (bs : List UInt8)
    (offset : Nat) :
    skipTextTail (fuel + 1) ⟨b :: bs, offset⟩ = skipTextTail (fuel + 1) ⟨bs, offset + 1⟩ := by
  have moved : offset + ((bs.takeWhile isPlain).length + 1) =
      offset + 1 + (bs.takeWhile isPlain).length := by omega
  unfold skipTextTail
  change EStateM.bind (skipWhile isPlain) _ _ = EStateM.bind (skipWhile isPlain) _ _
  unfold EStateM.bind skipWhile
  simp only [List.takeWhile_cons, List.dropWhile_cons, hb, if_true, List.length_cons, moved]

theorem skips_plain_run {run : List UInt8} (h : ∀ b ∈ run, isPlain b = true) {fuel : Nat}
    {bs rest : List UInt8} (hr : Reads (skipTextTail (fuel + 1)) bs () rest) :
    Reads (skipTextTail (fuel + 1)) (run ++ bs) () rest := by
  induction run with
  | nil => exact hr
  | cons b run ih =>
    intro offset
    rw [List.cons_append, skipTextTail_plain (h b List.mem_cons_self)]
    exact ih (fun c hc => h c (List.mem_cons_of_mem b hc)) (offset + 1)

theorem skips_quote (fuel : Nat) (rest : List UInt8) :
    Reads (skipTextTail (fuel + 1)) (34 :: rest) () rest := by
  have hrun : Reads (skipWhile isPlain) ([] ++ 34 :: rest) () (34 :: rest) :=
    reads_skipWhile (by simp) (by decide)
  unfold skipTextTail
  refine hrun.bind ((reads_peek 34 rest).bind ?_)
  simp only [if_true]
  exact reads_skip 34 rest

theorem skips_backslash {fuel : Nat} {e : UInt8} {bs rest : List UInt8}
    (h : Reads (if e = 117 then do
        let _ ← hexEscape
        skipTextTail fuel
      else if (shortEscape? e).isSome then skipTextTail fuel
      else fail .invalidEscape) bs () rest) :
    Reads (skipTextTail (fuel + 1)) (92 :: e :: bs) () rest := by
  have hrun : Reads (skipWhile isPlain) ([] ++ 92 :: e :: bs) () (92 :: e :: bs) :=
    reads_skipWhile (by simp) (by decide)
  unfold skipTextTail
  refine hrun.bind ((reads_peek 92 (e :: bs)).bind ?_)
  simp only [show ¬ ((92 : UInt8) = 34) by decide, if_false, if_true]
  exact (reads_skip 92 (e :: bs)).bind ((reads_next e bs).bind h)

theorem skips_escape {c : Char} {n : Nat} {bs rest : List UInt8}
    (h : ∀ fuel, n ≤ fuel → Reads (skipTextTail (fuel + 1)) bs () rest) {fuel : Nat}
    (hn : n + 1 ≤ fuel) :
    Reads (skipTextTail (fuel + 1)) (Text.utf8 (escapeChar c) ++ bs) () rest := by
  obtain ⟨fuel, rfl⟩ : ∃ k, fuel = k + 1 := ⟨fuel - 1, by omega⟩
  have hescape := escape_spec c
  generalize Text.utf8 (escapeChar c) = bytes at hescape
  cases hescape with
  | plain hplain => exact skips_plain_run hplain (h _ (by omega))
  | short e byte he hshort hc =>
    refine skips_backslash ?_
    rw [if_neg he, hshort, if_pos (by rfl)]
    exact h fuel (by omega)
  | hex d₁ d₂ v₁ v₂ h₁ h₂ hc hlt =>
    refine skips_backslash ?_
    rw [if_pos rfl]
    exact (reads_hexEscape h₁ h₂ bs).bind (h fuel (by omega))

theorem skips_escaped (cs : List Char) (rest : List UInt8) {fuel : Nat} (hfuel : cs.length ≤ fuel) :
    Reads (skipTextTail (fuel + 1)) (Text.utf8 (cs.flatMap escapeChar) ++ 34 :: rest) () rest := by
  induction cs generalizing fuel with
  | nil => exact skips_quote fuel rest
  | cons c cs ih =>
    rw [List.flatMap_cons, Text.utf8_append, List.append_assoc]
    exact skips_escape (fun fuel' hfuel' => ih hfuel') hfuel

theorem reads_skipText (s : String) (rest : List UInt8) :
    Reads skipText (escaped s ++ 34 :: rest) () rest := by
  have hlength : s.toList.length ≤ (escaped s ++ 34 :: rest).length := by
    have := length_le_escaped s
    rw [List.length_append]
    omega
  exact (reads_remaining _).bind (skips_escaped s.toList rest hlength)

theorem reads_closeValues (bytes : List UInt8) (fuel : Nat) :
    Reads (closeValues true [] fuel) bytes [] bytes := by
  cases fuel with
  | zero => exact reads_pure [] bytes
  | succ fuel => exact reads_pure [] bytes

/-- A text is passed over as a whole value. -/
theorem reads_skipValue (s : String) (rest : List UInt8) :
    Reads skipValue (34 :: escaped s ++ 34 :: rest) () rest := by
  unfold skipValue
  refine (reads_remaining _).bind ?_
  unfold skipValues
  refine (reads_peekToken (by decide) _).bind ?_
  refine (reads_skip 34 _).bind ((reads_skipText s rest).bind ?_)
  refine (reads_pure false rest).bind ((reads_remaining rest).bind ?_)
  exact (reads_closeValues rest _).bind (reads_pure () rest)

end ServiceMesh.Json.Reader
