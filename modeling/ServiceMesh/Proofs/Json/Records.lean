-- Records read back from their compact text: whole numbers digit by digit,
-- and the fields of an object one after the other, unknown ones passed over.
import ServiceMesh.Proofs.Json.Reading

namespace ServiceMesh.Json.Reader

/-! ## Whole numbers -/

/-- The digits of a number. -/
def digits (n : Nat) : List UInt8 := Text.utf8 (Nat.toDigits 10 n)

theorem utf8_digitChar : ∀ d < 10, Text.utf8 [Nat.digitChar d] = [(48 + d).toUInt8] := by
  decide

theorem digit_spec : ∀ d < 10, isDigit (48 + d).toUInt8 = true ∧
    ((48 + d).toUInt8.toNat - 48 = d) ∧ ((48 + d).toUInt8 = 48 → d = 0) := by
  decide

theorem digits_of_lt {n : Nat} (h : n < 10) : digits n = [(48 + n).toUInt8] := by
  unfold digits
  rw [Nat.toDigits_of_lt_base h, utf8_digitChar n h]

/-- The last digit comes off the end. -/
theorem digits_of_le {n : Nat} (h : 10 ≤ n) :
    digits n = digits (n / 10) ++ [(48 + n % 10).toUInt8] := by
  unfold digits
  rw [Nat.toDigits_of_base_le (by decide) h, Text.utf8_append,
    utf8_digitChar _ (Nat.mod_lt n (by decide))]

theorem isDigit_of_mem_digits (n : Nat) : ∀ b ∈ digits n, isDigit b = true := by
  induction n using Nat.strongRecOn with
  | ind n ih =>
    intro b hb
    by_cases h : n < 10
    · rw [digits_of_lt h, List.mem_singleton] at hb
      rw [hb]
      exact (digit_spec n h).1
    · rw [digits_of_le (by omega), List.mem_append, List.mem_singleton] at hb
      rcases hb with hb | rfl
      · exact ih (n / 10) (by omega) b hb
      · exact (digit_spec _ (Nat.mod_lt n (by decide))).1

/-- Only zero begins with a zero. -/
theorem digits_head {n : Nat} (h : 0 < n) : ∃ b bs, digits n = b :: bs ∧ b ≠ 48 := by
  induction n using Nat.strongRecOn with
  | ind n ih =>
    by_cases hn : n < 10
    · refine ⟨_, [], digits_of_lt hn, ?_⟩
      intro hzero
      have := (digit_spec n hn).2.2 hzero
      omega
    · obtain ⟨b, bs, hbs, hb⟩ := ih (n / 10) (by omega) (by omega)
      refine ⟨b, bs ++ [(48 + n % 10).toUInt8], ?_, hb⟩
      rw [digits_of_le (by omega), hbs, List.cons_append]

theorem digitsInto_append {m count m' count' : Nat} {bs : List UInt8}
    (h : digitsInto m count bs = (m', count', false)) (more : List UInt8) :
    digitsInto m count (bs ++ more) = digitsInto m' count' more := by
  induction bs generalizing m count with
  | nil =>
    simp only [digitsInto, Prod.mk.injEq] at h
    obtain ⟨rfl, rfl, -⟩ := h
    rfl
  | cons b bs ih =>
    simp only [digitsInto] at h
    rw [List.cons_append]
    simp only [digitsInto]
    split at h
    · rename_i hfits
      rw [if_pos hfits]
      exact ih h
    · simp at h

/-- The digits of a number of 64 bits make that number. -/
theorem digitsInto_digits {n : Nat} (h : n < UInt64.size) :
    digitsInto 0 0 (digits n) = (n, (digits n).length, false) := by
  induction n using Nat.strongRecOn with
  | ind n ih =>
    by_cases hn : n < 10
    · have hval := (digit_spec n hn).2.1
      rw [digits_of_lt hn]
      simp only [digitsInto, hval, Nat.zero_mul, Nat.zero_add, if_pos h, List.length_singleton]
    · have hfront := ih (n / 10) (by omega) (by omega)
      have hval := (digit_spec (n % 10) (Nat.mod_lt n (by decide))).2.1
      have hwhole : n / 10 * 10 + n % 10 = n := by omega
      rw [digits_of_le (by omega), digitsInto_append hfront]
      simp only [digitsInto, hval, hwhole, if_pos h, List.length_append, List.length_singleton]

/-- A byte that ends a number: no digit, no point, and no exponent. -/
def EndsNumber (c : UInt8) : Prop := isDigit c = false ∧ c ≠ 46 ∧ c ≠ 101 ∧ c ≠ 69

instance (c : UInt8) : Decidable (EndsNumber c) := by
  unfold EndsNumber
  infer_instance

variable {α : Type} {c : UInt8}

/-- What a whole number is behind its sign. -/
def signed (positive : Bool) (n : Nat) : Json := if positive then .int n else .int (-n)

/-- What the reader makes of digits that fit, in front of a byte that ends the number. -/
theorem reads_numberEnd (hc : EndsNumber c) {positive : Bool} {ds : List UInt8} {n count : Nat}
    (hds : digitsInto 0 0 ds = (n, count, false))
    (hn : positive = false → 0 < n ∧ n ≤ 1 <<< 63) (rest : List UInt8) :
    Reads (let (n, count, long) := digitsInto 0 0 ds
      let exponent : Int := ds.length - count
      do
        match ← peek with
        | some 46 => .float <$> fractionPart positive n exponent
        | some 101 | some 69 => .float <$> exponentPart positive n exponent
        | _ =>
          if long then .float <$> floatOf positive n exponent
          else if positive then pure (.int n)
          else if n = 0 || 1 <<< 63 < n then pure (.float (-n.toUInt64.toFloat))
          else pure (.int (-n))) (c :: rest) (signed positive n) (c :: rest) := by
  rw [hds]
  refine (reads_peek c rest).bind ?_
  split
  · rename_i h
    exact absurd (Option.some.inj h) hc.2.1
  · rename_i h
    exact absurd (Option.some.inj h) hc.2.2.1
  · rename_i h
    exact absurd (Option.some.inj h) hc.2.2.2
  · cases positive with
    | true => exact reads_pure _ _
    | false =>
      obtain ⟨hpos, hle⟩ := hn rfl
      have hword : ¬ (decide (n = 0) || decide (1 <<< 63 < n)) = true := by
        simp only [Bool.or_eq_true, decide_eq_true_eq]
        omega
      simp only [hword]
      exact reads_pure _ _

/-- Digits are read as the number that they make, up to a byte that ends it. -/
theorem reads_numberTail (hc : EndsNumber c) {positive : Bool} {n : Nat} (hlt : n < UInt64.size)
    (hn : positive = false → 0 < n ∧ n ≤ 1 <<< 63) (rest : List UInt8) :
    Reads (numberTail positive) (digits n ++ c :: rest) (signed positive n) (c :: rest) := by
  unfold numberTail
  by_cases hzero : n = 0
  · subst hzero
    have hone : digitsInto 0 0 [48] = (0, 1, false) := by decide
    rw [digits_of_lt (by decide : 0 < 10)]
    refine (reads_peek 48 _).bind ((reads_skip 48 _).bind ((reads_peek c rest).bind ?_))
    simp only [hc.1]
    exact (reads_pure [48] _).bind (reads_numberEnd hc hone hn rest)
  · obtain ⟨b, bs, hbs, hb⟩ := digits_head (Nat.pos_of_ne_zero hzero)
    have hdigit : isDigit b = true := isDigit_of_mem_digits n b (by rw [hbs]; simp)
    have hrun : Reads (takeWhile isDigit) (digits n ++ c :: rest) (digits n) (c :: rest) :=
      reads_takeWhile (isDigit_of_mem_digits n) hc.1
    have hvalue := digitsInto_digits hlt
    rw [hbs] at hrun hvalue ⊢
    refine (reads_peek b _).bind ?_
    simp only [hdigit, Bool.not_true, Bool.false_eq_true, if_neg hb, if_false]
    exact hrun.bind (reads_numberEnd hc hvalue hn rest)

/-- A whole number in words: its digits, behind a minus if there is one. -/
def decimal : Int → List UInt8
  | .ofNat n => digits n
  | .negSucc n => 45 :: digits (n + 1)

theorem digits_cons (n : Nat) : ∃ b bs, digits n = b :: bs ∧ isDigit b = true := by
  have hall := isDigit_of_mem_digits n
  cases hds : digits n with
  | nil =>
    have hempty : Nat.toDigits 10 n = [] := by
      cases hcs : Nat.toDigits 10 n with
      | nil => rfl
      | cons d cs =>
        unfold digits at hds
        rw [hcs, Text.utf8_cons, List.append_eq_nil_iff] at hds
        exact absurd hds.1 String.utf8EncodeChar_ne_nil
    exact absurd hempty Nat.toDigits_ne_nil
  | cons b bs =>
    rw [hds] at hall
    exact ⟨b, bs, rfl, hall b List.mem_cons_self⟩

/-- A number begins with a digit or a minus. -/
theorem decimal_cons (k : Int) : ∃ b bs, decimal k = b :: bs ∧ (b = 45 ∨ isDigit b = true) := by
  cases k with
  | ofNat n =>
    obtain ⟨b, bs, hbs, hb⟩ := digits_cons n
    exact ⟨b, bs, hbs, Or.inr hb⟩
  | negSucc n => exact ⟨45, digits (n + 1), rfl, Or.inl rfl⟩

theorem reads_number (hc : EndsNumber c) {k : Int} (hlow : -(1 <<< 63 : Nat) ≤ k)
    (hhigh : k < UInt64.size) (rest : List UInt8) :
    Reads number (decimal k ++ c :: rest) (.int k) (c :: rest) := by
  have hsize : UInt64.size = 18446744073709551616 := rfl
  unfold number
  cases k with
  | ofNat n =>
    have hlt : n < UInt64.size := Int.ofNat_lt.mp hhigh
    have htail : Reads (numberTail true) (digits n ++ c :: rest) (.int n) (c :: rest) :=
      reads_numberTail hc hlt (by simp) rest
    obtain ⟨b, bs, hbs, hb⟩ := digits_cons n
    have hminus : b ≠ 45 := by
      rintro rfl
      exact absurd hb (by decide)
    change Reads _ (digits n ++ c :: rest) _ _
    rw [hbs] at htail ⊢
    refine (reads_peek b _).bind ?_
    split
    · rename_i h
      exact absurd (Option.some.inj h) hminus
    · exact htail
  | negSucc n =>
    refine (reads_peek 45 _).bind ((reads_skip 45 _).bind ?_)
    exact reads_numberTail hc (by omega) (fun _ => ⟨by omega, by omega⟩) rest

theorem isSpace_of_first {b : UInt8} (h : b = 45 ∨ isDigit b = true) : isSpace b = false := by
  rcases h with rfl | h
  · decide
  · have hne : ∀ blank, isDigit blank = false → b ≠ blank := by
      rintro blank hblank rfl
      rw [h] at hblank
      cases hblank
    unfold isSpace
    simp only [hne 32 (by decide), hne 10 (by decide), hne 13 (by decide), hne 9 (by decide),
      decide_false, Bool.or_self]

theorem first_of {b : UInt8} (h : b = 45 ∨ isDigit b = true) :
    (decide (b = 45) || isDigit b) = true := by
  rw [Bool.or_eq_true, decide_eq_true_eq]
  exact h

theorem reads_integer (hc : EndsNumber c) {range : Text.IntegerRange} {k : Int}
    (hk : range.contains k = true) (hlow : -(1 <<< 63 : Nat) ≤ k) (hhigh : k < UInt64.size)
    (expected : String) (rest : List UInt8) :
    Reads (integer range expected) (decimal k ++ c :: rest) k (c :: rest) := by
  have hnumber := reads_number hc hlow hhigh rest
  obtain ⟨b, bs, hbs, hb⟩ := decimal_cons k
  unfold integer
  rw [hbs] at hnumber ⊢
  refine (reads_token (isSpace_of_first hb) _).bind ?_
  rw [if_pos (first_of hb)]
  refine hnumber.bind ?_
  simp only [hk, if_true]
  exact reads_pure k _

/-! ## Fields -/

/-- A text with its quotes. -/
def quoted (s : String) : List UInt8 := 34 :: (escaped s ++ [34])

theorem quoted_append (s : String) (rest : List UInt8) :
    quoted s ++ rest = 34 :: (escaped s ++ 34 :: rest) := by
  unfold quoted
  simp

theorem reads_text (s expected : String) (rest : List UInt8) :
    Reads (text expected) (quoted s ++ rest) s rest := by
  rw [quoted_append]
  unfold text
  refine (reads_token (by decide) _).bind ?_
  rw [if_pos rfl]
  exact (reads_skip 34 _).bind (reads_textBody s rest)

/-- Different texts are quoted differently, whatever follows. -/
theorem quoted_inj {s t : String} {rest rest' : List UInt8}
    (h : quoted s ++ rest = quoted t ++ rest') : s = t ∧ rest = rest' := by
  have hs := reads_text s "" rest
  rw [h] at hs
  exact hs.unique (reads_text t "" rest')

/-- A reader reads a value from some bytes wherever they stand in an object. -/
def ReadsValue (r : Reader α) (bytes : List UInt8) (x : α) : Prop :=
  ∀ c rest, c = 44 ∨ c = 125 → Reads r (bytes ++ c :: rest) x (c :: rest)

/-- The mark in front of a field. -/
def mark (first : Bool) : List UInt8 := if first then [] else [44]

/-- The fields of an object, each with the bytes of its value. -/
def entries (first : Bool) : List (String × List UInt8) → List UInt8
  | [] => []
  | (key, bytes) :: more => mark first ++ quoted key ++ 58 :: (bytes ++ entries false more)

theorem reads_nextKey_end (first : Bool) (rest : List UInt8) :
    Reads (nextKey first) (125 :: rest) false (125 :: rest) := by
  unfold nextKey
  exact (reads_peekToken (by decide) _).bind (reads_pure false _)

theorem reads_nextKey (first : Bool) (bs : List UInt8) :
    Reads (nextKey first) (mark first ++ 34 :: bs) true (34 :: bs) := by
  unfold nextKey
  cases first with
  | true => exact (reads_peekToken (by decide) _).bind (reads_pure true _)
  | false =>
    refine (reads_peekToken (by decide) _).bind ((reads_skip 44 _).bind ?_)
    exact (reads_peekToken (by decide) _).bind (reads_pure true _)

theorem reads_colon (bs : List UInt8) : Reads colon (58 :: bs) () bs := by
  unfold colon
  exact (reads_peekToken (by decide) _).bind (reads_skip 58 bs)

theorem reads_objectEnd (rest : List UInt8) : Reads objectEnd (125 :: rest) () rest := by
  unfold objectEnd
  exact (reads_peekToken (by decide) _).bind (reads_skip 125 rest)

/-- Behind a value stands the mark of the next field, or the end. -/
theorem entries_next (more : List (String × List UInt8)) (rest : List UInt8) :
    ∃ c bs, entries false more ++ 125 :: rest = c :: bs ∧ (c = 44 ∨ c = 125) := by
  cases more with
  | nil => exact ⟨125, rest, rfl, Or.inr rfl⟩
  | cons e more =>
    obtain ⟨key, bytes⟩ := e
    exact ⟨44, _, rfl, Or.inl rfl⟩

/-- Entries of an object fill the fields of a record: what was seen before them and what is
seen after. -/
inductive Fills (fields : List Field) :
    List (String × Json) → List (String × List UInt8) → List (String × Json) → Prop
  | nil {seen : List (String × Json)} : Fills fields seen [] seen
  | known {seen found : List (String × Json)} {more : List (String × List UInt8)} {key : String}
      {bytes : List UInt8} {field : Field} {x : Json}
      (hfield : fields.find? (·.name == key) = some field) (hnew : seen.any (·.1 == key) = false)
      (hread : ReadsValue field.read bytes x) (hmore : Fills fields ((key, x) :: seen) more found) :
      Fills fields seen ((key, bytes) :: more) found
  | unknown {seen found : List (String × Json)} {more : List (String × List UInt8)} {key : String}
      {bytes : List UInt8} (hfield : fields.find? (·.name == key) = none)
      (hread : ReadsValue skipValue bytes ()) (hmore : Fills fields seen more found) :
      Fills fields seen ((key, bytes) :: more) found

/-- The entries are read field by field. -/
theorem reads_recordTail {fields : List Field} {seen found : List (String × Json)}
    {es : List (String × List UInt8)} (h : Fills fields seen es found) (first : Bool)
    (rest : List UInt8) {fuel : Nat} (hfuel : es.length ≤ fuel) :
    Reads (recordTail fields first seen (fuel + 1)) (entries first es ++ 125 :: rest) found
      (125 :: rest) := by
  induction h generalizing first fuel with
  | nil =>
    unfold recordTail
    exact (reads_nextKey_end first rest).bind (reads_pure _ _)
  | @known seen found more key bytes field x hfield hnew hread hmore ih =>
    rw [List.length_cons] at hfuel
    obtain ⟨fuel, rfl⟩ : ∃ k, fuel = k + 1 := ⟨fuel - 1, by omega⟩
    have hrest : Reads (recordTail fields false ((key, x) :: seen) (fuel + 1))
        (entries false more ++ 125 :: rest) found (125 :: rest) := ih false (by omega)
    obtain ⟨c, bs, hnext, hc⟩ := entries_next more rest
    rw [hnext] at hrest
    have hvalue := (hread c bs hc).within (.field key)
    simp only [entries, List.append_assoc, quoted_append, List.cons_append, hnext]
    unfold recordTail
    refine (reads_nextKey first _).bind ((reads_skip 34 _).bind ?_)
    refine (reads_textBody key _).bind ?_
    simp only [hfield, hnew]
    exact (reads_colon _).bind (hvalue.bind hrest)
  | @unknown seen found more key bytes hfield hread hmore ih =>
    rw [List.length_cons] at hfuel
    obtain ⟨fuel, rfl⟩ : ∃ k, fuel = k + 1 := ⟨fuel - 1, by omega⟩
    have hrest : Reads (recordTail fields false seen (fuel + 1))
        (entries false more ++ 125 :: rest) found (125 :: rest) := ih false (by omega)
    obtain ⟨c, bs, hnext, hc⟩ := entries_next more rest
    rw [hnext] at hrest
    have hvalue := (hread c bs hc).within (.field key)
    simp only [entries, List.append_assoc, quoted_append, List.cons_append, hnext]
    unfold recordTail
    refine (reads_nextKey first _).bind ((reads_skip 34 _).bind ?_)
    refine (reads_textBody key _).bind ?_
    simp only [hfield]
    exact (reads_colon _).bind (hvalue.bind hrest)

theorem length_le_entries (first : Bool) (es : List (String × List UInt8)) :
    es.length ≤ (entries first es).length := by
  induction es generalizing first with
  | nil => exact Nat.le_refl _
  | cons e more ih =>
    obtain ⟨key, bytes⟩ := e
    have := ih false
    simp only [entries, List.length_append, List.length_cons]
    omega

/-- An object whose entries fill the fields is read as the record with those fields. -/
theorem reads_record {fields : List Field} {found values : List (String × Json)}
    {es : List (String × List UInt8)} (h : Fills fields [] es found)
    (hvalues : ∀ bs, Reads (complete found fields) bs values bs) (name : String)
    (rest : List UInt8) :
    Reads (record name fields) (123 :: (entries true es ++ 125 :: rest)) (.object values) rest := by
  have hfuel : es.length ≤ (entries true es ++ 125 :: rest).length := by
    have := length_le_entries true es
    rw [List.length_append]
    omega
  unfold record
  refine (reads_token (by decide) _).bind ?_
  refine Reads.closing ?_ (reads_objectEnd rest)
  refine (reads_skip 123 _).bind ((reads_remaining _).bind ?_)
  refine (reads_recordTail h true rest hfuel).bind ?_
  exact (hvalues _).map Json.object

theorem reads_complete_found {seen more : List (String × Json)} {field : Field}
    {fields : List Field} {found : String × Json}
    (h : seen.find? (·.1 == field.name) = some found) {bs : List UInt8}
    (hmore : Reads (complete seen fields) bs more bs) :
    Reads (complete seen (field :: fields)) bs (found :: more) bs := by
  unfold complete
  rw [h]
  exact hmore.map _

/-- Fields that are absent are null where that is what they stand for. -/
theorem reads_complete_absent {seen : List (String × Json)} {fields : List Field}
    (h : ∀ field ∈ fields, seen.find? (·.1 == field.name) = none ∧
      (field.absent = .null ∨ field.absent = .standsFor .null)) (bs : List UInt8) :
    Reads (complete seen fields) bs (fields.map fun field => (field.name, .null)) bs := by
  induction fields with
  | nil => exact reads_pure [] bs
  | cons field fields ih =>
    have hmore := ih fun f hf => h f (List.mem_cons_of_mem field hf)
    obtain ⟨hnone, habsent⟩ := h field List.mem_cons_self
    unfold complete
    rw [hnone]
    rcases habsent with habsent | habsent
    · rw [habsent]
      exact hmore.map _
    · rw [habsent]
      exact hmore.map _

/-! ## The compact text of an object -/

/-- The bytes of the compact text of a value. -/
def rendered (j : Json) : List UInt8 := Text.utf8 j.render.toList

theorem utf8_textLiteral (s : String) : Text.utf8 (textLiteral s).toList = quoted s := by
  unfold textLiteral quoted escaped
  rw [String.toList_ofList, List.cons_append, Text.utf8_cons, Text.utf8_append]
  rfl

theorem rendered_text (s : String) : rendered (.text s) = quoted s := by
  unfold rendered render
  exact utf8_textLiteral s

theorem rendered_int (k : Int) : rendered (.int k) = decimal k := by
  unfold rendered render
  cases k with
  | ofNat n =>
    change Text.utf8 n.repr.toList = digits n
    rw [Nat.toList_repr]
    rfl
  | negSucc n =>
    change Text.utf8 ("-" ++ (n + 1).repr).toList = 45 :: digits (n + 1)
    rw [String.toList_append, Nat.toList_repr, Text.utf8_append]
    rfl

theorem rendered_fields (fs : List (String × Json)) :
    Text.utf8 (renderFields fs).toList = entries true (fs.map fun f => (f.1, rendered f.2)) := by
  induction fs with
  | nil => rfl
  | cons f fs ih =>
    obtain ⟨key, x⟩ := f
    have colon : Text.utf8 ":".toList = [58] := rfl
    cases fs with
    | nil =>
      simp only [renderFields, String.toList_append, Text.utf8_append, utf8_textLiteral, colon]
      simp [entries, mark, rendered]
    | cons g fs =>
      have comma : Text.utf8 ",".toList = [44] := rfl
      have next : entries false ((g :: fs).map fun f => (f.1, rendered f.2)) =
          44 :: entries true ((g :: fs).map fun f => (f.1, rendered f.2)) := rfl
      simp only [renderFields, String.toList_append, Text.utf8_append, utf8_textLiteral, ih, colon,
        comma]
      change _ = mark true ++ quoted key ++
        58 :: (rendered x ++ entries false ((g :: fs).map fun f => (f.1, rendered f.2)))
      rw [next]
      simp only [mark, rendered, if_true, List.nil_append, List.append_assoc, List.cons_append]

theorem rendered_object (fs : List (String × Json)) :
    rendered (.object fs) =
      123 :: (entries true (fs.map fun f => (f.1, rendered f.2)) ++ [125]) := by
  have hrender : (Json.object fs).render = "\x7b" ++ renderFields fs ++ "\x7d" := by rw [render]
  change Text.utf8 (Json.object fs).render.toList = _
  rw [hrender, String.toList_append, String.toList_append, Text.utf8_append, Text.utf8_append,
    rendered_fields]
  rfl

/-- The value of the last field stands at the end, behind what does not depend on it. -/
theorem entries_last (first : Bool) (es : List (String × List UInt8)) (key : String) :
    ∃ front, ∀ bytes, entries first (es ++ [(key, bytes)]) = front ++ bytes := by
  induction es generalizing first with
  | nil =>
    refine ⟨mark first ++ quoted key ++ [58], ?_⟩
    intro bytes
    simp [entries]
  | cons e es ih =>
    obtain ⟨front, hfront⟩ := ih false
    refine ⟨mark first ++ quoted e.1 ++ 58 :: (e.2 ++ front), ?_⟩
    intro bytes
    simp [entries, hfront]

/-- Objects that differ in the text of their last field only are rendered differently. -/
theorem render_last_inj {fs : List (String × Json)} {key s t : String}
    (h : (Json.object (fs ++ [(key, .text s)])).render =
      (Json.object (fs ++ [(key, .text t)])).render) : s = t := by
  have hbytes : rendered (.object (fs ++ [(key, .text s)])) =
      rendered (.object (fs ++ [(key, .text t)])) := by
    unfold rendered
    rw [h]
  obtain ⟨front, hfront⟩ := entries_last true (fs.map fun f => (f.1, rendered f.2)) key
  simp only [rendered_object, List.map_append, List.map_cons, List.map_nil, rendered_text, hfront,
    List.append_assoc, List.cons.injEq, true_and, List.append_cancel_left_eq] at hbytes
  exact (quoted_inj hbytes).1

/-- An object that is rendered is read as the record whose fields it fills. -/
theorem fromAll_record {fields : List Field} {found values fs : List (String × Json)}
    (h : Fills fields [] (fs.map fun f => (f.1, rendered f.2)) found)
    (hvalues : ∀ bs, Reads (complete found fields) bs values bs) (name : String) :
    fromAll (record name fields) (rendered (.object fs)) = .ok (.object values) := by
  rw [rendered_object]
  exact (reads_record h hvalues name []).fromAll

end ServiceMesh.Json.Reader
