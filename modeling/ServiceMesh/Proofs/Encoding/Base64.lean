-- Base64 in the alphabet for URLs: the text of some bytes is read back as these
-- bytes, and its characters are letters, digits, `-` and `_`.
import Mathlib.Data.List.TakeWhile
import ServiceMesh.Encoding.Base64
import ServiceMesh.Proofs.Text.Utf8

namespace ServiceMesh.Encoding.Alphabet

/-! ## Values of six bits -/

/-- The values whose symbols stand for some bytes. -/
def values : List UInt8 → List Nat
  | a :: b :: c :: rest =>
    let n := a.toNat * 65536 + b.toNat * 256 + c.toNat
    n / 262144 :: n / 4096 % 64 :: n / 64 % 64 :: n % 64 :: values rest
  | [a, b] =>
    let n := a.toNat * 256 + b.toNat
    [n / 1024, n / 16 % 64, n % 16 * 4]
  | [a] => [a.toNat / 4, a.toNat % 4 * 16]
  | [] => []

theorem encodeBytes_eq (al : Alphabet) (bytes : List UInt8) :
    al.encodeBytes bytes = (values bytes).map al.symbol := by
  fun_induction values bytes with
  | case1 a b c rest n ih =>
    rw [encodeBytes, ih]
    rfl
  | case2 a b n => rfl
  | case3 a => rfl
  | case4 => rfl

theorem values_lt (bytes : List UInt8) : ∀ v ∈ values bytes, v < 64 := by
  fun_induction values bytes with
  | case1 a b c rest n ih =>
    have ha := a.toNat_lt
    have hb := b.toNat_lt
    have hc := c.toNat_lt
    intro v hv
    simp only [List.mem_cons] at hv
    rcases hv with rfl | rfl | rfl | rfl | hv
    · omega
    · omega
    · omega
    · omega
    · exact ih v hv
  | case2 a b n =>
    have ha := a.toNat_lt
    have hb := b.toNat_lt
    intro v hv
    simp only [List.mem_cons, List.not_mem_nil, or_false] at hv
    rcases hv with rfl | rfl | rfl <;> omega
  | case3 a =>
    have ha := a.toNat_lt
    intro v hv
    simp only [List.mem_cons, List.not_mem_nil, or_false] at hv
    rcases hv with rfl | rfl <;> omega
  | case4 =>
    intro v hv
    cases hv

theorem toUInt8_toNat {a : UInt8} {n : Nat} (h : n = a.toNat) : n.toUInt8 = a := by
  rw [h]
  exact UInt8.ofNat_toNat

/-- The values of some bytes make up the bytes. -/
theorem bytesOfValues_values (bytes : List UInt8) : bytesOfValues (values bytes) = bytes := by
  fun_induction values bytes with
  | case1 a b c rest n ih =>
    have ha := a.toNat_lt
    have hb := b.toNat_lt
    have hc := c.toNat_lt
    have whole : n / 262144 * 262144 + n / 4096 % 64 * 4096 + n / 64 % 64 * 64 + n % 64 = n := by
      omega
    rw [bytesOfValues]
    simp only [whole, ih]
    rw [toUInt8_toNat (show n / 65536 = a.toNat by omega),
      toUInt8_toNat (show n / 256 % 256 = b.toNat by omega),
      toUInt8_toNat (show n % 256 = c.toNat by omega)]
  | case2 a b n =>
    have ha := a.toNat_lt
    have hb := b.toNat_lt
    have whole : n / 1024 * 1024 + n / 16 % 64 * 16 + n % 16 * 4 / 4 = n := by omega
    simp only [bytesOfValues, whole]
    rw [toUInt8_toNat (show n / 256 = a.toNat by omega),
      toUInt8_toNat (show n % 256 = b.toNat by omega)]
  | case3 a =>
    have whole : a.toNat / 4 * 4 + a.toNat % 4 * 16 / 16 = a.toNat := by omega
    simp only [bytesOfValues, whole]
    rw [toUInt8_toNat rfl]
  | case4 => rfl

/-- How many values stand in front of the last group. -/
def full (n : Nat) : Nat := (n - 1) / 4 * 4

theorem full_add_four {n : Nat} (h : 0 < n) : full (n + 4) = full n + 4 := by
  unfold full
  omega

/-- The last group is a whole one, and its spare bits are zero. -/
theorem last_values (bytes : List UInt8) :
    (values bytes).length % 4 ≠ 1 ∧
      spareBits ((values bytes).drop (full (values bytes).length)) = 0 := by
  fun_induction values bytes with
  | case1 a b c rest n ih =>
    simp only [List.length_cons]
    by_cases hrest : (values rest).length = 0
    · rw [List.length_eq_zero_iff.mp hrest]
      exact ⟨by decide, rfl⟩
    · refine ⟨by omega, ?_⟩
      rw [full_add_four (Nat.pos_of_ne_zero hrest)]
      simp only [List.drop_succ_cons]
      exact ih.2
  | case2 a b n =>
    refine ⟨by simp, ?_⟩
    simp [full, spareBits]
  | case3 a =>
    refine ⟨by simp, ?_⟩
    simp [full, spareBits]
  | case4 => exact ⟨by decide, rfl⟩

/-! ## Symbols -/

/-- The symbol of a value is a letter, a digit, `-` or `_`: one of ASCII, and no padding. -/
theorem symbol_urlSafe : ∀ n < 64, urlSafe.symbol n < 128 ∧ urlSafe.symbol n ≠ pad ∧
    urlSafe.symbol n ≠ 46 := by
  decide

theorem valuesFrom_symbols {vs : List Nat} (h : ∀ v ∈ vs, v < 64) (offset : Nat) :
    urlSafe.valuesFrom offset (vs.map urlSafe.symbol) = .ok vs := by
  induction vs generalizing offset with
  | nil => rfl
  | cons v vs ih =>
    have hv := value?_symbol_urlSafe v (h v List.mem_cons_self)
    have hvs := ih (fun w hw => h w (List.mem_cons_of_mem v hw)) (offset + 1)
    simp only [List.map_cons, valuesFrom, hv, hvs]
    rfl

theorem lastGroup_symbols {vs : List Nat} (h : ∀ v ∈ vs, v < 64) (start : Nat) :
    urlSafe.lastGroup start (vs.map urlSafe.symbol) = .ok vs := by
  have unpadded : ∀ b ∈ vs.map urlSafe.symbol, decide (b ≠ pad) = true := by
    intro b hb
    obtain ⟨v, hv, rfl⟩ := List.mem_map.mp hb
    simpa using (symbol_urlSafe v (h v hv)).2.1
  have hhead : (vs.map urlSafe.symbol).takeWhile (· ≠ pad) = vs.map urlSafe.symbol :=
    List.takeWhile_eq_self_iff.mpr unpadded
  have htail : (vs.map urlSafe.symbol).dropWhile (· ≠ pad) = [] :=
    List.dropWhile_eq_nil_iff.mpr unpadded
  unfold lastGroup
  simp only [hhead, htail, valuesFrom_symbols h, List.isEmpty_nil, if_true]

theorem utf8_symbols {vs : List Nat} (h : ∀ v ∈ vs, v < 64) :
    Text.utf8 ((vs.map urlSafe.symbol).map fun b => Char.ofNat b.toNat) =
      vs.map urlSafe.symbol := by
  induction vs with
  | nil => rfl
  | cons v vs ih =>
    have hlt : (urlSafe.symbol v).toNat < 128 :=
      UInt8.lt_iff_toNat_lt.mp (symbol_urlSafe v (h v List.mem_cons_self)).1
    have hchar := Text.toNat_ofNat_ascii _ hlt
    have hrest := ih fun w hw => h w (List.mem_cons_of_mem v hw)
    simp only [List.map_cons]
    rw [Text.utf8_cons, Text.utf8EncodeChar_ascii (by rw [hchar]; exact hlt), hchar, hrest]
    simp

/-- The bytes of a base64 text are its symbols. -/
theorem bytes_encode (bytes : List UInt8) :
    (urlSafe.encode bytes).toUTF8.toList = (values bytes).map urlSafe.symbol := by
  unfold encode
  rw [Text.bytes_toUTF8, String.toList_ofList, encodeBytes_eq, utf8_symbols (values_lt bytes)]

/-! ## Reading back -/

/-- The base64 text of some bytes is read as these bytes. -/
theorem decode_encode (bytes : List UInt8) :
    urlSafe.decode (urlSafe.encode bytes) = .ok bytes := by
  have hlt := values_lt bytes
  obtain ⟨hlength, hspare⟩ := last_values bytes
  have hbytes := bytesOfValues_values bytes
  unfold decode
  rw [bytes_encode]
  generalize values bytes = vs at hlt hlength hspare hbytes
  have hfront : urlSafe.valuesFrom 0 ((vs.take (full vs.length)).map urlSafe.symbol) =
      .ok (vs.take (full vs.length)) :=
    valuesFrom_symbols (fun v hv => hlt v (List.mem_of_mem_take hv)) 0
  have hlast : urlSafe.lastGroup (full vs.length) ((vs.drop (full vs.length)).map urlSafe.symbol) =
      .ok (vs.drop (full vs.length)) :=
    lastGroup_symbols (fun v hv => hlt v (List.mem_of_mem_drop hv)) (full vs.length)
  rw [List.map_take] at hfront
  rw [List.map_drop] at hlast
  unfold full at hfront hlast hspare
  simp only [List.length_map, if_neg hlength, hfront, hlast]
  have whole : vs.take ((vs.length - 1) / 4 * 4) ++ vs.drop ((vs.length - 1) / 4 * 4) = vs :=
    List.take_append_drop _ _
  have long : ¬ (decide (vs.length ≠ 0) &&
      decide ((vs.drop ((vs.length - 1) / 4 * 4)).length < 2)) = true := by
    simp only [List.length_drop, Bool.and_eq_true, decide_eq_true_eq]
    omega
  have fits : ¬ spareBits (vs.drop ((vs.length - 1) / 4 * 4)) ≠ 0 := by simpa using hspare
  simp only [bind, Except.bind, if_neg long, if_neg fits, whole, hbytes]
  split <;> rfl

/-- No point stands in a base64 text. -/
theorem encode_no_point (bytes : List UInt8) : '.' ∉ (urlSafe.encode bytes).toList := by
  unfold encode
  rw [String.toList_ofList, encodeBytes_eq]
  intro hmem
  obtain ⟨b, hb, hpoint⟩ := List.mem_map.mp hmem
  obtain ⟨v, hv, rfl⟩ := List.mem_map.mp hb
  obtain ⟨hlt, -, hne⟩ := symbol_urlSafe v (values_lt bytes v hv)
  have hchar := Text.toNat_ofNat_ascii _ (UInt8.lt_iff_toNat_lt.mp hlt)
  rw [hpoint] at hchar
  exact hne (UInt8.toNat_inj.mp hchar.symm)

end ServiceMesh.Encoding.Alphabet
