-- Paths: what their segments say, and what is left of it once the ones that name a place by its
-- surroundings are resolved.
import ServiceMesh.Proofs.Web.Escapes
import ServiceMesh.Web.Client

namespace ServiceMesh.Web

/-! ## Segments -/

/-- What stands between the slashes of a path. -/
def joined : List (List Char) → List Char
  | [] => []
  | [segment] => segment
  | segment :: more => segment ++ '/' :: joined more

/-- Either slash is one. -/
def slashed (cs : List Char) : List Char := cs.map fun c => if c = '\\' then '/' else c

theorem segments_ne_nil (cs : List Char) : segments cs ≠ [] := by
  cases cs with
  | nil => simp [segments]
  | cons c cs =>
    unfold segments
    split
    · simp
    · split <;> simp

theorem segments_cons (c : Char) (cs : List Char) :
    segments (c :: cs) = if c = '/' ∨ c = '\\' then [] :: segments cs
      else match segments cs with
        | [] => [[c]]
        | first :: more => (c :: first) :: more := by
  cases hcs : segments cs with
  | nil => simp only [segments, hcs]
  | cons first more => simp only [segments, hcs]

theorem segments_slash (cs more : List Char) :
    segments (cs ++ '/' :: more) = segments cs ++ segments more := by
  induction cs with
  | nil => simp [segments]
  | cons c cs ih =>
    rw [List.cons_append, segments_cons, segments_cons, ih]
    by_cases hc : c = '/' ∨ c = '\\'
    · rw [if_pos hc, if_pos hc, List.cons_append]
    · rw [if_neg hc, if_neg hc]
      cases hcs : segments cs with
      | nil => exact absurd hcs (segments_ne_nil cs)
      | cons first rest => rfl

theorem joined_cons {segment : List Char} {more : List (List Char)} (h : more ≠ []) :
    joined (segment :: more) = segment ++ '/' :: joined more := by
  cases more with
  | nil => exact absurd rfl h
  | cons next more => rfl

theorem joined_segments (cs : List Char) : joined (segments cs) = slashed cs := by
  induction cs with
  | nil => rfl
  | cons c cs ih =>
    rw [segments_cons]
    unfold slashed
    by_cases hc : c = '/' ∨ c = '\\'
    · rw [if_pos hc, joined_cons (segments_ne_nil cs), ih, List.map_cons, List.nil_append]
      rcases hc with rfl | rfl <;> rfl
    · rw [if_neg hc, List.map_cons, if_neg fun heq => hc (Or.inr heq)]
      cases hcs : segments cs with
      | nil => exact absurd hcs (segments_ne_nil cs)
      | cons first rest =>
        rw [hcs] at ih
        change joined ((c :: first) :: rest) = c :: slashed cs
        rw [← ih]
        cases rest <;> rfl

theorem mem_segments {cs segment : List Char} (h : segment ∈ segments cs) :
    ∃ front back, slashed cs = front ++ segment ++ back := by
  have hmem : ∀ {path : List (List Char)}, segment ∈ path →
      ∃ front back, joined path = front ++ segment ++ back := by
    intro path
    induction path with
    | nil => simp
    | cons first more ih =>
      intro h
      rcases List.mem_cons.mp h with rfl | h
      · cases more with
        | nil => exact ⟨[], [], by simp [joined]⟩
        | cons next more => exact ⟨[], '/' :: joined (next :: more), rfl⟩
      · obtain ⟨front, back, heq⟩ := ih h
        refine ⟨first ++ '/' :: front, back, ?_⟩
        rw [joined_cons (List.ne_nil_of_mem h), heq]
        simp
  rw [← joined_segments]
  exact hmem h

theorem slashed_eq_self {cs : List Char} (h : ∀ c ∈ cs, c ≠ '\\') : slashed cs = cs := by
  unfold slashed
  conv => rhs; rw [← List.map_id cs]
  exact List.map_congr_left fun c hc => if_neg (h c hc)

theorem ne_of_mem_slashed {cs : List Char} : ∀ c ∈ slashed cs, c ≠ '\\' := by
  intro c hc
  obtain ⟨d, -, rfl⟩ := List.mem_map.mp hc
  split
  · decide
  · assumption

theorem length_utf8_slashed (cs : List Char) :
    (Text.utf8 (slashed cs)).length = (Text.utf8 cs).length := by
  induction cs with
  | nil => rfl
  | cons c cs ih =>
    have hc : (String.utf8EncodeChar (if c = '\\' then '/' else c)).length =
        (String.utf8EncodeChar c).length := by
      split
      · subst c
        decide
      · rfl
    change (Text.utf8 (_ :: slashed cs)).length = _
    rw [Text.utf8_cons, Text.utf8_cons, List.length_append, List.length_append, ih, hc]

/-! ## Resolving -/

/-- One segment more. -/
def resolveStep (done : List String) (segment : String) : List String :=
  if isDotDot segment then done.tail else if isDot segment then done else segment :: done

theorem resolve_cons (done : List String) (segment : String) {more : List String} (h : more ≠ []) :
    resolve done (segment :: more) = resolve (resolveStep done segment) more := by
  cases more with
  | nil => exact absurd rfl h
  | cons next more =>
    conv => lhs; unfold resolve
    unfold resolveStep
    split
    · rfl
    · split <;> rfl

theorem resolve_append (done front : List String) {more : List String} (h : more ≠ []) :
    resolve done (front ++ more) = resolve (front.foldl resolveStep done) more := by
  induction front generalizing done with
  | nil => rfl
  | cons segment front ih =>
    rw [List.cons_append, resolve_cons done segment (by simp [h]), ih, List.foldl_cons]

theorem resolve_cons_plain {segment : String}
    (h : isDot segment = false ∧ isDotDot segment = false) (done path : List String) :
    resolve done (segment :: path) = resolve (segment :: done) path := by
  cases path with
  | nil => simp [resolve, h]
  | cons next path =>
    rw [resolve_cons _ _ (by simp), resolveStep, if_neg (by simp [h]), if_neg (by simp [h])]

/-- Where no segment names a place by its surroundings, nothing has to be resolved. -/
theorem resolve_plain {path : List String}
    (h : ∀ segment ∈ path, isDot segment = false ∧ isDotDot segment = false)
    (done : List String) : resolve done path = done.reverse ++ path := by
  induction path generalizing done with
  | nil => simp [resolve]
  | cons segment path ih =>
    rw [resolve_cons_plain (h segment List.mem_cons_self),
      ih fun s hs => h s (List.mem_cons_of_mem _ hs)]
    simp

/-! ## Segments in their one form -/

/-- A segment, escaped. -/
def written (segment : List Char) : String := String.ofList (escape escapedInPath segment)

theorem of_escapedInPath {c : Char} (h : escapedInPath c = true) :
    c ≠ '%' ∧ hexValue? c = none := by
  simp only [escapedInPath, escapedInFragment, String.contains_char_eq, String.reduceToList,
    List.mem_cons, List.not_mem_nil, or_false, Bool.decide_or, Bool.or_eq_true,
    decide_eq_true_eq] at h
  rcases h with (h | h) | h
  · refine ⟨by rintro rfl; revert h; decide, ?_⟩
    unfold hexValue?
    simp only
    rw [if_neg (by omega), if_neg (by omega), if_neg (by omega)]
  · rcases h with rfl | rfl | rfl | rfl | rfl <;> decide
  · rcases h with rfl | rfl | rfl | rfl <;> decide

theorem keeps_path : Keeps escapedInPath := by
  refine ⟨Bool.eq_false_iff.mpr fun h => (of_escapedInPath h).1 rfl, ?_⟩
  intro c hc
  refine Bool.eq_false_iff.mpr fun h => ?_
  rw [(of_escapedInPath h).2] at hc
  cases hc

theorem unescape_written (segment : List Char) :
    unescape (written segment).toList = unescape segment := by
  rw [written, String.toList_ofList, unescape_escape keeps_path]

/-! ## Dots

However the one or two dots of such a segment are written, they stand for dots. -/

theorem toLower_cases (c : Char) :
    c.toLower = c ∨ (65 ≤ c.toNat ∧ c.toNat ≤ 90) ∧ c.toLower.toNat = c.toNat + 32 := by
  unfold Char.toLower
  split
  · rename_i hupper
    have hlow : 65 ≤ c.toNat := hupper.1
    have hhigh : c.toNat ≤ 90 := hupper.2
    refine Or.inr ⟨⟨hlow, hhigh⟩, ?_⟩
    change (c.val + ('a'.val - 'A'.val)).toNat = c.toNat + 32
    rw [UInt32.toNat_add]
    change (c.toNat + 32) % _ = c.toNat + 32
    omega
  · exact Or.inl rfl

theorem eq_of_toLower {c d : Char} (h : c.toLower = d) (hd : d.toNat < 97) : c = d := by
  rcases toLower_cases c with hsame | ⟨hupper, hlower⟩
  · rw [← hsame, h]
  · rw [h] at hlower
    omega

theorem hexValue?_toLower (c : Char) : hexValue? c.toLower = hexValue? c := by
  rcases toLower_cases c with hsame | ⟨hupper, hlower⟩
  · rw [hsame]
  · unfold hexValue?
    dsimp only
    rw [hlower, if_neg (by omega), if_neg (show ¬ (48 ≤ c.toNat ∧ c.toNat ≤ 57) by omega),
      if_neg (show ¬ (97 ≤ c.toNat ∧ c.toNat ≤ 102) by omega)]
    by_cases hdigit : c.toNat ≤ 70
    · rw [if_pos (by omega), if_pos (by omega)]
      congr 1
    · rw [if_neg (by omega), if_neg (by omega), if_neg (by omega)]

theorem unescape_dot {c : Char} (h : c.toLower = '.') (rest : List Char) :
    unescape (c :: rest) = 46 :: unescape rest := by
  obtain rfl := eq_of_toLower h (by decide)
  exact unescape_cons fun heq => absurd heq (by decide)

theorem unescape_escapedDot {a b c : Char} (ha : a.toLower = '%') (hb : b.toLower = '2')
    (hc : c.toLower = 'e') (rest : List Char) :
    unescape (a :: b :: c :: rest) = 46 :: unescape rest := by
  obtain rfl := eq_of_toLower ha (by decide)
  have htwo : hexValue? b = some 2 := by rw [← hexValue?_toLower, hb]; decide
  have hfourteen : hexValue? c = some 14 := by rw [← hexValue?_toLower, hc]; decide
  exact unescape_digits htwo hfourteen rest

theorem unescape_of_isDot {segment : String} (h : isDot segment = true) :
    unescape segment.toList = [46] := by
  have h := of_decide_eq_true h
  simp only [Text.lowerAscii, List.mem_cons, List.not_mem_nil, or_false, ← String.toList_inj,
    String.toList_map, String.reduceToList, List.map_eq_cons_iff, List.map_eq_nil_iff] at h
  rcases h with ⟨a, _, hs, ha, rfl⟩ | ⟨a, _, hs, ha, b, _, rfl, hb, c, _, rfl, hc, rfl⟩
  · rw [hs, unescape_dot ha]
    rfl
  · rw [hs, unescape_escapedDot ha hb hc]
    rfl

theorem unescape_of_isDotDot {segment : String} (h : isDotDot segment = true) :
    unescape segment.toList = [46, 46] := by
  have h := of_decide_eq_true h
  simp only [Text.lowerAscii, List.mem_cons, List.not_mem_nil, or_false, ← String.toList_inj,
    String.toList_map, String.reduceToList, List.map_eq_cons_iff, List.map_eq_nil_iff] at h
  rcases h with ⟨a, _, hs, ha, b, _, rfl, hb, rfl⟩ |
    ⟨d, _, hs, hd, a, _, rfl, ha, b, _, rfl, hb, c, _, rfl, hc, rfl⟩ |
    ⟨a, _, hs, ha, b, _, rfl, hb, c, _, rfl, hc, d, _, rfl, hd, rfl⟩ |
    ⟨a, _, hs, ha, b, _, rfl, hb, c, _, rfl, hc, d, _, rfl, hd, e, _, rfl, he, f, _, rfl, hf, rfl⟩
  · rw [hs, unescape_dot ha, unescape_dot hb]
    rfl
  · rw [hs, unescape_dot hd, unescape_escapedDot ha hb hc]
    rfl
  · rw [hs, unescape_escapedDot ha hb hc, unescape_dot hd]
    rfl
  · rw [hs, unescape_escapedDot ha hb hc, unescape_escapedDot hd he hf]
    rfl

/-! ## What a path stands for

As many bytes as its text and its slashes have. Resolving never adds to them, and takes away
wherever something has to be resolved. -/

/-- A path as it stands on the wire. -/
def spelled (path : List String) : List Char := path.flatMap fun segment => '/' :: segment.toList

theorem spelled_append (front path : List String) :
    spelled (front ++ path) = spelled front ++ spelled path := List.flatMap_append

theorem toList_pathText (u : Url) : u.pathText.toList = spelled u.path := by
  simp [Url.pathText, spelled, String.toList_join, List.flatMap_map]

def weight : List String → Nat
  | [] => 0
  | segment :: path => 1 + (unescape segment.toList).length + weight path

theorem weight_cons (segment : String) (path : List String) :
    weight (segment :: path) = 1 + (unescape segment.toList).length + weight path := rfl

theorem weight_append (front path : List String) :
    weight (front ++ path) = weight front + weight path := by
  induction front with
  | nil => simp [weight]
  | cons segment front ih =>
    rw [List.cons_append, weight_cons, weight_cons, ih]
    omega

theorem weight_reverse (path : List String) : weight path.reverse = weight path := by
  induction path with
  | nil => rfl
  | cons segment path ih =>
    rw [List.reverse_cons, weight_append, ih, weight_cons, weight_cons, weight]
    omega

theorem weight_tail_le (path : List String) : weight path.tail ≤ weight path := by
  cases path with
  | nil => exact Nat.le_refl _
  | cons segment path =>
    rw [List.tail_cons, weight_cons]
    omega

theorem unescape_spelled_append (cs : List Char) (path : List String) :
    unescape (cs ++ spelled path) = unescape cs ++ unescape (spelled path) := by
  cases path with
  | nil => simp [spelled, unescape]
  | cons segment path =>
    have hslash := unescape_slash [] (segment.toList ++ spelled path)
    change unescape (cs ++ '/' :: (segment.toList ++ spelled path)) =
      unescape cs ++ unescape ('/' :: (segment.toList ++ spelled path))
    rw [unescape_slash, show unescape ('/' :: _) = _ from hslash]
    rfl

theorem length_unescape_spelled (path : List String) :
    (unescape (spelled path)).length = weight path := by
  induction path with
  | nil => rfl
  | cons segment path ih =>
    have hslash := unescape_slash [] (segment.toList ++ spelled path)
    change (unescape ([] ++ '/' :: (segment.toList ++ spelled path))).length = _
    rw [hslash, unescape_spelled_append, weight_cons]
    simp only [List.length_append, List.length_cons, ih, unescape, List.length_nil]
    omega

/-- What has to be resolved leaves at most a slash behind, at the end of a path. -/
theorem resolve_dots {segment : String} (h : ¬ (isDot segment = false ∧ isDotDot segment = false))
    (done : List String) :
    ∃ before, weight before ≤ weight done ∧ resolve done [segment] = ("" :: before).reverse ∧
      ∀ path, path ≠ [] → resolve done (segment :: path) = resolve before path := by
  by_cases hdots : isDotDot segment = true
  · refine ⟨done.tail, weight_tail_le done, by simp [resolve, hdots], ?_⟩
    intro path hpath
    rw [resolve_cons _ _ hpath, resolveStep, if_pos hdots]
  · have hdot : isDot segment = true := by simpa [hdots] using h
    refine ⟨done, Nat.le_refl _, by simp [resolve, hdots, hdot], ?_⟩
    intro path hpath
    rw [resolve_cons _ _ hpath, resolveStep, if_neg hdots, if_pos hdot]

theorem length_unescape_dots {segment : String}
    (h : ¬ (isDot segment = false ∧ isDotDot segment = false)) :
    0 < (unescape segment.toList).length := by
  by_cases hdots : isDotDot segment = true
  · simp [unescape_of_isDotDot hdots]
  · have hdot : isDot segment = true := by simpa [hdots] using h
    simp [unescape_of_isDot hdot]

theorem spelled_segments (cs : List Char) :
    spelled ((segments cs).map written) = '/' :: escape escapedInPath (slashed cs) := by
  have hjoined : ∀ {path : List (List Char)}, path ≠ [] →
      spelled (path.map written) = '/' :: escape escapedInPath (joined path) := by
    intro path
    induction path with
    | nil => exact fun h => absurd rfl h
    | cons segment more ih =>
      intro _
      cases more with
      | nil => simp [spelled, written, joined]
      | cons next more =>
        have hslash : escapedChar escapedInPath '/' = ['/'] :=
          escapedChar_kept (by cbv) (by decide)
        rw [joined_cons (by simp), escape_append, escape_cons, hslash, List.map_cons]
        change '/' :: (written segment).toList ++ spelled ((next :: more).map written) = _
        rw [ih (by simp)]
        simp [written]
  rw [← joined_segments]
  exact hjoined (segments_ne_nil cs)

/-- The segments of a text stand for what the text stands for. -/
theorem weight_segments (cs : List Char) :
    weight ((segments cs).map written) = 1 + (unescape (slashed cs)).length := by
  have hslash := unescape_slash [] (escape escapedInPath (slashed cs))
  rw [List.nil_append] at hslash
  rw [← length_unescape_spelled, spelled_segments, hslash, unescape_escape keeps_path]
  simp [unescape]
  omega

theorem weight_resolve_plain {path : List String}
    (h : ∀ segment ∈ path, isDot segment = false ∧ isDotDot segment = false)
    (done : List String) : weight (resolve done path) = weight done + weight path := by
  rw [resolve_plain h, weight_append, weight_reverse]

theorem weight_resolve (done path : List String) :
    (∀ segment ∈ path, isDot segment = false ∧ isDotDot segment = false) ∨
      weight (resolve done path) < weight done + weight path := by
  induction path generalizing done with
  | nil => simp
  | cons segment path ih =>
    have hle : ∀ done, weight (resolve done path) ≤ weight done + weight path := by
      intro done
      rcases ih done with hplain | hlt
      · exact Nat.le_of_eq (weight_resolve_plain hplain done)
      · omega
    by_cases hsegment : isDot segment = false ∧ isDotDot segment = false
    · rw [resolve_cons_plain hsegment, weight_cons]
      rcases ih (segment :: done) with hplain | hlt
      · exact Or.inl (List.forall_mem_cons.mpr ⟨hsegment, hplain⟩)
      · rw [weight_cons] at hlt
        exact Or.inr (by omega)
    · obtain ⟨before, hbefore, hlast, hmore⟩ := resolve_dots hsegment done
      have hlength := length_unescape_dots hsegment
      refine Or.inr ?_
      rw [weight_cons]
      cases path with
      | nil =>
        have hempty : weight [""] = 1 := rfl
        rw [hlast, List.reverse_cons, weight_append, weight_reverse, hempty]
        omega
      | cons next path =>
        have := hle before
        rw [hmore _ (by simp)]
        omega

theorem weight_resolve_le (done path : List String) :
    weight (resolve done path) ≤ weight done + weight path := by
  rcases weight_resolve done path with hplain | hlt
  · exact Nat.le_of_eq (weight_resolve_plain hplain done)
  · exact Nat.le_of_lt hlt

end ServiceMesh.Web
