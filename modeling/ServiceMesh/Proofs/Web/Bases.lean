-- Addresses that go on behind a base: where a text ends up that is written behind the slash, and
-- which texts are what is then found there.
import Mathlib
import ServiceMesh.Proofs.Web.Paths

namespace ServiceMesh.Web

/-! ## Cutting -/

theorem cutAt_cons (p : Char → Bool) (c : Char) (cs : List Char) :
    cutAt p (c :: cs) = if p c then ([], some cs) else (c :: (cutAt p cs).1, (cutAt p cs).2) := by
  unfold cutAt
  by_cases hc : p c = true
  · simp [hc]
  · have hno : (!p c) = true := by simpa using hc
    simp only [List.dropWhile_cons, List.takeWhile_cons, hno, if_true, if_neg hc]
    cases cs.dropWhile (!p ·) <;> rfl

/-- A text is cut where its front is cut, or else behind that. -/
theorem cutAt_append (p : Char → Bool) (front cs : List Char) :
    cutAt p (front ++ cs) = match (cutAt p front).2 with
      | some rest => ((cutAt p front).1, some (rest ++ cs))
      | none => (front ++ (cutAt p cs).1, (cutAt p cs).2) := by
  induction front with
  | nil => rfl
  | cons c front ih =>
    rw [List.cons_append, cutAt_cons, cutAt_cons, ih]
    by_cases hc : p c = true
    · simp [hc]
    · simp only [if_neg hc]
      cases (cutAt p front).2 <;> rfl

theorem cutAt_append_of_cut {p : Char → Bool} {front rest : List Char}
    (h : (cutAt p front).2 = some rest) (cs : List Char) :
    cutAt p (front ++ cs) = ((cutAt p front).1, some (rest ++ cs)) := by
  rw [cutAt_append, h]

theorem cutAt_append_of_uncut {p : Char → Bool} {front : List Char}
    (h : (cutAt p front).2 = none) (cs : List Char) :
    cutAt p (front ++ cs) = (front ++ (cutAt p cs).1, (cutAt p cs).2) := by
  rw [cutAt_append, h]

theorem cutAt_uncut {p : Char → Bool} {cs : List Char} (h : (cutAt p cs).2 = none) :
    (cutAt p cs).1 = cs := by
  have happend := cutAt_append_of_uncut h []
  rw [List.append_nil] at happend
  simpa [cutAt] using congrArg Prod.fst happend

theorem cutAt_of_not {p : Char → Bool} {cs : List Char} (h : ∀ c ∈ cs, p c = false) :
    cutAt p cs = (cs, none) := by
  induction cs with
  | nil => rfl
  | cons c cs ih =>
    have hc : ¬ p c = true := by simp [h c List.mem_cons_self]
    rw [cutAt_cons, if_neg hc, ih fun d hd => h d (List.mem_cons_of_mem c hd)]

theorem not_of_mem_cutAt {p : Char → Bool} {cs : List Char} {c : Char} (h : c ∈ (cutAt p cs).1) :
    p c = false := by
  induction cs with
  | nil => cases h
  | cons d cs ih =>
    rw [cutAt_cons] at h
    by_cases hd : p d = true
    · rw [if_pos hd] at h
      cases h
    · rw [if_neg hd] at h
      rcases List.mem_cons.mp h with rfl | h
      · exact Bool.eq_false_iff.mpr hd
      · exact ih h

theorem cutAt_sublist (p : Char → Bool) (cs : List Char) : (cutAt p cs).1.Sublist cs := by
  induction cs with
  | nil => exact List.Sublist.slnil
  | cons c cs ih =>
    rw [cutAt_cons]
    split
    · exact List.nil_sublist _
    · exact ih.cons_cons c

/-! ## Reading -/

/-- A blank, or a mark that shows nothing, at the end of a text. -/
def outer (c : Char) : Bool := c.toNat ≤ 32

/-- A mark that breaks lines, or is one's indentation. -/
def breaks (c : Char) : Bool := c = '\t' || c = '\n' || c = '\r'

/-- What is read of the end of a text. -/
def tidy (cs : List Char) : List Char :=
  ((cs.reverse.dropWhile outer).reverse).filter fun c => !breaks c

theorem dropWhile_append_stop {p : Char → Bool} {c : Char} (hc : p c = false)
    (front cs : List Char) :
    (front ++ c :: cs).dropWhile p = front.dropWhile p ++ c :: cs := by
  induction front with
  | nil => simp [hc]
  | cons d front ih =>
    rw [List.cons_append, List.dropWhile_cons, List.dropWhile_cons, ih]
    split <;> rfl

theorem readable_slash (base tail : String) :
    readable (base ++ "/" ++ tail) =
      (base.toList.dropWhile outer).filter (fun c => !breaks c) ++ '/' :: tidy tail.toList := by
  have hslash : outer '/' = false := by decide
  have hfront : (base ++ "/" ++ tail).toList = base.toList ++ '/' :: tail.toList := by
    simp [String.toList_append]
  change (((((base ++ "/" ++ tail).toList.dropWhile outer).reverse.dropWhile outer).reverse).filter
    fun c => !breaks c) = _
  rw [hfront, dropWhile_append_stop hslash, List.reverse_append, List.reverse_cons,
    List.append_assoc, List.singleton_append, dropWhile_append_stop hslash]
  simp [tidy, breaks]

theorem dropEnd_sublist (cs : List Char) : ((cs.reverse.dropWhile outer).reverse).Sublist cs := by
  rw [← List.reverse_sublist, List.reverse_reverse]
  exact List.dropWhile_sublist _

theorem tidy_sublist (cs : List Char) : (tidy cs).Sublist cs :=
  List.filter_sublist.trans (dropEnd_sublist cs)

/-! ## Behind a base -/

/-- Either slash. -/
def isSlash (c : Char) : Bool := c = '/' || c = '\\'

theorem cutAt_behind {p : Char → Bool} (hslash : p '/' = false) {front : List Char}
    (h : (cutAt p (front ++ ['/'])).2 = none) (cs : List Char) :
    cutAt p (front ++ '/' :: cs) = (front ++ '/' :: (cutAt p cs).1, (cutAt p cs).2) := by
  cases hcut : (cutAt p front).2 with
  | some rest =>
    rw [cutAt_append_of_cut hcut] at h
    cases h
  | none => simp [cutAt_append_of_uncut hcut, cutAt_cons, hslash]

def isColon (c : Char) : Bool := c = ':'

def inScheme (c : Char) : Bool := c.isAlphanum || "+-.".contains c

theorem scheme?_cons (c : Char) (cs : List Char) :
    scheme? (c :: cs) = (cutAt isColon (c :: cs)).2.bind fun rest =>
      if c.isAlpha && (cutAt isColon (c :: cs)).1.all inScheme then
        some (Text.lowerAscii (String.ofList (cutAt isColon (c :: cs)).1), rest)
      else none := by
  rcases hcut : cutAt isColon (c :: cs) with ⟨scheme, _ | rest⟩
  · have hcut : cutAt (· = ':') (c :: cs) = (scheme, none) := hcut
    simp only [scheme?, hcut]
    rfl
  · have hcut : cutAt (· = ':') (c :: cs) = (scheme, some rest) := hcut
    simp only [scheme?, hcut]
    rfl

/-- A scheme that can be read stands in front of the first slash. -/
theorem scheme?_slash (front cs : List Char) :
    scheme? (front ++ '/' :: cs) =
      (scheme? front).map fun (scheme, rest) => (scheme, rest ++ '/' :: cs) := by
  cases front with
  | nil =>
    have hslash : '/'.isAlpha = false := by decide
    rw [List.nil_append, scheme?_cons, hslash]
    cases (cutAt isColon ('/' :: cs)).2 <;> rfl
  | cons c front =>
    rw [List.cons_append, scheme?_cons, scheme?_cons, ← List.cons_append]
    cases hcut : (cutAt isColon (c :: front)).2 with
    | some rest =>
      rw [cutAt_append_of_cut hcut]
      simp only [Option.bind_some]
      split <;> rfl
    | none =>
      have hno : inScheme '/' = false := by cbv
      have hslash : cutAt isColon ('/' :: cs) =
          ('/' :: (cutAt isColon cs).1, (cutAt isColon cs).2) := by
        rw [cutAt_cons, if_neg (by decide)]
      rw [cutAt_append_of_uncut hcut, hslash]
      cases (cutAt isColon cs).2 with
      | none => rfl
      | some rest => simp [hno]

/-- The host and the port, and the path behind them. -/
def placed? (ownPort : Nat) (place : List Char) : Option (String × Option Nat × List Char) :=
  let (authority, path) := cutAt isSlash (place.dropWhile isSlash)
  (authority? ownPort authority).map fun (host, port) => (host, port, path.getD [])

theorem authority?_nil (ownPort : Nat) : authority? ownPort [] = none := by
  have hhost : host? "" = none := by cbv
  simp [authority?, cutAt, hhost]

/-- A place goes on behind its slash with whatever follows there. -/
theorem placed?_slash {ownPort : Nat} {front : List Char} {host : String} {port : Option Nat}
    {path : List Char} (h : placed? ownPort (front ++ ['/']) = some (host, port, path)) :
    (path = [] ∨ ∃ start, path = start ++ ['/']) ∧
      ∀ cs, placed? ownPort (front ++ '/' :: cs) = some (host, port, path ++ cs) := by
  unfold placed? at h ⊢
  simp only [List.dropWhile_append] at h ⊢
  cases hplace : front.dropWhile isSlash with
  | nil =>
    have hslash : ['/'].dropWhile isSlash = [] := by decide
    rw [hplace] at h
    simp [hslash, cutAt, authority?_nil] at h
  | cons c place =>
    simp only [hplace, List.isEmpty_cons, Bool.false_eq_true, if_false] at h ⊢
    cases hcut : (cutAt isSlash (c :: place)).2 with
    | some rest =>
      simp only [cutAt_append_of_cut hcut, Option.map_eq_some_iff] at h ⊢
      obtain ⟨⟨_, _⟩, hauthority, heq⟩ := h
      cases heq
      exact ⟨Or.inr ⟨rest, rfl⟩, fun cs => ⟨_, hauthority, by simp⟩⟩
    | none =>
      have hslash : ∀ cs, cutAt isSlash ('/' :: cs) = ([], some cs) := by
        intro cs
        rw [cutAt_cons, if_pos (by decide)]
      simp only [cutAt_append_of_uncut hcut, hslash, Option.map_eq_some_iff] at h ⊢
      obtain ⟨⟨_, _⟩, hauthority, heq⟩ := h
      cases heq
      exact ⟨Or.inl rfl, fun cs => ⟨_, hauthority, by simp⟩⟩

/-! The place that a text names, the query and the fragment. -/

def isQuery (c : Char) : Bool := c = '?'

def isFragment (c : Char) : Bool := c = '#'

def placeOf (cs : List Char) : List Char := (cutAt isQuery (cutAt isFragment cs).1).1

def queryOf? (cs : List Char) : Option String :=
  (cutAt isQuery (cutAt isFragment cs).1).2.map fun cs => String.ofList (escape escapedInQuery cs)

def fragmentOf? (cs : List Char) : Option String :=
  (cutAt isFragment cs).2.map fun cs => String.ofList (escape escapedInFragment cs)

/-- Behind a slash before which nothing is cut off, everything is as it is by itself. -/
theorem parts_slash {front : List Char} (hquery : queryOf? (front ++ ['/']) = none)
    (hfragment : fragmentOf? (front ++ ['/']) = none) (cs : List Char) :
    placeOf (front ++ '/' :: cs) = front ++ '/' :: placeOf cs ∧
      queryOf? (front ++ '/' :: cs) = queryOf? cs ∧
      fragmentOf? (front ++ '/' :: cs) = fragmentOf? cs := by
  have hhash := Option.map_eq_none_iff.mp hfragment
  have hfragment := cutAt_behind (by decide) hhash
  have hmark := Option.map_eq_none_iff.mp hquery
  rw [cutAt_uncut hhash] at hmark
  have hquery := cutAt_behind (by decide) hmark
  unfold placeOf queryOf? fragmentOf?
  simp [hfragment, hquery]

theorem placeOf_sublist (cs : List Char) : (placeOf cs).Sublist cs :=
  (cutAt_sublist _ _).trans (cutAt_sublist _ _)

theorem parts_of_uncut {cs : List Char} (h : ∀ c ∈ cs, c ≠ '?' ∧ c ≠ '#') :
    placeOf cs = cs ∧ queryOf? cs = none ∧ fragmentOf? cs = none := by
  have hfragment : cutAt isFragment cs = (cs, none) :=
    cutAt_of_not fun c hc => decide_eq_false (h c hc).2
  have hquery : cutAt isQuery cs = (cs, none) :=
    cutAt_of_not fun c hc => decide_eq_false (h c hc).1
  simp [placeOf, queryOf?, fragmentOf?, hfragment, hquery]

theorem address_eq_ok_iff {text : String} {url : Url} : address text = .ok url ↔
    ∃ scheme rest ownPort host port path, scheme? (readable text) = some (scheme, rest) ∧
      schemePort? scheme = some ownPort ∧
      placed? ownPort (placeOf rest) = some (host, port, path) ∧
      url = ⟨scheme, host, port, pathOf path, queryOf? rest, fragmentOf? rest⟩ := by
  have hparsed : address text = .ok url ↔ Target.parse? text = some (.web url) := by
    unfold address
    split <;> simp_all
  rw [hparsed]
  unfold Target.parse?
  cases hscheme : scheme? (readable text) with
  | none => simp
  | some found =>
    obtain ⟨scheme, rest⟩ := found
    cases hport : schemePort? scheme with
    | none => simp [hport]
    | some ownPort =>
      simp only [Option.bind_eq_bind, Option.bind_some, hport, Option.bind_eq_some_iff]
      constructor
      · rintro ⟨⟨host, port⟩, hauthority, heq⟩
        cases heq
        exact ⟨scheme, rest, ownPort, host, port, _, rfl, hport,
          Option.map_eq_some_iff.mpr ⟨(host, port), hauthority, rfl⟩, rfl⟩
      · rintro ⟨scheme', rest', ownPort', host, port, path, hfound, hown, hplaced, rfl⟩
        cases hfound
        cases hport.symm.trans hown
        obtain ⟨⟨_, _⟩, hauthority, heq⟩ := Option.map_eq_some_iff.mp hplaced
        cases heq
        exact ⟨(host, port), hauthority, rfl⟩

theorem resolve_empty (done : List String) : resolve done [""] = done.reverse ++ [""] := by
  have hempty : isDot "" = false ∧ isDotDot "" = false := ⟨by cbv, by cbv⟩
  exact resolve_plain (List.forall_mem_singleton.mpr hempty) done

theorem pathOf_behind {front : List Char} (h : front = [] ∨ ∃ start, front = start ++ ['/']) :
    ∃ done : List String, pathOf front = done.reverse ++ [""] ∧
      ∀ cs, pathOf (front ++ cs) = resolve done ((segments cs).map written) := by
  have hbehind : ∃ done, ∀ cs, pathOf (front ++ cs) = resolve done ((segments cs).map written) := by
    rcases h with rfl | ⟨start, rfl⟩
    · exact ⟨[], fun cs => rfl⟩
    · refine ⟨((segments start).map written).foldl resolveStep [], fun cs => ?_⟩
      rw [List.append_assoc, List.singleton_append]
      unfold pathOf
      rw [segments_slash, List.map_append]
      exact resolve_append _ _ (by simp [segments_ne_nil])
  obtain ⟨done, hdone⟩ := hbehind
  refine ⟨done, ?_, hdone⟩
  rw [← resolve_empty, ← List.append_nil front, hdone]
  rfl

/-- What follows the slash behind a base without a query goes on in its path, as far as that
goes. -/
theorem address_behind {base : String} {url : Url} (h : address (base ++ "/") = .ok url)
    (hquery : url.query = none) (hfragment : url.fragment = none) :
    ∃ done : List String, url.path = done.reverse ++ [""] ∧
      ∀ tail : String, address (base ++ "/" ++ tail) = .ok { url with
        path := resolve done ((segments (placeOf (tidy tail.toList))).map written)
        query := queryOf? (tidy tail.toList)
        fragment := fragmentOf? (tidy tail.toList) } := by
  obtain ⟨scheme, rest, ownPort, host, port, path, hscheme, hport, hplaced, rfl⟩ :=
    address_eq_ok_iff.mp h
  have hreadable := readable_slash base ""
  rw [String.append_empty, show tidy "".toList = [] from rfl] at hreadable
  rw [hreadable, scheme?_slash, Option.map_eq_some_iff] at hscheme
  obtain ⟨⟨_, front⟩, hfront, heq⟩ := hscheme
  cases heq
  have hparts := parts_slash hquery hfragment
  rw [(hparts []).1] at hplaced
  obtain ⟨hpath, hbehind⟩ := placed?_slash hplaced
  obtain ⟨done, hdone, hresolve⟩ := pathOf_behind hpath
  refine ⟨done, hdone, fun tail => ?_⟩
  obtain ⟨hplace, hquery, hfragment⟩ := hparts (tidy tail.toList)
  rw [address_eq_ok_iff, readable_slash, scheme?_slash, hfront]
  refine ⟨scheme, _, ownPort, host, port, path ++ placeOf (tidy tail.toList), rfl, hport, ?_, ?_⟩
  · rw [hplace]
    exact hbehind _
  · rw [hquery, hfragment, hresolve]

/-! ## Plain names -/

/-- A name that is read as it is written behind a slash: nothing of it is left out, cut off,
undone or resolved, and it has one kind of slash. -/
structure Plain (name : List Char) : Prop where
  unbroken : ∀ c ∈ name, breaks c = false
  closed : ∀ c ∈ name.getLast?, outer c = false
  uncut : ∀ c ∈ name, c ≠ '?' ∧ c ≠ '#'
  upright : ∀ c ∈ name, c ≠ '\\'
  unescaped : ¬ Escaped name
  undotted : ∀ segment ∈ segments name, segment ≠ ['.'] ∧ segment ≠ ['.', '.']

/-- Whether a name is plain. -/
def isPlain (name : List Char) : Bool :=
  name.all (fun c => !breaks c && c != '?' && c != '#' && c != '\\') &&
    name.getLast?.all (!outer ·) && !decide (Escaped name) &&
    (segments name).all fun segment => segment != ['.'] && segment != ['.', '.']

theorem isPlain_iff (name : List Char) : isPlain name = true ↔ Plain name := by
  unfold isPlain
  simp only [Bool.and_eq_true, List.all_eq_true, Option.all_eq_true, Bool.not_eq_true',
    decide_eq_false_iff_not, bne_iff_ne]
  constructor
  · rintro ⟨⟨⟨hall, hclosed⟩, hescaped⟩, hdots⟩
    exact ⟨fun c hc => (hall c hc).1.1.1, hclosed,
      fun c hc => ⟨(hall c hc).1.1.2, (hall c hc).1.2⟩, fun c hc => (hall c hc).2, hescaped, hdots⟩
  · intro h
    exact ⟨⟨⟨fun c hc => ⟨⟨⟨h.unbroken c hc, (h.uncut c hc).1⟩, (h.uncut c hc).2⟩,
      h.upright c hc⟩, h.closed⟩, h.unescaped⟩, h.undotted⟩

instance (name : List Char) : Decidable (Plain name) := decidable_of_iff _ (isPlain_iff name)

example : Plain "users/7 (east).".toList := by decide

example : ¬ Plain "users/../7".toList := by decide

theorem tidy_eq_self_iff (cs : List Char) : tidy cs = cs ↔
    (∀ c ∈ cs, breaks c = false) ∧ ∀ c ∈ cs.getLast?, outer c = false := by
  have hdrop : (cs.reverse.dropWhile outer).reverse = cs ↔
      ∀ c ∈ cs.getLast?, outer c = false := by
    rw [← List.head?_reverse, List.reverse_eq_iff]
    cases cs.reverse with
    | nil => simp
    | cons c ds =>
      have hshorter := (List.dropWhile_sublist (l := ds) outer).length_le
      rw [List.dropWhile_cons]
      by_cases hc : outer c = true
      · rw [if_pos hc]
        refine ⟨fun h => ?_, fun h => absurd hc (by simp [h c rfl])⟩
        rw [h, List.length_cons] at hshorter
        omega
      · simp [hc]
  rw [← hdrop]
  unfold tidy
  constructor
  · intro h
    have hkept : (cs.reverse.dropWhile outer).reverse = cs := by
      refine (dropEnd_sublist cs).eq_of_length_le ?_
      conv => lhs; rw [← h]
      exact List.filter_sublist.length_le
    rw [hkept, List.filter_eq_self] at h
    exact ⟨fun c hc => by simpa using h c hc, hkept⟩
  · rintro ⟨hbreaks, hkept⟩
    rw [hkept, List.filter_eq_self]
    intro c hc
    simp [hbreaks c hc]

theorem placeOf_eq_self_iff (cs : List Char) :
    placeOf cs = cs ↔ ∀ c ∈ cs, c ≠ '?' ∧ c ≠ '#' := by
  refine ⟨fun h c hc => ?_, fun h => (parts_of_uncut h).1⟩
  rw [← h] at hc
  have hquery := not_of_mem_cutAt hc
  have hfragment := not_of_mem_cutAt ((cutAt_sublist _ _).subset hc)
  exact ⟨of_decide_eq_false hquery, of_decide_eq_false hfragment⟩

theorem segment_not_dots {name segment : List Char} (h : Plain name)
    (hsegment : segment ∈ segments name) :
    isDot (written segment) = false ∧ isDotDot (written segment) = false := by
  obtain ⟨front, back, heq⟩ := mem_segments hsegment
  rw [slashed_eq_self h.upright] at heq
  have hescaped : ¬ Escaped segment := by
    intro hescaped
    refine h.unescaped ?_
    rw [heq]
    exact (hescaped.append_left front).append_right back
  have hbytes := unescape_of_not_escaped hescaped
  rw [← unescape_written] at hbytes
  obtain ⟨hone, htwo⟩ := h.undotted segment hsegment
  refine ⟨Bool.eq_false_iff.mpr fun hdot => hone ?_, Bool.eq_false_iff.mpr fun hdots => htwo ?_⟩
  · rw [unescape_of_isDot hdot] at hbytes
    exact (Text.utf8_inj (show Text.utf8 ['.'] = _ from hbytes)).symm
  · rw [unescape_of_isDotDot hdots] at hbytes
    exact (Text.utf8_inj (show Text.utf8 ['.', '.'] = _ from hbytes)).symm

/-- Each step from a name to its path can only lose bytes. Where none are lost, no step does
anything. -/
theorem nothing_lost {done : List String} {name : List Char}
    (h : weight done + (1 + (Text.utf8 name).length) ≤
      weight (resolve done ((segments (placeOf (tidy name))).map written))) :
    placeOf (tidy name) = name ∧ ¬ Escaped (slashed name) ∧
      ∀ segment ∈ (segments name).map written,
        isDot segment = false ∧ isDotDot segment = false := by
  have hslashes := length_utf8_slashed (placeOf (tidy name))
  have hescapes : (unescape (slashed (placeOf (tidy name)))).length ≤
      (Text.utf8 (slashed (placeOf (tidy name)))).length := by
    rcases length_unescape (slashed (placeOf (tidy name))) with ⟨-, heq⟩ | ⟨-, hlt⟩
    · exact Nat.le_of_eq (congrArg List.length heq)
    · exact Nat.le_of_lt hlt
  have hresolved : weight (resolve done ((segments (placeOf (tidy name))).map written)) ≤
      weight done + (1 + (unescape (slashed (placeOf (tidy name)))).length) := by
    rw [← weight_segments]
    exact weight_resolve_le _ _
  have hwhole : placeOf (tidy name) = name := by
    rcases Text.length_utf8_of_sublist ((placeOf_sublist _).trans (tidy_sublist name))
      with heq | hlt
    · exact heq
    · omega
  rw [hwhole] at h hslashes hescapes hresolved
  refine ⟨hwhole, ?_, ?_⟩
  · rcases length_unescape (slashed name) with ⟨hno, -⟩ | ⟨-, hlt⟩
    · exact hno
    · omega
  · rcases weight_resolve done ((segments name).map written) with hplain | hlt
    · exact hplain
    · rw [weight_segments] at hlt
      omega

/-- Only a plain name is what is found behind a path. -/
theorem plain_of_found {done : List String} {name rest : List Char}
    (h : spelled (resolve done ((segments (placeOf (tidy name))).map written)) =
      spelled done.reverse ++ '/' :: rest)
    (hrest : unescape rest = Text.utf8 name) : Plain name := by
  have hweight := congrArg (fun cs => (unescape cs).length) h
  simp only [unescape_slash, hrest, length_unescape_spelled, List.length_append,
    List.length_cons, weight_reverse] at hweight
  obtain ⟨hwhole, hescaped, hplain⟩ := nothing_lost
    (show weight done + (1 + (Text.utf8 name).length) ≤ _ by omega)
  have htidy : tidy name = name := by
    refine (tidy_sublist name).eq_of_length_le ?_
    conv => lhs; rw [← hwhole]
    exact (placeOf_sublist _).length_le
  have hslashed : slashed name = name := by
    rw [hwhole, resolve_plain hplain, spelled_append, spelled_segments,
      List.append_cancel_left_eq, List.cons.injEq] at h
    obtain ⟨-, rfl⟩ := h
    rw [unescape_escape keeps_path, unescape_of_not_escaped hescaped] at hrest
    exact Text.utf8_inj hrest
  obtain ⟨hunbroken, hclosed⟩ := (tidy_eq_self_iff name).mp htidy
  rw [htidy] at hwhole
  refine ⟨hunbroken, hclosed, (placeOf_eq_self_iff name).mp hwhole, ?_, ?_, ?_⟩
  · rw [← hslashed]
    exact ne_of_mem_slashed
  · rwa [hslashed] at hescaped
  · intro segment hsegment
    obtain ⟨hdot, hdots⟩ := hplain _ (List.mem_map_of_mem hsegment)
    refine ⟨?_, ?_⟩
    · rintro rfl
      have hyes : isDot (written ['.']) = true := by cbv
      rw [hyes] at hdot
      cases hdot
    · rintro rfl
      have hyes : isDotDot (written ['.', '.']) = true := by cbv
      rw [hyes] at hdots
      cases hdots

theorem found_of_plain {name : List Char} (h : Plain name) (done : List String) :
    spelled (resolve done ((segments (placeOf (tidy name))).map written)) =
      spelled done.reverse ++ '/' :: escape escapedInPath name := by
  have htidy := (tidy_eq_self_iff name).mpr ⟨h.unbroken, h.closed⟩
  have hplace := (placeOf_eq_self_iff name).mpr h.uncut
  have hplain : ∀ segment ∈ (segments name).map written,
      isDot segment = false ∧ isDotDot segment = false := by
    intro segment hsegment
    obtain ⟨word, hword, rfl⟩ := List.mem_map.mp hsegment
    exact segment_not_dots h hword
  rw [htidy, hplace, resolve_plain hplain, spelled_append, spelled_segments,
    slashed_eq_self h.upright]

/-! ## Names behind a base -/

/-- An address behind a folder of a place, where the rest of the path stands for a name. -/
def Names (place : Url) (folder name : String) (url : Url) : Prop :=
  url.scheme = place.scheme ∧ url.host = place.host ∧ url.port = place.port ∧
    ∃ rest, url.pathText = place.pathText ++ folder ++ rest ∧ unescaped? rest = some name

/-- The query has no part in what an address names. -/
theorem names_withQuery {place url : Url} {folder name : String}
    (pairs : List (String × String)) :
    Names place folder name (url.withQuery pairs) ↔ Names place folder name url := by
  unfold Url.withQuery
  dsimp only
  split <;> rfl

theorem query_withQuery {u v : Url} (h : u.query = v.query) (pairs : List (String × String)) :
    (u.withQuery pairs).query = (v.withQuery pairs).query := by
  unfold Url.withQuery
  rw [h]
  dsimp only
  split <;> rfl

theorem pathText_behind_iff {place url : Url} {done : List String} {rest : String}
    (hdone : place.path = done.reverse ++ [""]) :
    url.pathText = place.pathText ++ rest ↔
      spelled url.path = spelled done.reverse ++ '/' :: rest.toList := by
  rw [← String.toList_inj, String.toList_append, toList_pathText, toList_pathText, hdone,
    spelled_append, List.append_assoc]
  rfl

section Behind

variable {base : String} {place : Url} (h : address (base ++ "/") = .ok place)
  (hquery : place.query = none) (hfragment : place.fragment = none)

include h hquery hfragment

/-- A plain name is written out behind the base; of any other one, something else is found
there. -/
theorem address_name (name : String) :
    ∃ url, address (base ++ "/" ++ name) = .ok url ∧
      (url.scheme = place.scheme ∧ url.host = place.host ∧ url.port = place.port) ∧
      (∀ rest, url.pathText = place.pathText ++ rest → unescaped? rest = some name →
        Plain name.toList) ∧
      (Plain name.toList → url.query = none ∧ url.fragment = none ∧
        url.pathText = place.pathText ++ String.ofList (escape escapedInPath name.toList)) := by
  obtain ⟨done, hdone, hbehind⟩ := address_behind h hquery hfragment
  refine ⟨_, hbehind name, ⟨rfl, rfl, rfl⟩, ?_, ?_⟩
  · intro rest htext hrest
    rw [pathText_behind_iff hdone] at htext
    exact plain_of_found htext (unescaped?_eq_some_iff.mp hrest)
  · intro hplain
    have htidy := (tidy_eq_self_iff name.toList).mpr ⟨hplain.unbroken, hplain.closed⟩
    obtain ⟨-, hnoquery, hnofragment⟩ := parts_of_uncut hplain.uncut
    refine ⟨?_, ?_, ?_⟩
    · simp only [htidy, hnoquery]
    · simp only [htidy, hnofragment]
    · rw [pathText_behind_iff hdone, found_of_plain hplain, String.toList_ofList]

/-- What is written in a folder names exactly itself if it is plain, and only then. -/
theorem names_iff {folder : String} (hfolder : Plain (folder ++ "/").toList)
    (hsame : escape escapedInPath (folder ++ "/").toList = (folder ++ "/").toList)
    (name : String) :
    ∃ url, address (base ++ "/" ++ (folder ++ "/" ++ name)) = .ok url ∧
      (Names place (folder ++ "/") name url ↔ Plain name.toList) ∧
      (Plain name.toList → url.query = none) := by
  have hbase : ∀ tail : String, base ++ "/" ++ (folder ++ "/" ++ tail) =
      base ++ "/" ++ folder ++ "/" ++ tail := fun tail => by simp only [String.append_assoc]
  obtain ⟨inner, hinner, ⟨hscheme, hhost, hport⟩, -, hplain⟩ :=
    address_name h hquery hfragment (folder ++ "/")
  obtain ⟨hnoquery, hnofragment, htext⟩ := hplain hfolder
  rw [hsame, String.ofList_toList] at htext
  rw [← String.append_empty (s := folder ++ "/"), hbase, String.append_empty] at hinner
  obtain ⟨url, hurl, ⟨hscheme', hhost', hport'⟩, honly, hplain⟩ :=
    address_name hinner hnoquery hnofragment name
  refine ⟨url, by rw [hbase]; exact hurl, ⟨?_, fun hname => ?_⟩, fun hname => (hplain hname).1⟩
  · rintro ⟨-, -, -, rest, hrest, hname⟩
    rw [← htext] at hrest
    exact honly rest hrest hname
  · obtain ⟨-, -, htext'⟩ := hplain hname
    refine ⟨hscheme'.trans hscheme, hhost'.trans hhost, hport'.trans hport, _,
      by rw [htext', htext], ?_⟩
    rw [unescaped?_eq_some_iff, String.toList_ofList, unescape_escape keeps_path,
      unescape_of_not_escaped hname.unescaped]

end Behind

end ServiceMesh.Web
