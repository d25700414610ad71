-- What a reader has read when it succeeds. A record is read from an object, each of whose
-- members is read by its field or passed over, or from a list of values in turn.
import Mathlib.Data.List.Forall2
import Mathlib.Data.List.TakeWhile
import ServiceMesh.Proofs.Json.Passing

namespace ServiceMesh.Json.Reader

variable {α β : Type}

/-! ## What success tells -/

/-- A reader comes through some bytes with a value, and leaves the rest. -/
def Gives (r : Reader α) (bytes : List UInt8) (x : α) (rest : List UInt8) : Prop :=
  ∃ offset offset', r ⟨bytes, offset⟩ = .ok x ⟨rest, offset'⟩

variable {r : Reader α} {bytes mid rest : List UInt8} {x : α} {y : β}

theorem Gives.of_bind {f : α → Reader β} (h : Gives (r >>= f) bytes y rest) :
    ∃ x mid, Gives r bytes x mid ∧ Gives (f x) mid y rest := by
  obtain ⟨offset, offset', h⟩ := h
  change EStateM.bind r f ⟨bytes, offset⟩ = _ at h
  unfold EStateM.bind at h
  cases hr : r ⟨bytes, offset⟩ with
  | ok x s =>
    rw [hr] at h
    exact ⟨x, s.rest, ⟨offset, s.offset, hr⟩, s.offset, offset', h⟩
  | error f s =>
    rw [hr] at h
    cases h

theorem Gives.of_map {f : α → β} (h : Gives (f <$> r) bytes y rest) :
    ∃ x, Gives r bytes x rest ∧ y = f x := by
  obtain ⟨offset, offset', h⟩ := h
  change EStateM.map f r ⟨bytes, offset⟩ = _ at h
  unfold EStateM.map at h
  cases hr : r ⟨bytes, offset⟩ with
  | ok x s =>
    rw [hr] at h
    cases h
    exact ⟨x, ⟨offset, offset', hr⟩, rfl⟩
  | error f s =>
    rw [hr] at h
    cases h

theorem Gives.of_pure {x' : α} (h : Gives (pure x') bytes x rest) : x = x' ∧ rest = bytes := by
  obtain ⟨offset, offset', h⟩ := h
  cases h
  exact ⟨rfl, rfl⟩

theorem Gives.of_within {step : Step} (h : Gives (within step r) bytes x rest) :
    Gives r bytes x rest := by
  obtain ⟨offset, offset', h⟩ := h
  unfold within at h
  cases hr : r ⟨bytes, offset⟩ with
  | ok x' s =>
    rw [hr] at h
    cases h
    exact ⟨offset, offset', hr⟩
  | error f s =>
    rw [hr] at h
    cases h

theorem Gives.of_closing {close : Reader Unit} (h : Gives (closing r close) bytes x rest) :
    ∃ mid, Gives r bytes x mid ∧ Gives close mid () rest := by
  obtain ⟨offset, offset', h⟩ := h
  unfold closing at h
  cases hr : r ⟨bytes, offset⟩ with
  | ok x' s =>
    simp only [hr] at h
    cases hclose : close s with
    | ok u s' =>
      rw [hclose] at h
      cases h
      exact ⟨s.rest, ⟨offset, s.offset, hr⟩, s.offset, offset', hclose⟩
    | error f s' =>
      rw [hclose] at h
      cases h
  | error f s =>
    simp only [hr] at h
    cases h

theorem not_gives_fail {c : Cause} : ¬ Gives (fail c : Reader α) bytes x rest := by
  rintro ⟨offset, offset', h⟩
  cases h

theorem not_gives_failNext {c : Cause} : ¬ Gives (failNext c : Reader α) bytes x rest := by
  rintro ⟨offset, offset', h⟩
  cases h

theorem not_gives_failOpen {c : Cause} : ¬ Gives (failOpen c : Reader α) bytes x rest := by
  rintro ⟨offset, offset', h⟩
  cases h

theorem Gives.of_peek {next? : Option UInt8} (h : Gives peek bytes next? rest) :
    next? = bytes.head? ∧ rest = bytes := by
  obtain ⟨offset, offset', h⟩ := h
  cases h
  exact ⟨rfl, rfl⟩

theorem Gives.of_skip (h : Gives skip bytes () rest) : rest = bytes.drop 1 := by
  obtain ⟨offset, offset', h⟩ := h
  cases h
  rfl

/-- Reading goes on behind a byte that is passed. -/
theorem Gives.of_skip_bind {f : Unit → Reader β} (h : Gives (skip >>= f) bytes y rest) :
    Gives (f ()) (bytes.drop 1) y rest := by
  obtain ⟨u, mid, hskip, h⟩ := h.of_bind
  rw [← hskip.of_skip]
  exact h

/-! ## Tokens -/

/-- A byte that is no blank shows where the blanks in front of it end. -/
theorem Blanks.unique {b c : UInt8} {more more' : List UInt8} (h : Blanks bytes (b :: more))
    (h' : Blanks bytes (c :: more')) (hb : isSpace b = false) (hc : isSpace c = false) :
    b = c ∧ more = more' := by
  have heq := (h.reads_peekToken hb).unique (h'.reads_peekToken hc)
  exact ⟨Option.some.inj heq.1, (List.cons.inj heq.2).2⟩

theorem Gives.of_peekToken {next? : Option UInt8} (h : Gives peekToken bytes next? rest) :
    Blanks bytes rest ∧ rest.head? = next? ∧ ∀ b, next? = some b → isSpace b = false := by
  obtain ⟨u, mid, hskip, hpeek⟩ := Gives.of_bind h
  obtain ⟨rfl, rfl⟩ := hpeek.of_peek
  obtain ⟨offset, offset', hskip⟩ := hskip
  cases hskip
  refine ⟨⟨bytes.takeWhile isSpace, ?_, List.takeWhile_append_dropWhile.symm⟩, rfl, ?_⟩
  · intro b hb
    simpa using List.mem_takeWhile_imp hb
  · intro b hb
    cases hdrop : bytes.dropWhile isSpace with
    | nil =>
      rw [hdrop] at hb
      cases hb
    | cons c more =>
      rw [hdrop] at hb
      cases hb
      have hne : bytes.dropWhile isSpace ≠ [] := by simp [hdrop]
      have hhead := List.head_dropWhile_not isSpace hne
      simpa [hdrop] using hhead

/-- What shows a byte stands in front of it. -/
theorem Gives.of_shown {b : UInt8} (h : Gives peekToken bytes (some b) rest) :
    ∃ more, rest = b :: more ∧ Blanks bytes (b :: more) ∧ isSpace b = false := by
  obtain ⟨hblanks, hhead, hspace⟩ := h.of_peekToken
  cases rest with
  | nil => cases hhead
  | cons c more =>
    cases hhead
    exact ⟨more, rfl, hblanks, hspace _ rfl⟩

theorem Gives.of_token {b : UInt8} (h : Gives token bytes b rest) :
    ∃ more, rest = b :: more ∧ Blanks bytes (b :: more) ∧ isSpace b = false := by
  obtain ⟨next?, mid, hpeek, hrest⟩ := Gives.of_bind h
  cases next? with
  | none => exact absurd hrest not_gives_fail
  | some c =>
    obtain ⟨rfl, rfl⟩ := hrest.of_pure
    exact hpeek.of_shown

theorem not_gives_bind {f : α → Reader β} (h : ∀ x mid, ¬ Gives (f x) mid y rest) :
    ¬ Gives (r >>= f) bytes y rest := by
  intro hbind
  obtain ⟨x, mid, -, hf⟩ := hbind.of_bind
  exact h x mid hf

theorem not_gives_wrongType {expected : String} :
    ¬ Gives (wrongType expected : Reader α) bytes x rest := by
  unfold wrongType
  refine not_gives_bind fun next? mid => ?_
  cases next? with
  | none => exact not_gives_fail
  | some b =>
    simp only
    split
    · exact not_gives_bind fun _ _ => not_gives_bind fun _ _ => not_gives_fail
    split
    · exact not_gives_bind fun _ _ => not_gives_bind fun _ _ => not_gives_fail
    split
    · exact not_gives_bind fun _ _ => not_gives_bind fun _ _ => not_gives_fail
    split
    · exact not_gives_bind fun _ _ => not_gives_bind fun _ _ => not_gives_fail
    split
    · refine not_gives_bind fun j mid' => ?_
      split <;> exact not_gives_fail
    split
    · exact not_gives_fail
    split
    · exact not_gives_fail
    · exact not_gives_failNext

/-- Only a quote begins a text. -/
theorem Gives.of_text {s expected : String} (h : Gives (text expected) bytes s rest) :
    ∃ more, Blanks bytes (34 :: more) ∧ Gives textBody more s rest := by
  unfold text at h
  obtain ⟨b, mid, htoken, h⟩ := h.of_bind
  obtain ⟨more, rfl, hblanks, -⟩ := htoken.of_token
  split at h
  · rename_i heq
    subst heq
    exact ⟨more, hblanks, h.of_skip_bind⟩
  · exact absurd h not_gives_wrongType

/-! ## Marks of objects and lists -/

theorem Gives.of_nextKey {first more? : Bool} (h : Gives (nextKey first) bytes more? rest) :
    (more? = true ∧ ∃ b₁ b₂, Blanks bytes (mark first ++ b₁) ∧ Blanks b₁ (34 :: b₂) ∧
        rest = 34 :: b₂) ∨
      (more? = false ∧ ∃ b, rest = 125 :: b ∧ Blanks bytes (125 :: b)) := by
  unfold nextKey at h
  obtain ⟨next?, mid, hpeek, hnext⟩ := h.of_bind
  clear h
  cases next? with
  | none => exact absurd hnext not_gives_fail
  | some b =>
    obtain ⟨more, rfl, hblanks, -⟩ := hpeek.of_shown
    simp only at hnext
    split at hnext
    · rename_i heq
      subst heq
      obtain ⟨rfl, rfl⟩ := hnext.of_pure
      exact Or.inr ⟨rfl, more, rfl, hblanks⟩
    cases first with
    | false =>
      simp only [Bool.not_false, Bool.and_true, decide_eq_true_eq, if_true] at hnext
      split at hnext
      · rename_i heq
        subst heq
        obtain ⟨next?, mid, hpeek, hkey⟩ := hnext.of_skip_bind.of_bind
        split at hkey
        · obtain ⟨b₂, rfl, hquote, -⟩ := hpeek.of_shown
          obtain ⟨rfl, rfl⟩ := hkey.of_pure
          exact Or.inl ⟨rfl, more, b₂, hblanks, hquote, rfl⟩
        · exact absurd hkey not_gives_failNext
        · exact absurd hkey not_gives_failNext
        · exact absurd hkey not_gives_fail
      · exact absurd hnext not_gives_failNext
    | true =>
      simp only [Bool.not_true, Bool.and_false, Bool.false_eq_true, if_false] at hnext
      split at hnext
      · rename_i heq
        subst heq
        obtain ⟨rfl, rfl⟩ := hnext.of_pure
        exact Or.inl ⟨rfl, 34 :: more, more, hblanks, blanks_refl _, rfl⟩
      · exact absurd hnext not_gives_failNext

theorem Gives.of_colon (h : Gives colon bytes () rest) : Blanks bytes (58 :: rest) := by
  unfold colon at h
  obtain ⟨next?, mid, hpeek, h⟩ := h.of_bind
  split at h
  · obtain ⟨more, rfl, hblanks, -⟩ := hpeek.of_shown
    rw [h.of_skip]
    exact hblanks
  · exact absurd h not_gives_failNext
  · exact absurd h not_gives_fail

theorem Gives.of_objectEnd (h : Gives objectEnd bytes () rest) : Blanks bytes (125 :: rest) := by
  unfold objectEnd at h
  obtain ⟨next?, mid, hpeek, h⟩ := h.of_bind
  split at h
  · obtain ⟨more, rfl, hblanks, -⟩ := hpeek.of_shown
    rw [h.of_skip]
    exact hblanks
  · exact absurd h not_gives_failNext
  · exact absurd h not_gives_failNext
  · exact absurd h not_gives_fail

/-- Behind the bracket of a list stands its end, or its first item. -/
theorem Gives.of_nextItem {more? : Bool} (h : Gives (nextItem true) bytes more? rest) :
    ∃ b more, rest = b :: more ∧ Blanks bytes (b :: more) ∧ isSpace b = false := by
  unfold nextItem at h
  obtain ⟨next?, mid, hpeek, h⟩ := h.of_bind
  cases next? with
  | none => exact absurd h not_gives_fail
  | some b =>
    obtain ⟨more, rfl, hshown⟩ := hpeek.of_shown
    simp only [Bool.not_true, Bool.and_false, Bool.false_eq_true, if_false, if_true] at h
    split at h
    · obtain ⟨-, rfl⟩ := h.of_pure
      exact ⟨b, more, rfl, hshown⟩
    · obtain ⟨-, rfl⟩ := h.of_pure
      exact ⟨b, more, rfl, hshown⟩

theorem Gives.of_finish (h : Gives finish bytes () rest) : Blanks bytes [] := by
  unfold finish at h
  obtain ⟨next?, mid, hpeek, h⟩ := h.of_bind
  cases next? with
  | none =>
    obtain ⟨hblanks, hhead, -⟩ := hpeek.of_peekToken
    rw [List.head?_eq_none_iff.mp hhead] at hblanks
    exact hblanks
  | some b => exact absurd h not_gives_failNext

theorem gives_of_fromAll (h : fromAll r bytes = .ok x) :
    ∃ rest, Gives r bytes x rest ∧ Blanks rest [] := by
  unfold fromAll fromFront at h
  split at h
  · rename_i x' s hread
    cases h
    have hboth : Gives (do let a ← r; finish; pure a) bytes x s.rest := ⟨0, s.offset, hread⟩
    obtain ⟨x', mid, hr, hrest⟩ := hboth.of_bind
    obtain ⟨u, mid', hfinish, hpure⟩ := hrest.of_bind
    obtain ⟨rfl, -⟩ := hpure.of_pure
    exact ⟨mid, hr, hfinish.of_finish⟩
  · cases h

/-! ## Objects -/

/-- Behind the brace of an object: its members, up to its end. Each is a key with what is read
of its value: what the reader of that field reads, or nothing if no field has that name. -/
inductive Members (fields : List Field) :
    (first : Bool) → List UInt8 → List (String × Option Json) → List UInt8 → Prop
  | done {first : Bool} {bytes rest : List UInt8} (h : Blanks bytes (125 :: rest)) :
    Members fields first bytes [] rest
  | asked {first : Bool} {bytes b₁ b₂ b₃ b₄ b₅ rest : List UInt8} {key : String} {field : Field}
      {x : Json} {ms : List (String × Option Json)} (hmark : Blanks bytes (mark first ++ b₁))
      (hquote : Blanks b₁ (34 :: b₂)) (hkey : Gives textBody b₂ key b₃)
      (hcolon : Blanks b₃ (58 :: b₄)) (hfield : fields.find? (·.name == key) = some field)
      (hvalue : Gives field.read b₄ x b₅) (more : Members fields false b₅ ms rest) :
    Members fields first bytes ((key, some x) :: ms) rest
  | passed {first : Bool} {bytes b₁ b₂ b₃ b₄ b₅ rest : List UInt8} {key : String}
      {ms : List (String × Option Json)} (hmark : Blanks bytes (mark first ++ b₁))
      (hquote : Blanks b₁ (34 :: b₂)) (hkey : Gives textBody b₂ key b₃)
      (hcolon : Blanks b₃ (58 :: b₄)) (hfield : fields.find? (·.name == key) = none)
      (hvalue : Gives skipValue b₄ () b₅) (more : Members fields false b₅ ms rest) :
    Members fields first bytes ((key, none) :: ms) rest

section Record

variable {fields : List Field}

/-- What is read of a member, the reader of its field has read. -/
theorem Members.read {first : Bool} {ms : List (String × Option Json)} {key : String} {x : Json}
    (h : Members fields first bytes ms rest) (hm : (key, some x) ∈ ms) :
    ∃ field b₁ b₂, fields.find? (·.name == key) = some field ∧ Gives field.read b₁ x b₂ := by
  induction h with
  | done hend => cases hm
  | asked hmark hquote hkey hcolon hfield hvalue more ih =>
    rcases List.mem_cons.mp hm with heq | hm
    · cases heq
      exact ⟨_, _, _, hfield, hvalue⟩
    · exact ih hm
  | passed hmark hquote hkey hcolon hfield hvalue more ih =>
    rcases List.mem_cons.mp hm with heq | hm
    · cases heq
    · exact ih hm

/-- What a record has found in an object are members of it. Reading may stop for want of fuel, but
then no more stands there than the end. -/
theorem Gives.of_recordTail {fuel : Nat} {first : Bool} {seen found : List (String × Json)}
    (h : Gives (recordTail fields first seen fuel) bytes found mid)
    (hend : Blanks mid (125 :: rest)) :
    ∃ ms, Members fields first bytes ms rest ∧
      ∀ f ∈ found, f ∈ seen ∨ (f.1, some f.2) ∈ ms := by
  induction fuel generalizing first seen bytes with
  | zero =>
    obtain ⟨rfl, rfl⟩ := h.of_pure
    exact ⟨[], .done hend, fun f hf => Or.inl hf⟩
  | succ fuel ih =>
    unfold recordTail at h
    obtain ⟨more?, b₀, hnext, h⟩ := h.of_bind
    rcases hnext.of_nextKey with ⟨rfl, b₁, b₂, hmark, hquote, rfl⟩ | ⟨rfl, b, rfl, hblanks⟩
    · simp only [if_true] at h
      obtain ⟨key, b₃, hkey, h⟩ := h.of_skip_bind.of_bind
      cases hfield : fields.find? (·.name == key) with
      | some field =>
        simp only [hfield] at h
        split at h
        · exact absurd h not_gives_failOpen
        · obtain ⟨u, b₄, hcolon, h⟩ := h.of_bind
          obtain ⟨x, b₅, hvalue, h⟩ := h.of_bind
          obtain ⟨ms, hms, hfound⟩ := ih h
          refine ⟨(key, some x) :: ms, .asked hmark hquote hkey hcolon.of_colon hfield
            hvalue.of_within hms, ?_⟩
          intro f hf
          rcases hfound f hf with hf | hf
          · rcases List.mem_cons.mp hf with rfl | hf
            · exact Or.inr List.mem_cons_self
            · exact Or.inl hf
          · exact Or.inr (List.mem_cons_of_mem _ hf)
      | none =>
        simp only [hfield] at h
        obtain ⟨u, b₄, hcolon, h⟩ := h.of_bind
        obtain ⟨v, b₅, hvalue, h⟩ := h.of_bind
        obtain ⟨ms, hms, hfound⟩ := ih h
        refine ⟨(key, none) :: ms, .passed hmark hquote hkey hcolon.of_colon hfield
          hvalue.of_within hms, ?_⟩
        intro f hf
        exact (hfound f hf).imp_right (List.mem_cons_of_mem _)
    · obtain ⟨rfl, rfl⟩ := h.of_pure
      have hblank : Blanks bytes (125 :: rest) := hblanks.trans hend
      exact ⟨[], .done hblank, fun f hf => Or.inl hf⟩

/-- Every field of a record that is complete has a value there, in turn. A field that has to be
there was found. -/
theorem Gives.of_complete {seen values : List (String × Json)}
    (h : Gives (complete seen fields) bytes values rest) :
    List.Forall₂ (fun field v => v.1 = field.name ∧
      (v ∈ seen ∨ field.absent = .null ∨ ∃ x, field.absent = .standsFor x)) fields values := by
  induction fields generalizing values with
  | nil =>
    obtain ⟨rfl, -⟩ := h.of_pure
    exact .nil
  | cons field more ih =>
    unfold complete at h
    split at h
    · rename_i found hfound
      obtain ⟨vs, hvs, rfl⟩ := h.of_map
      refine .cons ⟨?_, Or.inl (List.mem_of_find?_eq_some hfound)⟩ (ih hvs)
      simpa using List.find?_some hfound
    · rename_i x hnone habsent
      obtain ⟨vs, hvs, rfl⟩ := h.of_map
      exact .cons ⟨rfl, Or.inr (Or.inr ⟨x, habsent⟩)⟩ (ih hvs)
    · rename_i hnone habsent
      obtain ⟨vs, hvs, rfl⟩ := h.of_map
      exact .cons ⟨rfl, Or.inr (Or.inl habsent)⟩ (ih hvs)
    · exact absurd h not_gives_failOpen

theorem Gives.of_complete_rest {seen values : List (String × Json)}
    (h : Gives (complete seen fields) bytes values rest) : rest = bytes := by
  induction fields generalizing values with
  | nil => exact h.of_pure.2
  | cons field more ih =>
    unfold complete at h
    split at h
    · obtain ⟨vs, hvs, -⟩ := h.of_map
      exact ih hvs
    · obtain ⟨vs, hvs, -⟩ := h.of_map
      exact ih hvs
    · obtain ⟨vs, hvs, -⟩ := h.of_map
      exact ih hvs
    · exact absurd h not_gives_failOpen

/-- The values of a list stand for the fields in turn. -/
theorem Gives.of_positional_names {expected : String} {index : Nat}
    {values : List (String × Json)}
    (h : Gives (positional expected index fields) bytes values rest) :
    values.map (·.1) = fields.map (·.name) := by
  induction fields generalizing index bytes values with
  | nil =>
    obtain ⟨rfl, -⟩ := h.of_pure
    rfl
  | cons field more ih =>
    unfold positional at h
    obtain ⟨more?, b, -, h⟩ := h.of_bind
    split at h
    · obtain ⟨x, b', -, h⟩ := h.of_bind
      obtain ⟨vs, hvs, rfl⟩ := h.of_map
      simp only [List.map_cons, ih hvs]
    · split at h
      · obtain ⟨vs, hvs, rfl⟩ := h.of_map
        simp only [List.map_cons, ih hvs]
      · exact absurd h not_gives_failOpen

/-- The first value of a list is read where the first item begins, or is what stands for the
field when the list is over. -/
theorem Gives.of_positional_first {expected : String} {field : Field}
    {values : List (String × Json)}
    (h : Gives (positional expected 0 (field :: fields)) bytes values rest) :
    ∃ x vs, values = (field.name, x) :: vs ∧
      ((∃ b more end', Blanks bytes (b :: more) ∧ isSpace b = false ∧
          Gives field.read (b :: more) x end') ∨
        field.absent = .standsFor x) := by
  unfold positional at h
  obtain ⟨more?, mid, hnext, h⟩ := h.of_bind
  obtain ⟨b, more, rfl, hblanks, hspace⟩ := hnext.of_nextItem
  split at h
  · obtain ⟨x, end', hvalue, h⟩ := h.of_bind
    obtain ⟨vs, -, rfl⟩ := h.of_map
    exact ⟨x, vs, rfl, Or.inl ⟨b, more, end', hblanks, hspace, hvalue.of_within⟩⟩
  · split at h
    · rename_i x habsent
      obtain ⟨vs, -, rfl⟩ := h.of_map
      exact ⟨x, vs, rfl, Or.inr habsent⟩
    · exact absurd h not_gives_failOpen

/-- A record is read from an object, its fields from members of it, or from a list. -/
theorem Gives.of_record {name : String} {j : Json} (h : Gives (record name fields) bytes j rest) :
    (∃ b ms found values, Blanks bytes (123 :: b) ∧ Members fields true b ms rest ∧
        (∀ f ∈ found, (f.1, some f.2) ∈ ms) ∧
        (∃ mid, Gives (complete found fields) mid values mid) ∧ j = .object values) ∨
      (∃ b mid expected values, Blanks bytes (91 :: b) ∧
        Gives (positional expected 0 fields) b values mid ∧ j = .object values) := by
  unfold record at h
  obtain ⟨b, mid, htoken, h⟩ := h.of_bind
  obtain ⟨more, rfl, hblanks, -⟩ := htoken.of_token
  split at h
  · obtain ⟨mid, hinside, hclose⟩ := h.of_closing
    obtain ⟨n, b₂, hremaining, h⟩ := hinside.of_skip_bind.of_bind
    obtain ⟨offset, offset', hremaining⟩ := hremaining
    cases hremaining
    obtain ⟨found, b₃, htail, h⟩ := h.of_bind
    obtain ⟨values, hcomplete, rfl⟩ := h.of_map
    -- Completing a record reads nothing, so the end of the object stands where its members end.
    have hsame : mid = b₃ := hcomplete.of_complete_rest
    subst hsame
    obtain ⟨ms, hms, hfound⟩ := htail.of_recordTail hclose.of_objectEnd
    refine Or.inl ⟨more, ms, found, values, hblanks, hms, ?_, ⟨mid, hcomplete⟩, rfl⟩
    intro f hf
    exact (hfound f hf).resolve_left (List.not_mem_nil)
  · obtain ⟨mid, hinside, -⟩ := h.of_closing
    obtain ⟨values, hvalues, rfl⟩ := hinside.of_skip_bind.of_map
    exact Or.inr ⟨more, mid, _, values, hblanks, hvalues, rfl⟩
  · exact absurd h not_gives_wrongType

end Record

end ServiceMesh.Json.Reader
