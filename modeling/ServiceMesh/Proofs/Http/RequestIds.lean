-- The texts that can be the id of a request: each of them passes through headers and the entries
-- of remote calls unchanged.
import ServiceMesh.Http.Serving
import ServiceMesh.Text.RandomId

namespace ServiceMesh.Http

/-- A text that can be the id of a request. -/
structure IsRequestId (s : String) : Prop where
  filled : s ≠ ""
  text : isHeaderText s = true

variable {id name value other : String} {m : Rpc.Metadata} {r : Request}

/-! ## Headers -/

theorem isHeaderValue_of_text {s : String} (h : isHeaderText s = true) :
    isHeaderValue s = true := by
  unfold isHeaderText at h
  unfold isHeaderValue
  rw [List.all_eq_true] at h ⊢
  intro c hc
  have hchar := h c hc
  simp only [Bool.or_eq_true, Bool.and_eq_true, decide_eq_true_eq] at hchar ⊢
  exact hchar.imp_right fun ⟨hlow, hhigh⟩ => ⟨hlow, by omega⟩

theorem IsRequestId.headerValue? (h : IsRequestId id) : headerValue? id = some id :=
  if_pos (isHeaderValue_of_text h.text)

/-- The id that a request is served under: the first that came with it if that can be an id, and
a fresh one else. -/
theorem requestId_eq (fresh : String) (r : Request) :
    requestId fresh r = match r.header? "x-request-id" with
      | some value => if value ≠ "" ∧ isHeaderText value = true then value else fresh
      | none => fresh := by
  unfold requestId Request.textHeader?
  cases r.header? "x-request-id" with
  | none => rfl
  | some value =>
    by_cases htext : isHeaderText value = true
    · by_cases hfilled : value = ""
      · subst hfilled
        simp [Option.filter, htext]
      · simp [Option.filter, htext, hfilled]
    · simp [Option.filter, htext]

theorem IsRequestId.requestId {fresh : String} (h : IsRequestId fresh) (r : Request) :
    IsRequestId (requestId fresh r) := by
  rw [requestId_eq]
  split
  · split
    · rename_i value _ hvalue
      exact ⟨hvalue.1, hvalue.2⟩
    · exact h
  · exact h

theorem values_setHeader (r : Request) (name value : String) :
    (r.setHeader name value).values name = [value] := by
  unfold Request.values Request.setHeader
  have hothers : (r.headers.filter (·.1 != name)).filter (·.1 == name) = [] := by
    rw [List.filter_filter, List.filter_eq_nil_iff]
    intro header _
    simp
  rw [List.filter_append, hothers]
  simp

/-! ## Random ids -/

/-- A digit, a letter or a hyphen is a character of header texts. -/
theorem headerChar_of_hex {c : Char} (h : c.isDigit = true ∨ "abcdef".contains c = true ∨ c = '-') :
    32 ≤ c.toNat ∧ c.toNat < 127 := by
  rcases h with hdigit | hletter | rfl
  · obtain ⟨hlow, hhigh⟩ := Char.isDigit_iff_toNat.mp hdigit
    have hzero : '0'.toNat = 48 := rfl
    have hnine : '9'.toNat = 57 := rfl
    omega
  · simp at hletter
    rcases hletter with rfl | rfl | rfl | rfl | rfl | rfl <;> decide
  · decide

/-- A random id can be the id of a request. -/
theorem isRequestId_of_random {s : String} (h : Text.isRandomId s = true) : IsRequestId s := by
  unfold Text.isRandomId at h
  rw [Bool.and_eq_true, List.all_eq_true] at h
  obtain ⟨hlength, hall⟩ := h
  constructor
  · rintro rfl
    cases hlength
  · unfold isHeaderText
    rw [List.all_eq_true]
    intro c hc
    obtain ⟨n, hn⟩ := List.getElem?_of_mem hc
    have hchar := hall (c, n) (List.mem_zipIdx_iff_getElem?.mpr hn)
    have hrange : 32 ≤ c.toNat ∧ c.toNat < 127 := by
      refine headerChar_of_hex ?_
      simp only at hchar
      split at hchar
      · exact Or.inr (Or.inr (by simpa using hchar))
      split at hchar
      · left
        have hfour : c = '4' := by simpa using hchar
        rw [hfour]
        decide
      · rw [Bool.or_eq_true] at hchar
        exact hchar.imp_right Or.inl
    simp [hrange]

/-! ## Entries of remote calls -/

theorem get?_set (h : isHeaderText value = true) (m : Rpc.Metadata) (name : String) :
    (m.set name value).get? name = some value := by
  unfold Rpc.Metadata.set Rpc.Metadata.get?
  rw [if_pos h, List.find?_append, List.find?_eq_none.mpr]
  · simp
  · intro entry hentry
    have hne := (List.mem_filter.mp hentry).2
    simpa using hne

theorem get?_set_ne (h : other ≠ name) (m : Rpc.Metadata) (value : String) :
    (m.set name value).get? other = m.get? other := by
  unfold Rpc.Metadata.set Rpc.Metadata.get?
  split
  · have hlast : [(name, value)].find? (·.1 == other) = none := by simpa using Ne.symm h
    have hothers : ∀ entry : String × String,
        decide ((entry.1 != name) = true ∧ (entry.1 == other) = true) = (entry.1 == other) := by
      intro entry
      by_cases heq : entry.1 = other
      · simp [heq, h]
      · simp [heq]
    rw [List.find?_append, hlast, Option.or_none, List.find?_filter]
    simp only [hothers]
  · rfl

/-- The place in a trace is attached beside the request id. -/
theorem get?_attach (c : Trace.Context) (m : Rpc.Metadata) :
    (c.attach m).get? "x-request-id" = m.get? "x-request-id" := by
  unfold Trace.Context.attach
  split
  · simp only
    split
    · exact get?_set_ne (by decide) _ _
    · rw [get?_set_ne (by decide), get?_set_ne (by decide)]
  · rfl

/-- An id that is sent is read back. -/
theorem IsRequestId.requestId?_propagate (h : IsRequestId id) (span : Option Trace.Context)
    (m : Rpc.Metadata) : (Trace.propagate span (some id) m).requestId? = some id := by
  unfold Rpc.Metadata.requestId? Trace.propagate
  simp only [get?_set h.text]
  simp [h.text]

/-- Where there is no id, none is sent. -/
theorem requestId?_propagate_none (span : Option Trace.Context) (m : Rpc.Metadata) :
    (Trace.propagate span none m).requestId? = m.requestId? := by
  unfold Rpc.Metadata.requestId? Trace.propagate
  cases span with
  | none => rfl
  | some c => simp only [get?_attach]

end ServiceMesh.Http
