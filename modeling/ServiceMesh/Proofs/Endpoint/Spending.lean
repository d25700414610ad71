-- What calls leave of a limiter: as long as nothing is given back, they have used it up
-- one by one, and the rest of them are refused.
import ServiceMesh.Endpoint.Limiter

namespace ServiceMesh.Limiter

/-- A limiter at its present: what is due already, or, before any call, what is due from now. -/
theorem check_eq (l : Limiter) (now due : Nat) (h : l.due.getD (now + l.quota.period) = due) :
    l.check now =
      if now < due - l.quota.period * l.quota.burst then
        .error (due - l.quota.period * l.quota.burst - now)
      else .ok { l with due := some (max due now + l.quota.period) } := by
  rw [← h]
  rfl

/-- Calls come in order, and all within less than one period. -/
structure Brief (period : Nat) (instants : List Nat) : Prop where
  in_order : instants.Pairwise (· ≤ ·)
  soon : ∀ a ∈ instants, ∀ b ∈ instants, b < a + period

theorem Brief.sublist {period : Nat} {few many : List Nat} (h : Brief period many)
    (hs : few.Sublist many) : Brief period few :=
  ⟨h.in_order.sublist hs, fun a ha b hb => h.soon a (hs.mem ha) b (hs.mem hb)⟩

/-- The limiter that calls at some instants leave: nothing is given back before the first of them
is a period old. -/
def spentBy (quota : Quota) (instants : List Nat) : Limiter :=
  ⟨quota, instants.head?.map fun first =>
    first + quota.period * (1 + min quota.burst instants.length)⟩

variable {quota : Quota} {instants : List Nat} {now : Nat}

theorem spentBy_cons (first : Nat) (rest : List Nat) : spentBy quota (first :: rest) =
    ⟨quota, some (first + quota.period * (1 + min quota.burst (rest.length + 1)))⟩ := rfl

theorem check_spentBy_passes (brief : Brief quota.period (instants ++ [now]))
    (h : instants.length < quota.burst) :
    (spentBy quota instants).check now = .ok (spentBy quota (instants ++ [now])) := by
  cases instants with
  | nil =>
    have one : min quota.burst 1 = 1 := Nat.min_eq_right h
    have le : quota.period * 1 ≤ quota.period * quota.burst := Nat.mul_le_mul_left _ h
    rw [check_eq (spentBy quota []) now (now + quota.period) rfl, List.nil_append, spentBy_cons]
    change (if now < now + quota.period - quota.period * quota.burst then _ else _) = _
    rw [if_neg (by omega), List.length_nil, Nat.zero_add, one]
    congr 3
    change max (now + quota.period) now + quota.period = _
    omega
  | cons first rest =>
    have order : first ≤ now :=
      (List.pairwise_append.mp brief.in_order).2.2 first (by simp) now (by simp)
    have soon : now < first + quota.period := brief.soon first (by simp) now (by simp)
    rw [List.length_cons] at h
    have here : min quota.burst (rest.length + 1) = rest.length + 1 := by omega
    have next : min quota.burst (rest.length + 1 + 1) = rest.length + 1 + 1 := by omega
    have le : quota.period * (1 + (rest.length + 1)) ≤ quota.period * quota.burst :=
      Nat.mul_le_mul_left _ (by omega)
    have grows : quota.period * (1 + (rest.length + 1 + 1)) =
        quota.period * (1 + (rest.length + 1)) + quota.period := Nat.mul_succ _ _
    have least : quota.period * 1 ≤ quota.period * (1 + (rest.length + 1)) :=
      Nat.mul_le_mul_left _ (by omega)
    rw [List.cons_append, spentBy_cons, spentBy_cons, List.length_append, List.length_singleton,
      here, next, grows, check_eq _ now _ rfl]
    simp only [Option.getD_some]
    rw [if_neg (by omega)]
    congr 3
    omega

theorem check_spentBy_refuses {first : Nat} (brief : Brief quota.period (instants ++ [now]))
    (hf : instants.head? = some first) (h : quota.burst ≤ instants.length) :
    (spentBy quota instants).check now = .error (first + quota.period - now) ∧
      spentBy quota (instants ++ [now]) = spentBy quota instants := by
  cases instants with
  | nil => cases hf
  | cons first' rest =>
    obtain rfl : first' = first := Option.some.inj hf
    have soon : now < first' + quota.period := brief.soon first' (by simp) now (by simp)
    rw [List.length_cons] at h
    have here : min quota.burst (rest.length + 1) = quota.burst := by omega
    have next : min quota.burst (rest.length + 1 + 1) = quota.burst := by omega
    have whole : quota.period * (1 + quota.burst) =
        quota.period + quota.period * quota.burst := by rw [Nat.mul_add, Nat.mul_one]
    rw [List.cons_append, spentBy_cons, spentBy_cons, List.length_append, List.length_singleton,
      here, next, whole, check_eq _ now _ rfl]
    simp only [Option.getD_some]
    rw [if_pos (by omega), and_true]
    congr 1
    omega

end ServiceMesh.Limiter
