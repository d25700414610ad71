-- Calls of the agent that keeps a registry: what is sent, and what a reply is taken for.
import ServiceMesh.Registry.Consul
import ServiceMesh.Registry.Memory

namespace ServiceMesh.Consul

variable {network : Web.Network} {c : Consul}

/-! ## Sending -/

/-- Something was sent, and whoever answered did not say no. -/
theorem send_eq_ok {request : Except Web.Fault Web.Request} {reply : Web.Reply} :
    send network request = .ok reply ↔
      ∃ r, request = .ok r ∧ network r = some reply ∧ reply.status < 400 := by
  unfold send
  constructor
  · intro h
    cases request with
    | error f => cases h
    | ok r =>
      refine ⟨r, rfl, ?_⟩
      simp only [Web.Request.send] at h
      cases hreply : network r with
      | none =>
        rw [hreply] at h
        cases h
      | some sent =>
        rw [hreply] at h
        by_cases hno : 400 ≤ sent.status
        · simp only [if_pos hno] at h
          cases h
        · simp only [if_neg hno] at h
          cases h
          exact ⟨rfl, Nat.lt_of_not_le hno⟩
  · rintro ⟨r, rfl, hreply, hstatus⟩
    simp only [Web.Request.send, hreply, if_neg (Nat.not_le_of_lt hstatus)]

/-! ## Queries -/

/-- A query is sent without an index and without a time to wait. -/
def AtOnce (c : Consul) (q : Query) : Prop :=
  ∀ p ∈ c.queryParameters q.passingOnly q.waitIndex, p.1 ≠ "index" ∧ p.1 ≠ "wait"

theorem atOnce_iff {q : Query} : c.AtOnce q ↔ q.waitIndex = 0 := by
  unfold AtOnce queryParameters
  constructor
  · intro h
    refine Nat.eq_zero_of_not_pos ?_
    intro hpos
    rw [if_pos hpos] at h
    exact (h ("index", toString q.waitIndex) (by simp)).1 rfl
  · intro hwaits p hp
    rw [hwaits, if_neg (Nat.lt_irrefl 0), List.append_nil] at hp
    by_cases hpassing : q.passingOnly = true
    · rw [if_pos hpassing, List.mem_singleton] at hp
      subst hp
      decide
    · rw [if_neg hpassing] at hp
      cases hp

/-! ## Replies -/

/-- How far the registry has come, where a reply says so in a way that can be read. -/
def named? (reply : Web.Reply) : Option Nat :=
  (reply.textHeader? indexHeader).bind fun text => (Text.readNatural 64 text).toOption

theorem indexOf_eq (reply : Web.Reply) (waitIndex : Nat) :
    indexOf reply waitIndex = (named? reply).getD waitIndex := by
  unfold indexOf named?
  cases reply.textHeader? indexHeader with
  | none => rfl
  | some text =>
    rw [Option.map_some, Option.bind_some]
    cases Text.readNatural 64 text <;> rfl

/-- A query has a reply that tells of instances. The index is the one that the reply names; if
it names none, the one that was asked with. -/
structure Hears (network : Web.Network) (c : Consul) (q : Query) (reply : Web.Reply)
    (found : List Instance) (told : Nat) : Prop where
  sent : ∃ r, c.queryRequest q.service q.passingOnly q.waitIndex = .ok r ∧ network r = some reply
  accepted : reply.status < 400
  listed : entries reply.body = .ok found
  told : told = (named? reply).getD q.waitIndex

theorem instances_eq_ok {q : Query} {found : List Instance} {told : Nat} :
    c.instances network q.service q.passingOnly q.waitIndex = .ok (found, told) ↔
      ∃ reply, Hears network c q reply found told := by
  unfold instances
  constructor
  · intro h
    cases hsend : send network (c.queryRequest q.service q.passingOnly q.waitIndex) with
    | error f =>
      rw [hsend] at h
      cases h
    | ok reply =>
      obtain ⟨r, hr, hreply, hstatus⟩ := send_eq_ok.mp hsend
      rw [hsend] at h
      simp only [bind, Except.bind] at h
      cases hentries : entries reply.body with
      | error f =>
        rw [hentries] at h
        cases h
      | ok listed =>
        rw [hentries] at h
        cases h
        exact ⟨reply, ⟨r, hr, hreply⟩, hstatus, hentries, indexOf_eq _ _⟩
  · rintro ⟨reply, ⟨r, hr, hreply⟩, hstatus, hentries, rfl⟩
    have hsend := send_eq_ok.mpr ⟨r, hr, hreply, hstatus⟩
    simp only [bind, Except.bind, hsend, hentries, ← indexOf_eq]
    rfl

end ServiceMesh.Consul
