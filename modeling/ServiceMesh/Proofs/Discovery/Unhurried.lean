-- A watch on an agent, which may say how far its registry has come or not: which of its
-- queries wait for a change, and when one that does not wait comes right after another.
import Mathlib
import ServiceMesh.Proofs.Discovery.Rounds
import ServiceMesh.Proofs.Registry.Calls

namespace ServiceMesh

/-! ## Agents as sources -/

/-- A network with an agent in it, and when the query in flight is answered, if ever. -/
structure Agent where
  network : Web.Network
  due? : Option Instant

/-- Queries go to the agent, whose network may be another one each time. -/
def Consul.source (c : Consul) : Source Agent where
  ask := fun _ _ a => .ok a
  due := fun _ _ a => a.due?
  answer := fun q a => (c.instances a.network q.service q.passingOnly q.waitIndex, a)

/-! ## Queries in their order -/

namespace Round

variable {service : String}

/-- A round is asked with what the one before it leads to. -/
theorem InTurn.query_after {rounds : List Round} (h : InTurn service rounds) {i : Nat}
    {r after : Round} (hr : rounds[i]? = some r) (hafter : rounds[i + 1]? = some after) :
    after.query = ⟨service, true, r.next⟩ := by
  induction h with
  | nil => cases hr
  | @snoc past last hpast hquery _ _ ih =>
    have hin : i + 1 < past.length ∨ i + 1 = past.length := by
      have hlt := (List.getElem?_eq_some_iff.mp hafter).1
      rw [List.length_append, List.length_singleton] at hlt
      omega
    obtain hin | hend := hin
    · rw [List.getElem?_append_left (by omega)] at hr
      rw [List.getElem?_append_left hin] at hafter
      exact ih hr hafter
    · rw [List.getElem?_append_left (by omega)] at hr
      rw [hend, List.getElem?_concat_length] at hafter
      cases hafter
      have hlast : past.getLast? = some r := by
        rw [List.getLast?_eq_getElem?, ← hr]
        congr 1
        omega
      rw [hquery, nextAfter, hlast]
      rfl

theorem InTurn.first_query {rounds : List Round} (h : InTurn service rounds) {r : Round}
    (hr : rounds.head? = some r) : r.query = ⟨service, true, 0⟩ := by
  induction h with
  | nil => cases hr
  | @snoc past last hpast hquery _ _ ih =>
    cases past with
    | nil =>
      cases hr
      exact hquery
    | cons first rest => exact ih hr

end Round

namespace Diary

variable {σ : Type} {s : Source σ} {service : String} {d : Diary σ}

/-- All queries of a watch: those that were answered, and the one in flight. -/
def queries (d : Diary σ) : List Query := d.rounds.map (·.query) ++ d.work.watch.query?.toList

/-- A query is the next one after a round. -/
def Follows (d : Diary σ) (r : Round) (q : Query) : Prop :=
  ∃ i, d.rounds[i]? = some r ∧ d.queries[i + 1]? = some q

theorem query_at {i : Nat} {r : Round} (hr : d.rounds[i]? = some r) :
    d.queries[i]? = some r.query := by
  have hi : i < d.rounds.length := (List.getElem?_eq_some_iff.mp hr).1
  unfold queries
  rw [List.getElem?_append_left (by simpa using hi), List.getElem?_map, hr]
  rfl

/-- Only one query is in flight: all before the last have their answers. -/
theorem exists_round_before {i : Nat} {q : Query} (hq : d.queries[i + 1]? = some q) :
    ∃ r, d.rounds[i]? = some r := by
  have hlt := (List.getElem?_eq_some_iff.mp hq).1
  have hflight : d.work.watch.query?.toList.length ≤ 1 := by
    cases d.work.watch.query? <;> simp
  unfold queries at hlt
  rw [List.length_append, List.length_map] at hlt
  exact ⟨_, List.getElem?_eq_getElem (by omega)⟩

theorem Kept.query_of_follows (k : Kept service d) {r : Round} {q : Query} (h : d.Follows r q) :
    q = ⟨service, true, r.next⟩ := by
  obtain ⟨i, hr, hq⟩ := h
  have hi : i < d.rounds.length := (List.getElem?_eq_some_iff.mp hr).1
  unfold queries at hq
  by_cases hin : i + 1 < d.rounds.length
  · rw [List.getElem?_append_left (by simpa using hin), List.getElem?_map] at hq
    obtain ⟨after, hafter, rfl⟩ := Option.map_eq_some_iff.mp hq
    exact k.rounds.query_after hr hafter
  · have hend : i + 1 = d.rounds.length := by omega
    rw [List.getElem?_append_right (by simp [hend]), List.length_map, hend, Nat.sub_self] at hq
    have hflight : d.work.watch.query? = some q := by
      cases hw : d.work.watch.query? with
      | none => simp [hw] at hq
      | some flying => simpa [hw] using hq
    obtain ⟨hstage, hquery⟩ := Watch.query?_eq_some hflight
    have hlast : d.rounds.getLast? = some r := by
      rw [List.getLast?_eq_getElem?, ← hr, ← hend, Nat.add_sub_cancel]
    rw [hquery, k.named, (k.asking _ hstage).1, Round.nextAfter, hlast]
    rfl

/-- Every answer was given by the source, as it stood when it answered. -/
def Answered (s : Source σ) (d : Diary σ) : Prop :=
  ∀ r ∈ d.rounds, ∃ source, r.answer = (s.answer r.query source).1

theorem answered_turn (h : Answered s d) (e : Event σ) : Answered s (d.turn s e) := by
  have moves := turn_moves s d e
  generalize d.turn s e = after at moves
  cases moves with
  | stays work hw hnow => exact h
  | wakes work index wake hstage hwake hw => exact h
  | hears work q hq hnow hw =>
    intro r hr
    rw [List.mem_append, List.mem_singleton] at hr
    obtain hr | rfl := hr
    · exact h r hr
    · exact ⟨d.work.source, rfl⟩

theorem answered_run (h : Answered s d) (events : List (Event σ)) :
    Answered s (d.run s events) := by
  induction events using List.reverseRecOn with
  | nil => exact h
  | append_singleton past e ih =>
    rw [run_snoc]
    exact answered_turn ih e

/-! ## The law -/

section Law

variable (c : Consul)

/-- After its first query, a watch that hears of instances asks at once only if the index that
it was told lies below the one it had asked with. -/
def Unhurried (d : Diary Agent) : Prop :=
  ∀ r q, d.Follows r q → ∀ found told, r.answer = .ok (found, told) →
    c.AtOnce q → told < r.query.waitIndex

/-- Of two queries with instances heard of in between, one waits for a change. -/
def Rested (d : Diary Agent) : Prop :=
  ∀ r q, d.Follows r q → ∀ found told, r.answer = .ok (found, told) →
    ¬ (c.AtOnce r.query ∧ c.AtOnce q)

/-- So far every reply told of instances, and none of an index above 0. -/
def Silent (d : Diary Agent) : Prop :=
  ∀ r ∈ d.rounds, ∃ network reply found told, r.answer = .ok (found, told) ∧
    Consul.Hears network c r.query reply found told ∧ (Consul.named? reply).getD 0 = 0

/-- How a watch comes to ask at once. -/
structure Paced (d : Diary Agent) : Prop where
  /-- An index is what a reply names, and without a name the one that was asked with. -/
  heard : ∀ r ∈ d.rounds, ∀ found told, r.answer = .ok (found, told) →
    ∃ network reply, Consul.Hears network c r.query reply found told
  /-- The first query is asked at once. -/
  first : ∀ q, d.queries.head? = some q → c.AtOnce q
  /-- Another one is if the index went back, and if it was still not told one. -/
  at_once_iff : ∀ r q, d.Follows r q → ∀ found told, r.answer = .ok (found, told) →
    (c.AtOnce q ↔ told < r.query.waitIndex ∨ c.AtOnce r.query ∧ told = 0)
  /-- So a watch hurries exactly if a reply to a query that was asked at once names no index,
  or names 0. -/
  unhurried_iff : d.Unhurried c ↔ ∀ r q, d.Follows r q → c.AtOnce r.query →
    ∀ found told, r.answer = .ok (found, told) → 0 < told
  rested_iff : d.Rested c ↔ d.Unhurried c
  /-- As long as no reply names one, no query waits. -/
  spins : d.Silent c → ∀ q ∈ d.queries, c.AtOnce q

variable {c} {d : Diary Agent}

theorem at_once_of_kept (k : Kept service d) {r : Round} {q : Query} (h : d.Follows r q)
    {found : List Instance} {told : Nat} (hanswer : r.answer = .ok (found, told)) :
    c.AtOnce q ↔ told < r.query.waitIndex ∨ c.AtOnce r.query ∧ told = 0 := by
  rw [Consul.atOnce_iff, Consul.atOnce_iff, k.query_of_follows h]
  simp only [Round.next, hanswer]
  split <;> omega

theorem unhurried_of_kept (k : Kept service d) :
    d.Unhurried c ↔ ∀ r q, d.Follows r q → c.AtOnce r.query →
      ∀ found told, r.answer = .ok (found, told) → 0 < told := by
  constructor
  · intro h r q hfollows hr found told hanswer
    refine Nat.pos_of_ne_zero ?_
    intro hnone
    have hq : c.AtOnce q := (at_once_of_kept k hfollows hanswer).mpr (Or.inr ⟨hr, hnone⟩)
    have hback := h r q hfollows found told hanswer hq
    rw [Consul.atOnce_iff.mp hr] at hback
    exact Nat.not_lt_zero _ hback
  · intro h r q hfollows found told hanswer hq
    obtain hback | ⟨hr, hnone⟩ := (at_once_of_kept k hfollows hanswer).mp hq
    · exact hback
    · exact absurd hnone (Nat.ne_of_gt (h r q hfollows hr found told hanswer))

theorem rested_of_kept (k : Kept service d) : d.Rested c ↔ d.Unhurried c := by
  constructor
  · intro h r q hfollows found told hanswer hq
    obtain hback | ⟨hr, -⟩ := (at_once_of_kept k hfollows hanswer).mp hq
    · exact hback
    · exact absurd ⟨hr, hq⟩ (h r q hfollows found told hanswer)
  · intro h r q hfollows found told hanswer ⟨hr, hq⟩
    have hback := h r q hfollows found told hanswer hq
    rw [Consul.atOnce_iff.mp hr] at hback
    exact Nat.not_lt_zero _ hback

theorem first_of_kept (k : Kept service d) {q : Query} (h : d.queries.head? = some q) :
    c.AtOnce q := by
  rw [Consul.atOnce_iff]
  unfold queries at h
  cases hrounds : d.rounds with
  | nil =>
    have hflight : d.work.watch.query? = some q := by
      rw [hrounds] at h
      cases hw : d.work.watch.query? with
      | none => simp [hw] at h
      | some flying => simpa [hw] using h
    rw [(k.asking _ (Watch.query?_eq_some hflight).1).1, hrounds]
    rfl
  | cons r rest =>
    rw [hrounds] at h
    cases h
    have hfirst : r.query = ⟨service, true, 0⟩ := k.rounds.first_query (by rw [hrounds]; rfl)
    exact congrArg Query.waitIndex hfirst

theorem spins_of_kept (k : Kept service d) (silent : d.Silent c) :
    ∀ q ∈ d.queries, c.AtOnce q := by
  have hall (i : Nat) : ∀ q, d.queries[i]? = some q → c.AtOnce q := by
    induction i with
    | zero =>
      intro q hq
      exact first_of_kept k (List.head?_eq_getElem?.trans hq)
    | succ i ih =>
      intro q hq
      obtain ⟨r, hr⟩ := exists_round_before hq
      obtain ⟨network, reply, found, told, hanswer, hears, hnone⟩ :=
        silent r (List.mem_of_getElem? hr)
      have hbefore : c.AtOnce r.query := ih r.query (query_at hr)
      refine (at_once_of_kept k ⟨i, hr, hq⟩ hanswer).mpr (Or.inr ⟨hbefore, ?_⟩)
      rw [hears.told, Consul.atOnce_iff.mp hbefore]
      exact hnone
  intro q hq
  obtain ⟨i, hi⟩ := List.mem_iff_getElem?.mp hq
  exact hall i q hi

end Law

/-- A watch on an agent waits for a change with every query but the first, those after an index
that went back, and those after answers to such queries that name no index. -/
theorem a_watch_hurries_until_it_is_told_an_index (c : Consul) (service : String) (a : Agent)
    (now : Instant) (events : List (Event Agent)) :
    Paced c ((fresh service a now).run c.source events) := by
  have kept := kept_run c.source (kept_fresh service a now) events
  have none_yet : Answered c.source (fresh service a now) := by
    intro r hr
    cases hr
  have answered := answered_run none_yet events
  refine ⟨?_, fun _ => first_of_kept kept, fun _ _ h _ _ => at_once_of_kept kept h,
    unhurried_of_kept kept, rested_of_kept kept, spins_of_kept kept⟩
  intro r hr found told hanswer
  obtain ⟨agent, hagent⟩ := answered r hr
  have hinstances : c.instances agent.network r.query.service r.query.passingOnly
      r.query.waitIndex = .ok (found, told) := hagent.symm.trans hanswer
  obtain ⟨reply, hears⟩ := Consul.instances_eq_ok.mp hinstances
  exact ⟨agent.network, reply, hears⟩

/-- An agent that knows of no instances, behind something that drops the headers of replies. -/
def headless : Agent := ⟨fun _ => some ⟨200, [], "[]".toUTF8.toList⟩, some 0⟩

def agentNearby : Consul := .ofAddress "http://consul:8500/" 30000

def secondQuery : Diary Agent :=
  (fresh "addsvc" headless 0).run agentNearby.source [.step 0, .step 0]

/-- It is asked, and asked again, and neither query waits. -/
theorem a_watch_on_a_headless_agent_does_not_wait :
    secondQuery.queries = [⟨"addsvc", true, 0⟩, ⟨"addsvc", true, 0⟩] ∧
      secondQuery.rounds.map (·.answer) = [.ok ([], 0)] ∧
      ¬ secondQuery.Unhurried agentNearby := by
  have hqueries : secondQuery.queries = [⟨"addsvc", true, 0⟩, ⟨"addsvc", true, 0⟩] := by cbv
  have hanswers : secondQuery.rounds.map (·.answer) = [.ok ([], 0)] := by cbv
  refine ⟨hqueries, hanswers, ?_⟩
  intro unhurried
  cases hrounds : secondQuery.rounds with
  | nil =>
    rw [hrounds] at hanswers
    cases hanswers
  | cons r rest =>
    rw [hrounds] at hanswers
    have hanswer : r.answer = .ok ([], 0) := (List.cons.inj hanswers).1
    have hround : secondQuery.rounds[0]? = some r := by
      rw [hrounds]
      rfl
    have hquery : some ⟨"addsvc", true, 0⟩ = some r.query := by
      rw [← query_at hround, hqueries]
      rfl
    have hfollows : secondQuery.Follows r ⟨"addsvc", true, 0⟩ := by
      refine ⟨0, hround, ?_⟩
      rw [hqueries]
      rfl
    have hback := unhurried r _ hfollows _ _ hanswer (Consul.atOnce_iff.mpr rfl)
    rw [← Option.some.inj hquery] at hback
    exact Nat.lt_irrefl 0 hback

end Diary

end ServiceMesh
