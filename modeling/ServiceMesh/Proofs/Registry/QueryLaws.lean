-- The laws of a query on a registry that changes meanwhile: what it shows of an
-- id was so at a time of which its index tells, no change after that time is
-- lost on the next query, and it answers neither early nor late.
import ServiceMesh.Proofs.Registry.QueryReads

namespace ServiceMesh

/-! ## When a query answers -/

namespace QueryStage

end QueryStage

namespace Registry

namespace Asking

variable {t : Asking}

/-- A query that waits goes on when the index is past what it waits for or its time is over. It
waits only if the clock reaches to the end of that time. -/
structure Paced (since wait : Nat) (t : Asking) : Prop where
  deadline : ∀ d, t.stage = .waiting d → t.query.waitIndex ≠ 0 ∧ d = since + wait
  not_early : t.query.waitIndex ≠ 0 → t.stage.goesOn = true →
    t.query.waitIndex < t.registry.index ∨ since + wait ≤ t.now
  broken_iff : t.stage.isBrokenOff = true ↔
    t.query.waitIndex ≠ 0 ∧ Instant.limit ≤ since + wait

/-- How long a query may wait. -/
def patience (q : Query) (wait : Nat) : Nat := if q.waitIndex = 0 then 0 else wait

section Run

variable {s : Shared} (nodup : s.registry.ids.Nodup) (q : Query) (wait : Nat)

include nodup

end Run

/-- The laws for a query that began at `s`, after any events since. -/
structure Answers (s : Shared) (q : Query) (wait : Nat) (events : List Event) : Prop where
  /-- What the query tells of an id was so at one of the times since it began, at its index or
  after. Any change whose entry was not written at that time moves the index past what the
  query tells, and then a query that waits for that does not block. -/
  no_update_lost : ∀ instances index,
    ((ask s q wait).run events).stage = .answered instances index →
    ∀ id, ∃ past later, past ++ later = events ∧
      SeenAt ((ask s q wait).run past).shared q index id (instances.filter (·.id == id)) ∧
      ∀ k, ((ask s q wait).run past).shared.Unwritten k →
        ∀ more, ((ask s q wait).run (events ++ more)).shared.Over k →
          index < ((ask s q wait).run (events ++ more)).registry.index ∧
          ∀ next wait', next.waitIndex = index →
            ((QueryStage.start next ((ask s q wait).run (events ++ more)).now wait').step next
              ((ask s q wait).run (events ++ more)).registry
              ((ask s q wait).run (events ++ more)).now).isWaiting = false
  /-- A query breaks off exactly if it waits, and the clock does not reach to its deadline. -/
  breaks_off_iff : ((ask s q wait).run events).stage.isBrokenOff = true ↔
    q.waitIndex ≠ 0 ∧ Instant.limit ≤ s.now + wait
  no_wait : q.waitIndex = 0 → ((ask s q wait).run events).stage.isWaiting = false
  /-- A query goes on from waiting only when the index is past what it waits for, or its time
  is over. -/
  not_early : q.waitIndex ≠ 0 → ((ask s q wait).run events).stage.goesOn = true →
    q.waitIndex < ((ask s q wait).run events).registry.index ∨
      s.now + wait ≤ ((ask s q wait).run events).now
  /-- Unless it is kept from what it has to do, a query that is not over is not late, whatever
  wakes it meanwhile. -/
  not_late : (ask s q wait).Promptly events →
    ((ask s q wait).run events).stage.isOver = false →
    ((ask s q wait).run events).now ≤ s.now + patience q wait
  /-- A query comes to an answer exactly if it needs no deadline, or the clock reaches to it. -/
  comes_to_answer_iff : (∃ more, ((ask s q wait).run events).Promptly more ∧
      ((ask s q wait).run (events ++ more)).stage.isAnswered = true) ↔
    (q.waitIndex = 0 ∨ s.now + wait < Instant.limit)

/-- An entry that is written behind the back of a query moves the index past its answer. -/
example :
    let t := (ask {} ⟨"web", false, 0⟩ 10).run
      [.look, .beside (.begin (.register ⟨"a", "web", "host", 80, none, []⟩)),
        .beside (.turn 0), .look, .beside (.turn 0)]
    t.stage = .answered [] 1 ∧ t.registry.index = 2 := by cbv

end Asking

end Registry

end ServiceMesh
