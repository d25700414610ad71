-- A failure that goes from process to process as a status. Each process makes a failure of
-- the status it receives, and passes that on as a status again: all that is lost on the
-- way is lost at the first hop.
import Mathlib.Logic.Function.Iterate
import ServiceMesh.Proofs.Failure.Disclosure
import ServiceMesh.Proofs.Text.Decimal

namespace ServiceMesh

/-- The status that a process passes on when it has received one. -/
def Rpc.Status.hop (s : Rpc.Status) : Rpc.Status := (Failure.ofStatus s).status

namespace Failure

/-! ## Hops -/

/-- The seconds to wait travel as decimal text, and arrive unchanged. -/
theorem relayed_tooManyRequests (message : String) (seconds : Option UInt64) :
    (tooManyRequests message seconds).relayed = .tooManyRequests message seconds := by
  unfold relayed status ofStatus
  cases seconds with
  | none => rfl
  | some n =>
    have hread : Text.readNatural 64 (toString n.toNat) = .ok n.toNat :=
      Text.readNatural_toString n.toNat_lt
    simp only [Option.map_some, Option.bind_some, hread, UInt64.ofNat_toNat]

/-- A failure travels on as it came, unless it is a fault whose category a status keeps back. -/
theorem status_relayed {f : Failure} (h : ∀ c, f.category? = some c → c = .internal) :
    f.relayed.status = f.status := by
  cases f with
  | tooManyRequests message seconds => rw [relayed_tooManyRequests]
  | database t => cases h .database rfl
  | cache fault => cases h .cache rfl
  | configuration t => cases h .configuration rfl
  | invalid vs => rfl
  | badRequest t => rfl
  | notFound t => rfl
  | unauthorized t => rfl
  | conflict t => rfl
  | internal t => rfl
  | badGateway message => rfl
  | unavailable message => rfl
  | token fault => rfl

/-- Whatever is received, a fault of another process is an internal one. -/
theorem category_ofStatus (s : Rpc.Status) :
    ∀ c, (ofStatus s).category? = some c → c = .internal := by
  obtain ⟨code, message, retryAfter⟩ := s
  intro c hc
  cases code <;> cases hc
  all_goals rfl

theorem hop_hop (s : Rpc.Status) : s.hop.hop = s.hop := status_relayed (category_ofStatus s)

theorem iterate_hop (s : Rpc.Status) (n : Nat) : Rpc.Status.hop^[n + 1] s = s.hop := by
  rw [Function.iterate_succ_apply]
  exact Function.iterate_fixed (hop_hop s) n

/-! ## What arrives -/

/-- The HTTP status that the next process answers a failure with. -/
def nextHttpStatus : Failure → Nat
  | .invalid _ => 400
  | .badGateway _ => 503
  | f => f.httpStatus

theorem relayed_httpStatus (f : Failure) : f.relayed.httpStatus = f.nextHttpStatus := by
  cases f with
  | tooManyRequests message seconds =>
    rw [relayed_tooManyRequests]
    rfl
  | _ => rfl

/-- What has arrived once is answered alike by every process from then on. -/
theorem nextHttpStatus_relayed (f : Failure) :
    f.relayed.nextHttpStatus = f.relayed.httpStatus := by
  cases f with
  | tooManyRequests message seconds =>
    rw [relayed_tooManyRequests]
    rfl
  | _ => rfl

theorem iterate_relayed_httpStatus (f : Failure) (n : Nat) :
    (relayed^[n + 1] f).httpStatus = f.relayed.httpStatus := by
  induction n with
  | zero => rfl
  | succ n ih =>
    rw [Function.iterate_succ_apply', relayed_httpStatus, ← ih, Function.iterate_succ_apply',
      nextHttpStatus_relayed]

/-- The message of a failure that is told in its own words alone. -/
def words? : Failure → Option String
  | .badRequest t | .notFound t | .unauthorized t | .conflict t => some t.shown
  | .tooManyRequests message _ | .unavailable message => some message
  | _ => none

/-- A failure of the same kind, with these words and the same time to wait. Only the troubles
underneath may be others. -/
structure SpeaksAlike (words : String) (f g : Failure) : Prop where
  words_eq : g.words? = some words
  kind_eq : g.kind = f.kind
  retryAfter_eq : g.retryAfter? = f.retryAfter?

theorem relayed_speaksAlike {f : Failure} {words : String} (h : f.words? = some words) :
    SpeaksAlike words f f.relayed := by
  cases f with
  | tooManyRequests message seconds =>
    rw [relayed_tooManyRequests]
    exact ⟨h, rfl, rfl⟩
  | badRequest t => exact ⟨h, rfl, rfl⟩
  | notFound t => exact ⟨h, rfl, rfl⟩
  | unauthorized t => exact ⟨h, rfl, rfl⟩
  | conflict t => exact ⟨h, rfl, rfl⟩
  | unavailable message => exact ⟨h, rfl, rfl⟩
  | _ => cases h

/-- A fault of the client, by the status that it is answered with. -/
def BlamesClient (f : Failure) : Prop := 400 ≤ f.httpStatus ∧ f.httpStatus < 500

/-- A fault of the server, by the status that it is answered with. -/
def BlamesServer (f : Failure) : Prop := 500 ≤ f.httpStatus ∧ f.httpStatus < 600

theorem relayed_blamesClient (f : Failure) : f.relayed.BlamesClient ↔ f.BlamesClient := by
  unfold BlamesClient
  rw [relayed_httpStatus]
  cases f <;> simp [nextHttpStatus, httpStatus]

theorem relayed_blamesServer (f : Failure) : f.relayed.BlamesServer ↔ f.BlamesServer := by
  unfold BlamesServer
  rw [relayed_httpStatus]
  cases f <;> simp [nextHttpStatus, httpStatus]

/-- How a failure arrives. Fields that break rules become a bad request, and a bad gateway becomes
a service that cannot be had; everything else is answered as it was. -/
structure Arrives (f : Failure) : Prop where
  invalid : ∀ vs, f = .invalid vs → f.httpStatus = 422 ∧ f.relayed.httpStatus = 400
  bad_gateway : ∀ message, f = .badGateway message →
    f.httpStatus = 502 ∧ f.relayed.httpStatus = 503
  others : (∀ vs, f ≠ .invalid vs) → (∀ message, f ≠ .badGateway message) →
    f.relayed.httpStatus = f.httpStatus
  client : f.relayed.BlamesClient ↔ f.BlamesClient
  server : f.relayed.BlamesServer ↔ f.BlamesServer
  speaks : ∀ words, f.words? = some words → SpeaksAlike words f f.relayed
  onward : ∀ n, (relayed^[n + 1] f).httpStatus = f.relayed.httpStatus

theorem arrives (f : Failure) : f.Arrives where
  invalid := by
    rintro vs rfl
    exact ⟨rfl, rfl⟩
  bad_gateway := by
    rintro message rfl
    exact ⟨rfl, rfl⟩
  others := by
    intro hvalid hgateway
    rw [relayed_httpStatus]
    cases f with
    | invalid vs => exact absurd rfl (hvalid vs)
    | badGateway message => exact absurd rfl (hgateway message)
    | _ => rfl
  client := relayed_blamesClient f
  server := relayed_blamesServer f
  speaks := fun _ => relayed_speaksAlike
  onward := iterate_relayed_httpStatus f

/-- However many processes pass a status on, the last one delivers what the first one does; and
a failure arrives as one of its own side, if it has words of its own with these. -/
theorem many_hops_deliver_what_one_delivers (s : Rpc.Status) (f : Failure) :
    (∀ n, Rpc.Status.hop^[n + 1] s = s.hop) ∧ f.Arrives :=
  ⟨iterate_hop s, arrives f⟩

end Failure

end ServiceMesh
