-- What a client learns of a fault of the server: over HTTP, as the status of a remote
-- call, and from the failure that the next process makes of that status. The category
-- is told everywhere, the cause in the details of an HTTP body alone.
import ServiceMesh.Http.Response
import ServiceMesh.Proofs.Json.Records
import ServiceMesh.Rpc.Status

namespace ServiceMesh.Failure

/-! ## What there is to see -/

/-- The faults that are the server's own. -/
inductive Category where
  | internal
  | database
  | cache
  | configuration
  deriving DecidableEq, Repr

/-- What a category is called towards clients. -/
def Category.title : Category → String
  | .internal => "Internal server error"
  | .database => "Database error"
  | .cache => "Cache error"
  | .configuration => "Configuration error"

def category? : Failure → Option Category
  | .internal _ => some .internal
  | .database _ => some .database
  | .cache _ => some .cache
  | .configuration _ => some .configuration
  | _ => none

/-- What lies underneath a fault of the server, in the words of the process's own log. -/
def cause : Failure → String
  | .internal t | .database t | .configuration t => t.shown
  | .cache f => f.message
  | _ => ""

/-- The failure that the next process makes of the status that a failure travelled as. -/
def relayed (f : Failure) : Failure := ofStatus f.status

/-- All that clients can observe of a failure. -/
structure View where
  http : Http.Response
  rpc : Rpc.Status
  nextHop : Http.Response
  deriving DecidableEq

def view (f : Failure) : View := ⟨f.response, f.status, f.relayed.response⟩

/-! ## What is seen of a fault of the server -/

variable {c : Category} {f g : Failure}

theorem status_of_category (hf : f.category? = some c) : f.status = ⟨.internal, c.title, none⟩ := by
  cases f <;> simp only [category?, Option.some.injEq, reduceCtorEq] at hf
  all_goals
    subst hf
    rfl

/-- The next process knows of an internal fault, by the category for its cause. -/
theorem relayed_of_category (hf : f.category? = some c) : f.relayed = .internal c.title := by
  unfold relayed
  rw [status_of_category hf]
  rfl

/-- The response that tells a fault of the server without its cause. -/
def bare (c : Category) : Http.Response := .json 500 (.object [("error", .text c.title)])

/-- The response that tells a fault of the server with its cause. -/
def detailed (c : Category) (cause : String) : Http.Response :=
  .json 500 (.object [("error", .text c.title), ("details", .text cause)])

theorem detailed_inj {s t : String} (h : detailed c s = detailed c t) : s = t := by
  unfold detailed Http.Response.json at h
  rw [Http.Response.mk.injEq] at h
  exact @Json.Reader.render_last_inj [("error", .text c.title)] _ _ _ h.2.2

theorem response_of_category (hf : f.category? = some c) :
    f.response = if c = .internal then bare c else detailed c f.cause := by
  cases f <;> simp only [category?, Option.some.injEq, reduceCtorEq] at hf
  all_goals
    subst hf
    rfl

theorem relayed_response_of_category (hf : f.category? = some c) :
    f.relayed.response = bare .internal := by
  rw [relayed_of_category hf]
  rfl

/-- The responses to two faults of one category differ by their causes, if these are told. -/
theorem response_eq_iff (hf : f.category? = some c) (hg : g.category? = some c) :
    f.response = g.response ↔ c = .internal ∨ f.cause = g.cause := by
  rw [response_of_category hf, response_of_category hg]
  by_cases hc : c = .internal
  · simp [hc]
  · rw [if_neg hc, if_neg hc]
    constructor
    · intro h
      exact Or.inr (detailed_inj h)
    · rintro (h | h)
      · exact absurd h hc
      · rw [h]

theorem view_eq_iff (hf : f.category? = some c) (hg : g.category? = some c) :
    f.view = g.view ↔ c = .internal ∨ f.cause = g.cause := by
  unfold view
  rw [View.mk.injEq, response_eq_iff hf hg, status_of_category hf, status_of_category hg,
    relayed_response_of_category hf, relayed_response_of_category hg]
  simp

/-! ## The law -/

/-- A fault that is told by its category alone, the body of the HTTP response apart. -/
structure Discreet (c : Category) (f : Failure) : Prop where
  rpc : f.status = ⟨.internal, c.title, none⟩
  next_hop : f.relayed.response = bare .internal
  http_status : f.response.status = 500
  http_headers : f.response.headers = [("content-type", "application/json")]

theorem discreet_of_category (hf : f.category? = some c) : Discreet c f := by
  refine ⟨status_of_category hf, relayed_response_of_category hf, ?_, ?_⟩
  all_goals
    rw [response_of_category hf]
    split <;> rfl

/-- Of two faults of one category a client sees the same exactly if they are internal or their
causes are worded alike: all but the HTTP body depends on the category alone. -/
theorem faults_of_one_category_differ_by_their_details (hf : f.category? = some c)
    (hg : g.category? = some c) :
    Discreet c f ∧ Discreet c g ∧ (f.view = g.view ↔ c = .internal ∨ f.cause = g.cause) :=
  ⟨discreet_of_category hf, discreet_of_category hg, view_eq_iff hf hg⟩

/-- A context is told in place of the root that it was put around. -/
theorem a_context_covers_its_root :
    (database ⟨"mongodb://admin:hunter2@db", ["cannot connect"]⟩).category? = some .database ∧
      (database "cannot connect").category? = some .database ∧
      (database ⟨"mongodb://admin:hunter2@db", ["cannot connect"]⟩).view =
        (database "cannot connect").view := by
  have hroot : (database ⟨"mongodb://admin:hunter2@db", ["cannot connect"]⟩).category? =
      some .database := rfl
  have hplain : (database "cannot connect").category? = some .database := rfl
  have hlaw := faults_of_one_category_differ_by_their_details hroot hplain
  exact ⟨hroot, hplain, hlaw.2.2.mpr (Or.inr rfl)⟩

/-- What is known of a database only by its address is told to whoever asks over HTTP. -/
theorem the_address_of_a_database_is_told :
    ¬ ∀ (c : Category) (f g : Failure), f.category? = some c → g.category? = some c →
      f.view = g.view := by
  intro h
  have hview := h .database (.database "mongodb://admin:hunter2@db:27017 refused")
    (.database "refused") rfl rfl
  rcases (view_eq_iff rfl rfl).mp hview with hc | hcause
  · cases hc
  · exact absurd hcause (by decide)

end ServiceMesh.Failure
