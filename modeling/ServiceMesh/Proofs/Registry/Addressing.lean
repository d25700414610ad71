-- How an agent is told of an id: in the announcement as a text, in the request that takes the
-- instance away as a part of the address.
import ServiceMesh.Proofs.Web.Bases
import ServiceMesh.Registry.Consul

namespace ServiceMesh.Consul

open Web (Names Plain)

/-- The agent is told of an instance, under its id and the name of its service. -/
def Announces (agent : Web.Url) (i : Instance) (r : Web.Request) : Prop :=
  r.method = .put ∧ Names agent "v1/agent/service/" "register" r.url ∧ r.url.query = none ∧
    ∃ told, r.body = some told ∧ told.get? "ID" = some (.text i.id) ∧
      told.get? "Name" = some (.text i.name)

/-- The agent is asked to take away what has an id. -/
def TakesAway (agent : Web.Url) (id : String) (r : Web.Request) : Prop :=
  r.method = .put ∧ r.body = none ∧ Names agent "v1/agent/service/deregister/" id r.url ∧
    r.url.query = none

/-- The agent is asked for the instances of a service. -/
def AsksFor (agent : Web.Url) (service : String) (parameters : List (String × String))
    (r : Web.Request) : Prop :=
  r.method = .get ∧ r.body = none ∧ Names agent "v1/health/service/" service r.url ∧
    r.url.query = (agent.withQuery parameters).query

theorem announced (i : Instance) : (announcement i).get? "ID" = some (.text i.id) ∧
    (announcement i).get? "Name" = some (.text i.name) := by
  cases hcheck : i.healthCheckUrl with
  | none => simp [announcement, Json.get?, hcheck]
  | some url => simp [announcement, Json.get?, hcheck]

/-- What a request asks to take away is one id. -/
theorem TakesAway.unique {agent : Web.Url} {id id' : String} {r : Web.Request}
    (h : TakesAway agent id r) (h' : TakesAway agent id' r) : id = id' := by
  obtain ⟨-, -, ⟨-, -, -, rest, htext, hid⟩, -⟩ := h
  obtain ⟨-, -, ⟨-, -, -, rest', htext', hid'⟩, -⟩ := h'
  have hrest : rest = rest' := by
    rw [htext, ← String.toList_inj, String.toList_append, String.toList_append (t := rest'),
      List.append_cancel_left_eq, String.toList_inj] at htext'
    exact htext'
  rw [hrest, hid'] at hid
  exact (Option.some.inj hid).symm

section Requests

variable {c : Consul} {agent : Web.Url} (hagent : Web.address (c.base ++ "/") = .ok agent)
  (hquery : agent.query = none) (hfragment : agent.fragment = none)

include hagent hquery hfragment

theorem request_in_folder (folder : String) (hfolder : Plain (folder ++ "/").toList)
    (hsame : Web.escape Web.escapedInPath (folder ++ "/").toList = (folder ++ "/").toList)
    (name : String) (method : Http.Method) (parameters : List (String × String))
    (body : Option Json) :
    ∃ url, c.request method ("/" ++ (folder ++ "/" ++ name)) parameters body =
        .ok ⟨method, if method = .get then url.withQuery parameters else url, body⟩ ∧
      (Names agent (folder ++ "/") name url ↔ Plain name.toList) ∧
      (Plain name.toList → url.query = none) := by
  obtain ⟨url, hurl, hnames⟩ := Web.names_iff hagent hquery hfragment hfolder hsame name
  refine ⟨url, ?_, hnames⟩
  unfold request
  rw [← String.append_assoc, hurl]
  rfl

theorem registerRequest_announces (i : Instance) :
    ∃ r, c.registerRequest i = .ok r ∧ Announces agent i r := by
  obtain ⟨url, hrequest, hnames, hnone⟩ := request_in_folder hagent hquery hfragment
    "v1/agent/service" (by decide) (by cbv) "register" .put [] (some (announcement i))
  have hplain : Plain "register".toList := by decide
  exact ⟨_, hrequest, rfl, hnames.mpr hplain, hnone hplain, _, rfl, announced i⟩

theorem deregisterRequest_takesAway_iff (id : String) :
    ∃ r, c.deregisterRequest id = .ok r ∧ (TakesAway agent id r ↔ Plain id.toList) := by
  obtain ⟨url, hrequest, hnames, hnone⟩ := request_in_folder hagent hquery hfragment
    "v1/agent/service/deregister" (by decide) (by cbv) id .put [] none
  refine ⟨_, hrequest, ?_, ?_⟩
  · rintro ⟨-, -, hname, -⟩
    exact hnames.mp hname
  · intro hplain
    exact ⟨rfl, rfl, hnames.mpr hplain, hnone hplain⟩

theorem queryRequest_asksFor_iff (service : String) (passingOnly : Bool) (waitIndex : Nat) :
    ∃ r, c.queryRequest service passingOnly waitIndex = .ok r ∧
      (AsksFor agent service (c.queryParameters passingOnly waitIndex) r ↔
        Plain service.toList) := by
  obtain ⟨url, hrequest, hnames, hnone⟩ := request_in_folder hagent hquery hfragment
    "v1/health/service" (by decide) (by cbv) service .get
    (c.queryParameters passingOnly waitIndex) none
  refine ⟨_, hrequest, ?_, ?_⟩
  · rintro ⟨-, -, hname, -⟩
    exact hnames.mp ((Web.names_withQuery _).mp hname)
  · intro hplain
    refine ⟨rfl, rfl, (Web.names_withQuery _).mpr (hnames.mpr hplain), ?_⟩
    exact Web.query_withQuery ((hnone hplain).trans hquery.symm) _

/-- An agent is told of every instance by its id. The request that takes it away, and the one that
asks for the instances of a service, name exactly the id or the service if that is plain, and
only then. So no two plain ids share a request. -/
theorem requests_name_what_they_are_for_exactly_if_it_is_plain :
    (∀ i, ∃ r, c.registerRequest i = .ok r ∧ Announces agent i r) ∧
      (∀ id, ∃ r, c.deregisterRequest id = .ok r ∧ (TakesAway agent id r ↔ Plain id.toList)) ∧
      (∀ service passingOnly waitIndex, ∃ r,
        c.queryRequest service passingOnly waitIndex = .ok r ∧
          (AsksFor agent service (c.queryParameters passingOnly waitIndex) r ↔
            Plain service.toList)) ∧
      ∀ id id', Plain id.toList → Plain id'.toList →
        c.deregisterRequest id = c.deregisterRequest id' → id = id' := by
  have htaken := deregisterRequest_takesAway_iff hagent hquery hfragment
  refine ⟨registerRequest_announces hagent hquery hfragment, htaken,
    queryRequest_asksFor_iff hagent hquery hfragment, ?_⟩
  intro id id' hplain hplain' hsame
  obtain ⟨r, hr, htakes⟩ := htaken id
  obtain ⟨r', hr', htakes'⟩ := htaken id'
  obtain rfl := Except.ok.inj (hr.symm.trans (hsame.trans hr'))
  exact (htakes.mpr hplain).unique (htakes'.mpr hplain')

end Requests

/-- An agent that is found under a name. -/
def named : Consul := ⟨"http://consul:8500", 30⟩

def namedAddress : Web.Url := ⟨"http", "consul", some 8500, [""], none, none⟩

theorem address_named : Web.address (named.base ++ "/") = .ok namedAddress := by cbv

theorem an_id_with_a_slash_and_blanks_is_taken_away :
    Web.address (named.base ++ "/") = .ok namedAddress ∧ namedAddress.query = none ∧
      namedAddress.fragment = none ∧
      ∃ r, named.deregisterRequest "eu/addsvc é 1" = .ok r ∧
        TakesAway namedAddress "eu/addsvc é 1" r := by
  refine ⟨address_named, rfl, rfl, ?_⟩
  obtain ⟨-, htaken, -⟩ :=
    requests_name_what_they_are_for_exactly_if_it_is_plain address_named rfl rfl
  obtain ⟨r, hr, htakes⟩ := htaken "eu/addsvc é 1"
  exact ⟨r, hr, htakes.mpr (by decide)⟩

/-- What follows a question mark is not part of the id that the agent reads. -/
theorem an_id_with_a_question_mark_takes_another_away :
    ∃ r, named.deregisterRequest "a?b" = .ok r ∧ ¬ TakesAway namedAddress "a?b" r ∧
      Names namedAddress "v1/agent/service/deregister/" "a" r.url := by
  refine ⟨⟨.put, ⟨"http", "consul", some 8500, ["v1", "agent", "service", "deregister", "a"],
    some "b", none⟩, none⟩, by cbv, ?_, rfl, rfl, rfl, "a", by cbv, by cbv⟩
  rintro ⟨-, -, -, hnone⟩
  cases hnone

end ServiceMesh.Consul
