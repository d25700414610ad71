-- From an announcement to an instance that is found: what an agent is told of an instance
-- comes back in its answers on health, and the instance read from them is the one announced.
import Mathlib
import ServiceMesh.Proofs.Json.Shapes
import ServiceMesh.Proofs.Registry.Calls
import ServiceMesh.Proofs.Text.Decimal
import ServiceMesh.Settings.Process

namespace ServiceMesh

open Json Json.Reader

/-! ## Announcements -/

/-- What a process announces, and the address of the node that its agent is on. -/
structure Announcement where
  service : ServiceSettings
  registry : RegistrySettings
  httpPort : UInt16
  grpcPort : UInt16
  node : String

namespace Announcement

/-- The instance that is announced. -/
def made (a : Announcement) : Instance :=
  .announced a.service.instanceId a.service.name a.service.host a.registry.healthCheckPath
    a.httpPort.toNat a.grpcPort.toNat

/-- The host under which it is found. Without one of its own it has that of the node. -/
def host (a : Announcement) : String :=
  if a.made.host.isEmpty then a.node else a.made.host

/-- What an agent is told under one name it tells under another. -/
def names : List (String × String) :=
  [("ID", "ID"), ("Name", "Service"), ("Address", "Address"), ("Port", "Port"), ("Meta", "Meta")]

/-- An entry of an answer on health repeats what the agent was told, in whatever order and among
whatever else. -/
def Repeats (told : Json) (node : String) (entry : Json) : Prop :=
  ∃ fs nodeFields serviceFields, entry = .object fs ∧
    Once fs "Node" (.object nodeFields) ∧ Once fs "Service" (.object serviceFields) ∧
    Once nodeFields "Address" (.text node) ∧
    ∀ name ∈ names, ∃ j, told.get? name.1 = some j ∧ Once serviceFields name.2 j

/-- The agent was told of an announcement, and repeats it. -/
def Entered (c : Consul) (a : Announcement) (entry : Json) : Prop :=
  ∃ request told, c.registerRequest a.made = .ok request ∧ request.body = some told ∧
    Repeats told a.node entry

/-! ## Entries -/

theorem body_of_registerRequest {c : Consul} {i : Instance} {r : Web.Request}
    (h : c.registerRequest i = .ok r) : r.body = some (Consul.announcement i) := by
  unfold Consul.registerRequest Consul.request at h
  cases hurl : Web.address (c.base ++ "/v1/agent/service/register") with
  | error f =>
    rw [hurl] at h
    cases h
  | ok url =>
    rw [hurl] at h
    cases h
    rfl

section Entry

variable {a : Announcement}

/-- The further data of an instance, as the agent is told of it. -/
def dataFields (a : Announcement) : List (String × Json) :=
  [(Instance.grpcPortKey, .text (toString a.grpcPort.toNat))]

/-- What is read of a service. -/
def serviceValues (a : Announcement) : List (String × Json) :=
  [("ID", .text a.made.id), ("Service", .text a.made.name), ("Address", .text a.made.host),
    ("Port", .nat a.made.port), ("Meta", .object a.dataFields)]

/-- What is read of an entry. -/
def entryValues (a : Announcement) : List (String × Json) :=
  [("Node", .object [("Address", .text a.node)]), ("Service", .object a.serviceValues)]

theorem told_eq (a : Announcement) :
    names.map (fun name => (Consul.announcement a.made).get? name.1) =
      a.serviceValues.map (fun v => some v.2) := by
  simp [names, Consul.announcement, made, Instance.announced, get?, serviceValues, dataFields,
    Instance.dataJson]

theorem takes_text_field (s : String) :
    Takes (Json.text <$> Reader.text) (.text s) (.text s) :=
  (takes_text s _).map Json.text

theorem takes_port (port : UInt16) :
    Takes Instance.portNumber (.nat port.toNat) (.nat port.toNat) := by
  have hport : (Text.IntegerRange.unsigned 16).contains (port.toNat : Int) = true :=
    Text.contains_unsigned port.toNat_lt
  exact (takes_integer hport "u16").map Json.int

theorem takes_data (a : Announcement) :
    Takes ((fun m => m.getD .null) <$> optional Instance.texts) (.object a.dataFields)
      (.object a.dataFields) := by
  have hentries : List.Forall₂ (TakesEntry (Json.text <$> Reader.text)) a.dataFields a.dataFields :=
    .cons ⟨rfl, takes_text_field _⟩ .nil
  have htexts : Takes Instance.texts (.object a.dataFields) (.object a.dataFields) :=
    (takes_table hentries).map Json.object
  exact (htexts.optional (by simp)).map (fun m : Option Json => m.getD .null)

theorem takes_service {fs : List (String × Json)}
    (h : ∀ name ∈ names, ∃ j, (Consul.announcement a.made).get? name.1 = some j ∧
      Once fs name.2 j) :
    Takes (record "HealthService" Consul.serviceFields) (.object fs) (.object a.serviceValues) := by
  have told := told_eq a
  simp only [names, serviceValues, List.map_cons, List.map_nil, List.cons.injEq, and_true] at told
  obtain ⟨hid, hname, haddress, hport, hdata⟩ := told
  have once {key name : String} {j : Json} (hmem : (key, name) ∈ names)
      (hj : (Consul.announcement a.made).get? key = some j) : Once fs name j := by
    obtain ⟨j', hj', honce⟩ := h (key, name) hmem
    rw [hj] at hj'
    cases hj'
    exact honce
  refine takes_record (by decide) ?_ _
  exact .cons ⟨rfl, _, @once "ID" "ID" _ (by decide) hid, takes_text_field _⟩
    (.cons ⟨rfl, _, @once "Name" "Service" _ (by decide) hname, takes_text_field _⟩
    (.cons ⟨rfl, _, @once "Address" "Address" _ (by decide) haddress, takes_text_field _⟩
    (.cons ⟨rfl, _, @once "Port" "Port" _ (by decide) hport, takes_port a.httpPort⟩
    (.cons ⟨rfl, _, @once "Meta" "Meta" _ (by decide) hdata, takes_data a⟩ .nil))))

theorem takes_entry {entry : Json} (h : Repeats (Consul.announcement a.made) a.node entry) :
    Takes (record "HealthEntry" Consul.entryFields) entry (.object a.entryValues) := by
  obtain ⟨fs, nodeFields, serviceFields, rfl, hnode, hservice, haddress, hnames⟩ := h
  have node : Takes (record "HealthNode" Consul.nodeFields) (.object nodeFields)
      (.object [("Address", .text a.node)]) :=
    takes_record (by decide) (.cons ⟨rfl, _, haddress, takes_text_field _⟩ .nil) _
  refine takes_record (by decide) ?_ _
  exact .cons ⟨rfl, _, hnode, node⟩ (.cons ⟨rfl, _, hservice, takes_service hnames⟩ .nil)

/-! ## Found instances -/

/-- The instance that is found is the one that was announced, up to its host and its check. -/
structure Found (a : Announcement) (i : Instance) : Prop where
  id : i.id = a.made.id
  name : i.name = a.made.name
  port : i.port = a.made.port
  data : i.data = a.made.data
  host : i.host = a.host
  unchecked : i.healthCheckUrl = none
  grpcPort : i.grpcPort = a.grpcPort.toNat
  /-- Calls go where they were announced to go. -/
  place : i.grpcUri = "http://" ++ a.host ++ ":" ++ toString a.grpcPort.toNat

theorem instanceOf_entry (a : Announcement) :
    Consul.instanceOf (.object a.entryValues) =
      { a.made with host := a.host, healthCheckUrl := none } := by
  simp [Consul.instanceOf, entryValues, serviceValues, dataFields, get?, textAt, natAt, natAt?,
    text?, int?, Json.nat, Instance.entriesOf, fields, Instance.dataOf, Instance.putData, made,
    Instance.announced, host]

theorem found_entry (a : Announcement) : Found a (Consul.instanceOf (.object a.entryValues)) := by
  have hgrpc : ({ a.made with host := a.host, healthCheckUrl := none } : Instance).grpcPort =
      a.grpcPort.toNat := by
    have hread : Text.readNatural 16 (toString a.grpcPort.toNat) = .ok a.grpcPort.toNat :=
      Text.readNatural_toString a.grpcPort.toNat_lt
    rw [Nat.toString_eq_repr] at hread
    simp [Instance.grpcPort, Instance.data?, made, Instance.announced, hread]
  rw [instanceOf_entry]
  refine ⟨rfl, rfl, rfl, rfl, rfl, rfl, hgrpc, ?_⟩
  unfold Instance.grpcUri Instance.grpcPlace
  rw [hgrpc]
  simp [String.append_assoc]

end Entry

/-! ## The law -/

/-- What a client makes of an answer whose entries repeat announcements. -/
structure Delivered (c : Consul) (as : List Announcement) (body : List UInt8) : Prop where
  /-- Each is found, in their order. -/
  found : ∃ is, Consul.entries body = .ok is ∧ List.Forall₂ Found as is
  /-- So they are by whoever asks and has this answer. -/
  asked : ∀ (network : Web.Network) (q : Query) (reply : Web.Reply) (request : Web.Request),
    c.queryRequest q.service q.passingOnly q.waitIndex = .ok request →
    network request = some reply → reply.status < 400 → reply.body = body →
    ∃ is told, c.instances network q.service q.passingOnly q.waitIndex = .ok (is, told) ∧
      List.Forall₂ Found as is

theorem entries_of_announcements {c : Consul} {as : List Announcement} {entries : List Json}
    (h : List.Forall₂ (Entered c) as entries) {body : List UInt8}
    (hbody : WritesAll body (.array entries)) :
    ∃ is, Consul.entries body = .ok is ∧ List.Forall₂ Found as is := by
  have hitems : List.Forall₂ (Takes (record "HealthEntry" Consul.entryFields)) entries
      (as.map fun a => .object a.entryValues) := by
    clear hbody
    induction h with
    | nil => exact .nil
    | @cons a entry as entries ha _ ih =>
      obtain ⟨request, told, hrequest, htold, hrepeats⟩ := ha
      rw [body_of_registerRequest hrequest] at htold
      cases htold
      exact .cons (takes_entry hrepeats) ih
  refine ⟨(as.map fun a => .object a.entryValues).map Consul.instanceOf, ?_, ?_⟩
  · unfold Consul.entries
    rw [(takes_list hitems).fromAll hbody]
  · rw [List.map_map, List.forall₂_map_right_iff, List.forall₂_same]
    exact fun a _ => found_entry a

theorem an_announced_instance_is_found_as_announced {c : Consul} {as : List Announcement}
    {entries : List Json} (h : List.Forall₂ (Entered c) as entries) {body : List UInt8}
    (hbody : WritesAll body (.array entries)) : Delivered c as body := by
  obtain ⟨is, hentries, hfound⟩ := entries_of_announcements h hbody
  refine ⟨⟨is, hentries, hfound⟩, ?_⟩
  intro network q reply request hrequest hreply hstatus hsame
  have hears : Consul.Hears network c q reply is ((Consul.named? reply).getD q.waitIndex) :=
    ⟨⟨request, hrequest, hreply⟩, hstatus, by rw [hsame]; exact hentries, rfl⟩
  exact ⟨is, _, Consul.instances_eq_ok.mpr ⟨reply, hears⟩, hfound⟩

/-- An entry with more in it than was announced. -/
def entry (a : Announcement) : Json :=
  .object [("Checks", .array []),
    ("Service", .object (("Tags", .array [.text "primary"]) :: a.serviceValues)),
    ("Node", .object [("Datacenter", .text "dc1"), ("Address", .text a.node)])]

theorem repeats_entry (a : Announcement) :
    Repeats (Consul.announcement a.made) a.node a.entry := by
  refine ⟨_, _, _, rfl, rfl, rfl, rfl, ?_⟩
  simp only [names, List.forall_mem_cons, List.not_mem_nil, false_imp_iff, implies_true, and_true]
  exact ⟨⟨_, rfl, rfl⟩, ⟨_, rfl, rfl⟩, ⟨_, rfl, rfl⟩, ⟨_, rfl, rfl⟩, ⟨_, rfl, rfl⟩⟩

theorem compact_entry (a : Announcement) : Compact a.entry := by
  have hport : a.httpPort.toNat < UInt64.size := Nat.lt_trans a.httpPort.toNat_lt (by decide)
  have hdata : Compact (.object a.dataFields) :=
    compact_object (by simp [dataFields, compact_text])
  have hservice : Compact (.object (("Tags", .array [.text "primary"]) :: a.serviceValues)) := by
    refine compact_object ?_
    simp only [serviceValues, List.forall_mem_cons, List.not_mem_nil, false_imp_iff, implies_true,
      and_true]
    exact ⟨compact_array (by simp [compact_text]), compact_text _, compact_text _, compact_text _,
      compact_nat hport, hdata⟩
  have hnode : Compact (.object [("Datacenter", .text "dc1"), ("Address", .text a.node)]) :=
    compact_object (by simp [compact_text])
  refine compact_object ?_
  simp only [List.forall_mem_cons, List.not_mem_nil, false_imp_iff, implies_true, and_true]
  exact ⟨compact_array (by simp), hservice, hnode⟩

/-- Two services, one of which leaves its host to the node. -/
def twoServices : List Announcement :=
  [⟨⟨"addsvc", "10.0.0.7", "addsvc-1"⟩, ⟨some "http://consul:8500", "/health"⟩, 8081, 9081,
      "10.0.0.5"⟩,
    ⟨⟨"addsvc", "", "addsvc-2"⟩, ⟨some "http://consul:8500", "health"⟩, 8082, 0, "10.0.0.6"⟩]

def nearby : Consul := ⟨"http://consul:8500", 30⟩

theorem two_services_are_found_as_announced :
    List.Forall₂ (Entered nearby) twoServices (twoServices.map entry) ∧
      Delivered nearby twoServices (rendered (.array (twoServices.map entry))) ∧
      twoServices.map host = ["10.0.0.7", "10.0.0.6"] := by
  obtain ⟨url, hurl⟩ :
      ∃ url, Web.address (nearby.base ++ "/v1/agent/service/register") = .ok url :=
    ⟨⟨"http", "consul", some 8500, ["v1", "agent", "service", "register"], none, none⟩, by cbv⟩
  have hentered : List.Forall₂ (Entered nearby) twoServices (twoServices.map entry) := by
    rw [List.forall₂_map_right_iff, List.forall₂_same]
    intro a _
    have hrequest : nearby.registerRequest a.made =
        .ok ⟨.put, url, some (Consul.announcement a.made)⟩ := by
      unfold Consul.registerRequest Consul.request
      rw [hurl]
      rfl
    exact ⟨_, _, hrequest, rfl, repeats_entry a⟩
  have hcompact : ∀ j ∈ twoServices.map entry, Compact j := by
    intro j hj
    obtain ⟨a, -, rfl⟩ := List.mem_map.mp hj
    exact compact_entry a
  exact ⟨hentered, an_announced_instance_is_found_as_announced hentered (writesAll_array hcompact),
    by decide⟩

end Announcement

end ServiceMesh
