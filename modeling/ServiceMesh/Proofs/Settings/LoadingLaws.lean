-- The law of a file of variables: the services find in it what they would find in
-- their environment. The gateway looks at some variables before it reads the file.
import ServiceMesh.Proofs.Settings.Variables
import ServiceMesh.Settings.Process

namespace ServiceMesh

/-! ## One environment in two ways -/

namespace Workplace

/-- Beside the process lies a file that sets these variables. -/
def FileSays (w : Workplace) (vars : List (String × String)) : Prop :=
  ∃ text, w.files.lookup ".env" = some text ∧ Dotenv.Says text vars

/-- The variables in the environment, and no file of them. -/
def merged (w : Workplace) (vars : List (String × String)) : Workplace :=
  ⟨w.environment.plus vars, w.files.filter (·.1 != ".env")⟩

/-- Another file is found as before. -/
theorem lookup_merged (w : Workplace) (vars : List (String × String)) {name : String}
    (h : name ≠ ".env") : (w.merged vars).files.lookup name = w.files.lookup name := by
  show (w.files.filter (·.1 != ".env")).lookup name = w.files.lookup name
  induction w.files with
  | nil => rfl
  | cons file files ih =>
    by_cases hfile : file.1 = ".env"
    · have hne : (name == file.1) = false := by simpa [hfile] using h
      rw [List.filter_cons_of_neg (by simp [hfile]), List.lookup_cons, hne, ih]
    · rw [List.filter_cons_of_pos (by simp [hfile]), List.lookup_cons, List.lookup_cons, ih]

theorem lookup_merged_self (w : Workplace) (vars : List (String × String)) :
    (w.merged vars).files.lookup ".env" = none := by
  rw [List.lookup_eq_none_iff]
  intro file hfile
  have hne : file.1 ≠ ".env" := by simpa using (List.mem_filter.mp hfile).2
  simpa using Ne.symm hne

theorem extended_merged {w : Workplace} {vars : List (String × String)} (h : w.FileSays vars) :
    (w.merged vars).extended = w.extended := by
  obtain ⟨text, hfile, hsays⟩ := h
  unfold extended
  rw [lookup_merged_self, hfile]
  exact (Dotenv.extend_of_says hsays w.environment).symm

theorem ofFiles_merged (w : Workplace) (vars : List (String × String)) :
    Setting.ofFiles (w.merged vars).files = Setting.ofFiles w.files := by
  unfold Setting.ofFiles Setting.readers
  simp only [List.findSome?_cons, List.findSome?_nil]
  rw [lookup_merged w vars (by decide), lookup_merged w vars (by decide),
    lookup_merged w vars (by decide), lookup_merged w vars (by decide),
    lookup_merged w vars (by decide), lookup_merged w vars (by decide)]

/-! ## The services -/

/-- What is read through the file of variables does not depend on where they stand. -/
theorem port_merged {w : Workplace} {vars : List (String × String)} (h : w.FileSays vars)
    (default : Nat) : (w.merged vars).port default = w.port default := by
  unfold port
  rw [extended_merged h, ofFiles_merged]

theorem both_merged {w : Workplace} {vars : List (String × String)} (h : w.FileSays vars)
    (default : Nat) : (w.merged vars).both default = w.both default := by
  unfold both
  rw [port_merged h, extended_merged h]

theorem server_merged {w : Workplace} {vars : List (String × String)} (h : w.FileSays vars)
    (kind : ServiceKind) (fresh : String) (default : Nat) :
    (w.merged vars).server kind fresh default = w.server kind fresh default := by
  unfold server
  rw [both_merged h, extended_merged h]

theorem user_merged {w : Workplace} {vars : List (String × String)} (h : w.FileSays vars)
    (fresh : String) : (w.merged vars).user fresh = w.user fresh := by
  unfold user
  rw [both_merged h, extended_merged h]

/-! ## The gateway -/

/-- What the gateway reads before it looks for the file: the settings of the registry and the
origins for browsers. -/
def early (env : Environment) : Except Failure (RegistrySettings × List String) := do
  if env.isProd && env.registry.consulUrl.isNone then throw (Environment.missing "CONSUL_URL" true)
  return (env.registry, ← env.corsOrigins)

/-- What it reads after that. The places of what it has read stay empty. -/
def late (w : Workplace) : Except Failure GatewaySettings := do
  let port ← w.port 9090
  let endpoint ← w.extended.endpoint
  let retry ← w.extended.retry
  let limit ← w.extended.ipLimit
  return ⟨⟨endpoint, retry, [], limit⟩, port, ⟨none, ""⟩, w.extended.telemetry⟩

/-- Both together. -/
def together (read : RegistrySettings × List String) (s : GatewaySettings) : GatewaySettings :=
  { s with registry := read.1, corsOrigins := read.2 }

theorem gateway_eq (w : Workplace) :
    w.gateway = (early w.environment).bind fun read => w.late.map (together read) := by
  unfold gateway early late
  by_cases hprod : (w.environment.isProd && w.environment.registry.consulUrl.isNone) = true
  · rw [if_pos hprod, if_pos hprod]
    rfl
  · rw [if_neg hprod, if_neg hprod]
    dsimp only
    cases w.environment.corsOrigins with
    | error f => rfl
    | ok origins =>
      cases w.port 9090 with
      | error f => rfl
      | ok port =>
        cases w.extended.endpoint with
        | error f => rfl
        | ok endpoint =>
          cases w.extended.retry with
          | error f => rfl
          | ok retry => cases w.extended.ipLimit <;> rfl

theorem late_merged {w : Workplace} {vars : List (String × String)} (h : w.FileSays vars) :
    (w.merged vars).late = w.late := by
  unfold late
  rw [port_merged h, extended_merged h]

theorem of_gateway_ok {w : Workplace} {s : GatewaySettings} (h : w.gateway = .ok s) :
    early w.environment = .ok (s.registry, s.corsOrigins) := by
  rw [gateway_eq] at h
  cases hearly : early w.environment with
  | error f =>
    rw [hearly] at h
    cases h
  | ok read =>
    cases hlate : w.late with
    | error f =>
      rw [hearly, hlate] at h
      cases h
    | ok rest =>
      rw [hearly, hlate] at h
      cases h
      rfl

/-- The settings come out alike exactly if what is read early is alike, or both times nothing
comes out, with the same failure. -/
theorem gateway_merged_iff {w : Workplace} {vars : List (String × String)} (h : w.FileSays vars) :
    (w.merged vars).gateway = w.gateway ↔
      early (w.environment.plus vars) = early w.environment ∨
        ∃ f, (w.merged vars).gateway = .error f ∧ w.gateway = .error f := by
  constructor
  · intro heq
    cases hload : w.gateway with
    | error f =>
      rw [hload] at heq
      exact Or.inr ⟨f, heq, rfl⟩
    | ok s =>
      rw [hload] at heq
      left
      rw [of_gateway_ok hload]
      exact of_gateway_ok heq
  · rintro (hearly | ⟨f, hmerged, hload⟩)
    · rw [gateway_eq, gateway_eq, late_merged h, ← hearly]
      rfl
    · rw [hmerged, hload]

/-- The variables that the gateway reads early. -/
def earlyKeys : List String :=
  ["ENVIRONMENT", "CONSUL_URL", "HEALTH_CHECK_PATH", "CORS_ALLOWED_ORIGINS"]

theorem early_congr {env env' : Environment} (h : ∀ key ∈ earlyKeys, env'.get? key = env.get? key) :
    early env' = early env := by
  unfold early Environment.isProd Environment.registry Environment.present? Environment.corsOrigins
    Environment.require
  rw [h "ENVIRONMENT" (by simp [earlyKeys]), h "CONSUL_URL" (by simp [earlyKeys]),
    h "HEALTH_CHECK_PATH" (by simp [earlyKeys]), h "CORS_ALLOWED_ORIGINS" (by simp [earlyKeys])]

/-! ## The law -/

/-- What it means for settings whether variables stand in the file or in the environment. -/
structure Interchangeable (w : Workplace) (vars : List (String × String)) : Prop where
  /-- New variables are put behind those of the environment, and the file is gone. -/
  moved : (∀ v ∈ vars, w.environment.get? v.1 = none) → (vars.map (·.1)).Nodup →
    (w.merged vars).environment = w.environment ++ vars
  no_file : (w.merged vars).files.lookup ".env" = none
  /-- The services come by the same settings, or fail alike. The new part of an id, if one is
  made up, is the same here. -/
  add : ∀ fresh, (w.merged vars).add fresh = w.add fresh
  text : ∀ fresh, (w.merged vars).text fresh = w.text fresh
  user : ∀ fresh, (w.merged vars).user fresh = w.user fresh
  /-- So does the gateway, exactly if the variables change nothing that it reads early, or it
  fails for the same reason either way. -/
  gateway_iff : (w.merged vars).gateway = w.gateway ↔
    early (w.environment.plus vars) = early w.environment ∨
      ∃ f, (w.merged vars).gateway = .error f ∧ w.gateway = .error f
  /-- So it does if none of the variables is one that it reads early. -/
  gateway_of_others : (∀ key ∈ earlyKeys, key ∉ vars.map (·.1)) →
    (w.merged vars).gateway = w.gateway

theorem early_plus {env : Environment} {vars : List (String × String)}
    (h : ∀ key ∈ earlyKeys, key ∉ vars.map (·.1)) : early (env.plus vars) = early env := by
  apply early_congr
  intro key hkey
  have hnone : vars.lookup key = none := by
    rw [List.lookup_eq_none_iff]
    intro v hv
    have hne : key ≠ v.1 := by
      rintro rfl
      exact h _ hkey (List.mem_map_of_mem hv)
    simpa using hne
  rw [Environment.get?_plus, hnone, Option.or_none]

theorem only_the_gateway_reads_before_its_file {w : Workplace} {vars : List (String × String)}
    (h : w.FileSays vars) : Interchangeable w vars where
  moved := Environment.plus_eq_append
  no_file := lookup_merged_self w vars
  add := fun fresh => server_merged h .add fresh 8081
  text := fun fresh => server_merged h .text fresh 8082
  user := user_merged h
  gateway_iff := gateway_merged_iff h
  gateway_of_others := fun hothers => (gateway_merged_iff h).mpr (Or.inl (early_plus hothers))

/-- A process with a port of its own, and a file that sets the other one. -/
def portsApart : Workplace :=
  ⟨[("PORT", "9000")], [(".env", "# remote calls
export GRPC_PORT=9100
")]⟩

theorem ports_apart_read_alike : Interchangeable portsApart [("GRPC_PORT", "9100")] := by
  apply only_the_gateway_reads_before_its_file
  refine ⟨_, rfl, ?_⟩
  have hlines : Dotenv.lines "# remote calls
export GRPC_PORT=9100
" =
      [some [], some "export GRPC_PORT=9100
".toList] := by
    decide +kernel
  unfold Dotenv.Says
  rw [hlines]
  apply Dotenv.Sets.blank
  · intro meaning
    rfl
  · apply Dotenv.Sets.setting
    · intro meaning
      rfl
    · exact .nothing

/-- The address of the registry stands in the file. -/
def registryInFile : Workplace := ⟨[], [(".env", "CONSUL_URL=http://consul:8500
")]⟩

/-- The gateway does not find it there. -/
theorem the_gateway_misses_a_registry_in_the_file :
    registryInFile.FileSays [("CONSUL_URL", "http://consul:8500")] ∧
      registryInFile.environment.get? "CONSUL_URL" = none ∧
      registryInFile.gateway.map (·.registry.consulUrl) = .ok none ∧
      (registryInFile.merged [("CONSUL_URL", "http://consul:8500")]).gateway.map
        (·.registry.consulUrl) = .ok (some "http://consul:8500") := by
  refine ⟨⟨_, rfl, ?_⟩, by decide, by decide +kernel, by decide +kernel⟩
  have hlines : Dotenv.lines "CONSUL_URL=http://consul:8500
" =
      [some "CONSUL_URL=http://consul:8500
".toList] := by
    decide +kernel
  unfold Dotenv.Says
  rw [hlines]
  apply Dotenv.Sets.setting
  · intro meaning
    rfl
  · exact .nothing

end Workplace

end ServiceMesh
