-- Variables out of a file, laid under those of an environment: what is set already
-- stays, and of a variable that the file sets twice the first is taken.
import Mathlib.Data.List.Nodup
import ServiceMesh.Settings.Dotenv

namespace ServiceMesh

namespace Environment

/-! ## An environment and more variables -/

/-- The environment with a variable, unless it has that already. -/
def add (env : Environment) (v : String × String) : Environment :=
  if (env.get? v.1).isSome then env else env ++ [v]

/-- The environment with all variables that it does not have. -/
def plus (env : Environment) (vars : List (String × String)) : Environment := vars.foldl add env

theorem get?_append (env more : Environment) (key : String) :
    get? (env ++ more) key = (env.get? key).or (get? more key) := List.lookup_append

theorem get?_add (env : Environment) (v : String × String) (key : String) :
    (env.add v).get? key = (env.get? key).or (get? [v] key) := by
  unfold add
  by_cases hset : (env.get? v.1).isSome = true
  · rw [if_pos hset]
    by_cases hkey : key = v.1
    · rw [hkey, Option.or_of_isSome hset]
    · have hnone : get? [v] key = none := by
        simp [get?, hkey]
      rw [hnone, Option.or_none]
  · rw [if_neg hset, get?_append]

/-- A variable is what the environment says, or else what comes first for it. -/
theorem get?_plus (env : Environment) (vars : List (String × String)) (key : String) :
    (env.plus vars).get? key = (env.get? key).or (vars.lookup key) := by
  induction vars generalizing env with
  | nil => exact (Option.or_none).symm
  | cons v vars ih =>
    have hone : get? (v :: vars) key = (get? [v] key).or (get? vars key) := get?_append [v] vars key
    show ((env.add v).plus vars).get? key = (env.get? key).or (get? (v :: vars) key)
    rw [ih, get?_add, hone, Option.or_assoc]
    rfl

/-- Variables of which the environment has none are put behind it. -/
theorem plus_eq_append {env : Environment} {vars : List (String × String)}
    (hnew : ∀ v ∈ vars, env.get? v.1 = none) (hdistinct : (vars.map (·.1)).Nodup) :
    env.plus vars = env ++ vars := by
  induction vars generalizing env with
  | nil => exact (List.append_nil env).symm
  | cons v vars ih =>
    rw [List.map_cons] at hdistinct
    obtain ⟨hfirst, hrest⟩ := List.nodup_cons.mp hdistinct
    have hadd : env.add v = env ++ [v] := by
      unfold add
      rw [hnew v List.mem_cons_self]
      rfl
    have hnew' : ∀ u ∈ vars, get? (env ++ [v]) u.1 = none := by
      intro u hu
      have hne : u.1 ≠ v.1 := by
        intro he
        exact hfirst (he ▸ List.mem_map_of_mem (f := fun w : String × String => w.1) hu)
      rw [get?_append, hnew u (List.mem_cons_of_mem v hu)]
      simp [get?, hne]
    show (env.add v).plus vars = env ++ v :: vars
    rw [hadd, ih hnew' hrest, List.append_assoc]
    rfl

end Environment

namespace Dotenv

/-! ## Files of literal values -/

/-- The lines of a file. A mark of its byte order does not count. -/
def lines (text : String) : List (Option (List Char)) :=
  let cs := text.toList
  let cs := if cs.head? = some '\uFEFF' then cs.tail else cs
  logicalLines [] .plain (physicalLines cs)

theorem extend_eq (env : Environment) (text : String) :
    extend env text = load env [] (lines text) := rfl

/-- Lines that set variables to what they say, or set none. No value names a variable. -/
inductive Sets : List (Option (List Char)) → List (String × String) → Prop
  | nothing : Sets [] []
  | blank {line : List Char} {more : List (Option (List Char))} {vars : List (String × String)}
      (h : ∀ meaning, setting? meaning line = some none) (rest : Sets more vars) :
      Sets (some line :: more) vars
  | setting {line : List Char} {key value : String} {more : List (Option (List Char))}
      {vars : List (String × String)}
      (h : ∀ meaning, setting? meaning line = some (some (key, value))) (rest : Sets more vars) :
      Sets (some line :: more) ((key, value) :: vars)

/-- A well-formed file of literal values, and what it sets. -/
def Says (text : String) (vars : List (String × String)) : Prop := Sets (lines text) vars

theorem load_of_sets {ls : List (Option (List Char))} {vars : List (String × String)}
    (h : Sets ls vars) (env : Environment) (seen : List (String × String)) :
    load env seen ls = env.plus vars := by
  induction h generalizing env seen with
  | nothing => rfl
  | blank hline _ ih =>
    unfold load
    simp only [hline]
    exact ih env seen
  | setting hline _ ih =>
    unfold load
    simp only [hline]
    exact ih _ _

theorem extend_of_says {text : String} {vars : List (String × String)} (h : Says text vars)
    (env : Environment) : extend env text = env.plus vars := by
  rw [extend_eq]
  exact load_of_sets h env []

end Dotenv

end ServiceMesh
