import WTerm.Config.Load

/-!
# What an accepted configuration guarantees

The loop over the projects refuses a name that an earlier entry has, so that the names of an
accepted configuration are distinct and every project is found under its own name.
-/

namespace WTerm

/-- A computation of two steps succeeds if both do. -/
theorem bind_eq_ok {ε α β : Type} {x : Except ε α} {f : α → Except ε β} {b : β} :
    (x >>= f) = .ok b ↔ ∃ a, x = .ok a ∧ f a = .ok b := by
  cases x with
  | error e =>
    constructor
    · intro h
      cases h
    · rintro ⟨a, h, -⟩
      cases h
  | ok a =>
    constructor
    · exact fun h => ⟨a, rfl, h⟩
    · rintro ⟨a', h, hf⟩
      cases h
      exact hf

variable {env : LoadEnv}

/-- What is collected from a list comes from its elements. -/
theorem mem_of_mapM_eq_ok {ε α β : Type} {f : α → Except ε β} {l : List α} {out : List β} {b : β}
    (h : l.mapM f = .ok out) (hb : b ∈ out) : ∃ a ∈ l, f a = .ok b := by
  induction l generalizing out with
  | nil =>
    cases h
    cases hb
  | cons first rest ih =>
    rw [List.mapM_cons] at h
    obtain ⟨value, hvalue, h⟩ := bind_eq_ok.mp h
    obtain ⟨others, hothers, h⟩ := bind_eq_ok.mp h
    cases h
    rcases List.mem_cons.mp hb with rfl | hb
    · exact ⟨first, List.mem_cons_self, hvalue⟩
    · obtain ⟨a, ha, hf⟩ := ih hothers hb
      exact ⟨a, List.mem_cons_of_mem _ ha, hf⟩

/-- An accepted string is a trimmed one, and not empty. -/
theorem filledString_eq_ok {value : Option Json} {error : ConfigError} {s : PyStr}
    (h : filledString value error = .ok s) :
    ∃ text, value = some (.str text) ∧ s = text.strip ∧ s ≠ [] := by
  unfold filledString at h
  split at h
  · rename_i text
    by_cases hblank : text.strip = []
    · rw [if_pos hblank] at h
      cases h
    · rw [if_neg hblank] at h
      cases h
      exact ⟨text, rfl, rfl, hblank⟩
  · cases h

/-- An accepted name is the one of the entry, and new. -/
theorem projectName_eq_ok {index : ℕ} {names : List PyStr} {item : List (PyStr × Json)}
    {name : PyStr} (h : projectName index names item = .ok name) :
    filledString (field item "name") (.projectName index) = .ok name ∧ name ∉ names := by
  unfold projectName at h
  obtain ⟨filled, hfilled, h⟩ := bind_eq_ok.mp h
  by_cases hmem : filled ∈ names
  · simp only [hmem, if_true] at h
    cases h
  · simp only [hmem, if_false] at h
    cases h
    exact ⟨hfilled, hmem⟩

/-- An accepted name is new and not empty. -/
theorem projectName_new {index : ℕ} {names : List PyStr} {item : List (PyStr × Json)}
    {name : PyStr} (h : projectName index names item = .ok name) : name ≠ [] ∧ name ∉ names := by
  obtain ⟨hfilled, hnew⟩ := projectName_eq_ok h
  obtain ⟨-, -, -, hne⟩ := filledString_eq_ok hfilled
  exact ⟨hne, hnew⟩

/-- The checks that an entry has passed when its project is listed. -/
structure Project.Passed (env : LoadEnv) (name : PyStr) (item : List (PyStr × Json))
    (project : Project) : Prop where
  name_eq : project.name = name
  ssh : projectSsh name (field item "ssh") = .ok project.ssh
  args : projectArgs name (field item "args") = .ok project.args
  vars : projectEnv name (field item "env") = .ok project.env
  /-- The path of a remote project is the one of the entry. -/
  remote : project.ssh.isSome = true →
    filledString (field item "path") (.projectPath name) = .ok project.path
  /-- A local project has a directory. -/
  isDir : project.ssh = none → env.isDir project.path = true

/-- A listed project has passed every check of its entry. -/
theorem loadProject_passed {name : PyStr} {item : List (PyStr × Json)} {project : Project}
    (h : loadProject env name item = .ok (some project)) : project.Passed env name item := by
  unfold loadProject at h
  obtain ⟨path, hpath, h⟩ := bind_eq_ok.mp h
  obtain ⟨ssh, hssh, h⟩ := bind_eq_ok.mp h
  obtain ⟨args, hargs, h⟩ := bind_eq_ok.mp h
  obtain ⟨vars, hvars, h⟩ := bind_eq_ok.mp h
  cases ssh with
  | some host =>
    cases h
    exact ⟨rfl, hssh, hargs, hvars, fun _ => hpath, fun hlocal => by cases hlocal⟩
  | none =>
    cases hresolve : env.resolve path with
    | none =>
      simp only [hresolve] at h
      cases h
    | some resolved =>
      simp only [hresolve] at h
      by_cases hdir : env.isDir resolved = true
      · simp only [hdir, if_true] at h
        cases h
        exact ⟨rfl, hssh, hargs, hvars, fun hremote => (by cases hremote), fun _ => hdir⟩
      · simp only [hdir] at h
        cases h

/-- Each project of the loop has passed the checks of an entry. -/
theorem loadProjects_passed {items : List Json} {project : Project} :
    ∀ {index : ℕ} {names : List PyStr} {projects : List Project},
      loadProjects env index names items = .ok projects → project ∈ projects →
      ∃ index names item, .obj item ∈ items ∧
        projectName index names item = .ok project.name ∧
        project.Passed env project.name item := by
  induction items with
  | nil =>
    intro index names projects h hmem
    cases h
    cases hmem
  | cons value rest ih =>
    intro index names projects h hmem
    cases value with
    | obj item =>
      rw [loadProjects] at h
      obtain ⟨name, hname, h⟩ := bind_eq_ok.mp h
      obtain ⟨first, hfirst, h⟩ := bind_eq_ok.mp h
      obtain ⟨others, hothers, h⟩ := bind_eq_ok.mp h
      cases h
      rcases List.mem_append.mp hmem with hmem | hmem
      · obtain rfl := Option.mem_toList.mp hmem
        have hpassed := loadProject_passed hfirst
        obtain rfl := hpassed.name_eq
        exact ⟨index, names, item, List.mem_cons_self, hname, hpassed⟩
      · obtain ⟨index', names', item', hitem, hrest⟩ := ih hothers hmem
        exact ⟨index', names', item', List.mem_cons_of_mem _ hitem, hrest⟩
    | null | bool _ | int _ | float _ | str _ | arr _ => cases h

/-- The names of the loop's projects are distinct and not empty, and no earlier entry has them. -/
theorem loadProjects_names {items : List Json} :
    ∀ {index : ℕ} {names : List PyStr} {projects : List Project},
      loadProjects env index names items = .ok projects →
      (projects.map Project.name).Nodup ∧
        ∀ project ∈ projects, project.name ≠ [] ∧ project.name ∉ names := by
  induction items with
  | nil =>
    intro index names projects h
    cases h
    simp
  | cons value rest ih =>
    intro index names projects h
    cases value with
    | obj item =>
      rw [loadProjects] at h
      obtain ⟨name, hname, h⟩ := bind_eq_ok.mp h
      obtain ⟨project, hproject, h⟩ := bind_eq_ok.mp h
      obtain ⟨others, hothers, h⟩ := bind_eq_ok.mp h
      cases h
      obtain ⟨hnodup, hnew⟩ := ih hothers
      have hfirst := projectName_new hname
      cases project with
      | none =>
        refine ⟨hnodup, fun other hother => ⟨(hnew other hother).1, fun hmem => ?_⟩⟩
        exact (hnew other hother).2 (List.mem_cons_of_mem _ hmem)
      | some project =>
        have hsame := (loadProject_passed hproject).name_eq
        constructor
        · refine List.nodup_cons.mpr ⟨?_, hnodup⟩
          intro hmem
          obtain ⟨other, hother, heq⟩ := List.mem_map.mp hmem
          exact (hnew other hother).2 (by simp [heq, hsame])
        · intro other hother
          rcases List.mem_cons.mp hother with rfl | hother
          · rwa [hsame]
          · refine ⟨(hnew other hother).1, fun hmem => ?_⟩
            exact (hnew other hother).2 (List.mem_cons_of_mem _ hmem)
    | null | bool _ | int _ | float _ | str _ | arr _ => cases h

/-- The last check either refuses the configuration or returns it unchanged. -/
theorem checkListener_eq {config config' : Config}
    (h : checkListener env config = .ok config') : config' = config := by
  unfold checkListener at h
  split_ifs at h <;> cases h <;> rfl

/-- The checks that an accepted configuration has passed, with the values that they returned. -/
structure Config.Passed (env : LoadEnv) (raw : List (PyStr × Json)) (config : Config) : Prop where
  host : loadHost raw = .ok config.host
  uds : optionalString raw "uds" = .ok config.uds
  passwordHash : WTerm.passwordHash env raw = .ok config.passwordHash
  allowedOrigins : WTerm.allowedOrigins env raw = .ok config.allowedOrigins
  tlsCertfile : optionalString raw "tls_certfile" = .ok config.tlsCertfile
  tlsKeyfile : optionalString raw "tls_keyfile" = .ok config.tlsKeyfile
  tlsPair : config.tlsCertfile.isSome = config.tlsKeyfile.isSome
  allowInsecureTcp : loadAllowInsecureTcp raw = .ok config.allowInsecureTcp
  projects : ∃ items, loadProjectItems raw = .ok items ∧
    loadProjects env 0 [] items = .ok config.projects
  listener : checkListener env config = .ok config

/-- An accepted configuration has passed every check. -/
theorem loadConfig_passed {raw : List (PyStr × Json)} {config : Config}
    (h : loadConfig env (.obj raw) = .ok config) : config.Passed env raw := by
  rw [loadConfig] at h
  obtain ⟨host, hhost, h⟩ := bind_eq_ok.mp h
  obtain ⟨port, -, h⟩ := bind_eq_ok.mp h
  obtain ⟨graceSeconds, -, h⟩ := bind_eq_ok.mp h
  obtain ⟨idleSeconds, -, h⟩ := bind_eq_ok.mp h
  obtain ⟨uds, huds, h⟩ := bind_eq_ok.mp h
  obtain ⟨hash, hhash, h⟩ := bind_eq_ok.mp h
  obtain ⟨origins, horigins, h⟩ := bind_eq_ok.mp h
  obtain ⟨certfile, hcertfile, h⟩ := bind_eq_ok.mp h
  obtain ⟨keyfile, hkeyfile, h⟩ := bind_eq_ok.mp h
  by_cases hpair : certfile.isSome = keyfile.isSome
  · simp only [hpair, ne_eq, not_true_eq_false, if_false] at h
    obtain ⟨insecure, hinsecure, h⟩ := bind_eq_ok.mp h
    obtain ⟨items, hitems, h⟩ := bind_eq_ok.mp h
    obtain ⟨projects, hprojects, h⟩ := bind_eq_ok.mp h
    have hconfig := checkListener_eq h
    rw [← hconfig] at h
    subst hconfig
    exact ⟨hhost, huds, hhash, horigins, hcertfile, hkeyfile, hpair, hinsecure,
      ⟨items, hitems, hprojects⟩, h⟩
  · simp only [hpair, ne_eq, not_false_eq_true, if_true] at h
    cases h

/-- The projects of an accepted configuration come from the loop. -/
theorem loadConfig_projects {raw : Json} {config : Config}
    (h : loadConfig env raw = .ok config) :
    ∃ items, loadProjects env 0 [] items = .ok config.projects := by
  cases raw with
  | obj raw =>
    obtain ⟨items, -, hprojects⟩ := (loadConfig_passed h).projects
    exact ⟨items, hprojects⟩
  | null | bool _ | int _ | float _ | str _ | arr _ => cases h

/-- `find_project` returns each project of an accepted configuration for its own name. -/
theorem loadConfig_findProject {raw : Json} {config : Config}
    (h : loadConfig env raw = .ok config) {project : Project}
    (hproject : project ∈ config.projects) : config.findProject project.name = some project := by
  obtain ⟨items, hitems⟩ := loadConfig_projects h
  exact config.findProject_eq_some (loadProjects_names hitems).1 hproject

/-- No project of an accepted configuration has an empty name. -/
theorem loadConfig_name_ne_nil {raw : Json} {config : Config}
    (h : loadConfig env raw = .ok config) {project : Project}
    (hproject : project ∈ config.projects) : project.name ≠ [] := by
  obtain ⟨items, hitems⟩ := loadConfig_projects h
  exact ((loadProjects_names hitems).2 project hproject).1

end WTerm
