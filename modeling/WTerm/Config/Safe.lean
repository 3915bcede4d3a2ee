import Mathlib.Data.List.DropRight
import WTerm.Config.Accepted

/-!
# Starting the server with an accepted configuration

`load_config` checks the configuration and `main` chooses the listener, each with its own reading
of the same fields. Together they never open a terminal to the network by accident: outside
loopback a TCP listener needs a password and TLS, or the consent of the operator.
-/

namespace WTerm

/-! ## The end of `main` -/

/-- What `uvicorn.run` listens on. -/
inductive Listener (TlsContext : Type) where
  | uds (path : PyStr)
  | tcp (host : PyStr) (port : ℕ) (sslContext : Option TlsContext)

/-- The choice of the listener in `main`. `setupTls` is what `_setup_tls` returns, unless it
raises. -/
def Config.listener {TlsContext : Type} (config : Config) (setupTls : Option TlsContext) :
    Option (Listener TlsContext) :=
  match config.uds with
  | some (c :: path) => some (.uds (c :: path))
  | _ =>
    if config.tlsEnabled then
      setupTls.map fun context => .tcp config.host config.port (some context)
    else some (.tcp config.host config.port none)

/-! ## Safety -/

/-- A host that only the machine itself reaches. -/
def IsLoopback (env : LoadEnv) (host : PyStr) : Prop :=
  host.lower = py "localhost".toList ∨ env.isLoopbackAddress host = true

/-- A name that a variable of the environment can have. -/
def IsVariableName (name : PyStr) : Prop :=
  ∃ first rest, name = first :: rest ∧
    (PyStr.isAsciiAlpha first = true ∨ first = 95) ∧
    ∀ c ∈ rest, PyStr.isAsciiAlpha c = true ∨ PyStr.isAsciiDigit c = true ∨ c = 95

/-- A project comes from an entry with its name that names a host, or has a directory. -/
structure Project.CameFrom (env : LoadEnv) (item : List (PyStr × Json)) (project : Project) :
    Prop where
  name : ∃ text, field item "name" = some (.str text) ∧ project.name = text.strip
  place : (∃ host, field item "ssh" = some (.str host) ∧ project.ssh = some host.strip) ∨
    project.ssh = none ∧ env.isDir project.path = true

/-- What a listed project guarantees. -/
structure Project.Safe (project : Project) : Prop where
  name_ne_nil : project.name ≠ []
  name_trimmed : project.name.strip = project.name
  args : ∀ entry ∈ project.args,
    (entry.1 = py "claude".toList ∨ entry.1 = py "codex".toList) ∧
      ∀ value ∈ entry.2, 0 ∉ value ∧ value ≠ py "--".toList
  vars : ∀ entry ∈ project.env,
    IsVariableName entry.1 ∧ entry.1 ≠ py "TERM".toList ∧ 0 ∉ entry.2

/-- What a configuration and the server that is started with it guarantee. -/
structure Config.Safe (env : LoadEnv) (raw : List (PyStr × Json)) (config : Config) : Prop where
  /-- Outside loopback a TCP listener has authentication and TLS, or consent. -/
  listener : ∀ (TlsContext : Type) (setupTls : Option TlsContext) host port sslContext,
    config.listener setupTls = some (.tcp host port sslContext) → ¬IsLoopback env host →
      config.allowInsecureTcp = true ∨
        config.passwordHash.isSome = true ∧ sslContext.isSome = true
  tlsPair : config.tlsCertfile.isSome = config.tlsKeyfile.isSome
  names_distinct : (config.projects.map Project.name).Nodup
  found : ∀ project ∈ config.projects, config.findProject project.name = some project
  cameFrom : ∀ project ∈ config.projects, ∃ items item,
    field raw "projects" = some (.arr items) ∧ .obj item ∈ items ∧ project.CameFrom env item
  projects : ∀ project ∈ config.projects, project.Safe

/-! ## Text -/

/-- A trimmed text has nothing to trim. -/
theorem PyStr.strip_strip (s : PyStr) : s.strip.strip = s.strip := by
  have hstrip : s.strip = (s.dropWhile isSpace).rdropWhile isSpace := rfl
  have hfront : s.strip.dropWhile isSpace = s.strip := by
    rw [hstrip, List.dropWhile_eq_self_iff]
    intro hlength
    -- What is left begins as the text without the blanks in front of it.
    have hprefix := List.rdropWhile_prefix isSpace (l := s.dropWhile isSpace)
    have hne := hprefix.length_le.trans_lt' hlength
    have hsame := List.IsPrefix.getElem hprefix hlength
    rw [hsame]
    exact List.dropWhile_eq_self_iff.mp (List.dropWhile_idempotent isSpace s) hne
  calc
    s.strip.strip = (s.strip.dropWhile isSpace).rdropWhile isSpace := rfl
    _ = s.strip.rdropWhile isSpace := by rw [hfront]
    _ = s.strip := List.rdropWhile_idempotent isSpace _

/-- An optional string that is set is not empty. -/
theorem optionalString_ne_nil {raw : List (PyStr × Json)} {name : String} {value : PyStr}
    (h : optionalString raw name = .ok (some value)) : value ≠ [] := by
  unfold optionalString at h
  split at h
  · cases h
  · cases h
  · rename_i text _
    by_cases hblank : text.strip = []
    · rw [if_pos hblank] at h
      cases h
    · rw [if_neg hblank] at h
      cases h
      exact hblank
  · cases h

/-! ## Projects -/

section Projects

variable {env : LoadEnv} {name : PyStr}

/-- The host of an accepted entry is the one that it names. -/
theorem projectSsh_eq_ok {value : Option Json} {ssh : Option PyStr}
    (h : projectSsh name value = .ok ssh) :
    ssh = none ∨ ∃ host, value = some (.str host) ∧ ssh = some host.strip := by
  unfold projectSsh at h
  split at h
  · cases h
    exact Or.inl rfl
  · cases h
    exact Or.inl rfl
  · rename_i json _
    cases hfilled : filledString (some json) (.projectSsh name) with
    | error e =>
      rw [hfilled] at h
      cases h
    | ok host =>
      rw [hfilled] at h
      cases h
      obtain ⟨text, htext, rfl, -⟩ := filledString_eq_ok hfilled
      exact Or.inr ⟨text, htext, rfl⟩

/-- The options of an accepted entry have no NUL and no terminator, and are kept under the agent of
the entry. -/
theorem agentArgs_eq_ok {entry : PyStr × Json} {args : PyStr × List PyStr}
    (h : agentArgs name entry = .ok args) :
    args.1 = entry.1 ∧ ∀ value ∈ args.2, 0 ∉ value ∧ value ≠ py "--".toList := by
  unfold agentArgs at h
  split at h
  · split at h
    · cases h
    · rename_i values _
      split_ifs at h with hnul hterminator
      cases h
      refine ⟨rfl, fun value hvalue => ⟨fun hmem => hnul ?_, fun heq => hterminator ?_⟩⟩
      · exact List.any_eq_true.mpr ⟨value, hvalue, decide_eq_true hmem⟩
      · exact heq ▸ hvalue
  · cases h

/-- All options of an accepted entry are those of an agent that takes options. -/
theorem projectArgs_eq_ok {value : Option Json} {args : List (PyStr × List PyStr)}
    (h : projectArgs name value = .ok args) {entry : PyStr × List PyStr} (hentry : entry ∈ args) :
    entry.1 ∈ projectArgAgents ∧ ∀ value ∈ entry.2, 0 ∉ value ∧ value ≠ py "--".toList := by
  unfold projectArgs at h
  split at h
  · cases h
    cases hentry
  · cases h
    cases hentry
  · rename_i members
    dsimp only at h
    split_ifs at h with hunknown
    obtain ⟨source, hsource, hargs⟩ := mem_of_mapM_eq_ok h hentry
    obtain ⟨hagent, hvalues⟩ := agentArgs_eq_ok hargs
    refine ⟨?_, hvalues⟩
    by_contra hmem
    have hfound : source ∈ (Json.items members).filter fun e => e.1 ∉ projectArgAgents :=
      List.mem_filter.mpr ⟨hsource, decide_eq_true (hagent ▸ hmem)⟩
    exact List.ne_nil_of_mem hfound (not_not.mp hunknown)
  · cases h

/-- Every name that `ENV_NAME_RE` matches can be the name of a variable. -/
theorem isVariableName_of_isEnvName {text : PyStr} (h : isEnvName text = true) :
    IsVariableName text := by
  cases text with
  | nil => cases h
  | cons first rest =>
    simp only [isEnvName, List.head?_cons, Option.any_some, List.all_cons, Bool.and_eq_true,
      Bool.or_eq_true, decide_eq_true_eq, List.all_eq_true] at h
    exact ⟨first, rest, rfl, h.1, fun c hc => or_assoc.mp (h.2.2 c hc)⟩

/-- A variable of an accepted entry has a name, is not `TERM`, and its value has no NUL. -/
theorem envEntry_eq_ok {entry : PyStr × Json} {var : PyStr × PyStr}
    (h : envEntry name entry = .ok var) :
    IsVariableName var.1 ∧ var.1 ≠ py "TERM".toList ∧ 0 ∉ var.2 := by
  unfold envEntry at h
  split_ifs at h with hname hterm
  split at h
  · split_ifs at h with hnul
    cases h
    exact ⟨isVariableName_of_isEnvName (Bool.of_not_eq_false hname), hterm, hnul⟩
  · cases h

/-- All variables of an accepted entry have a name, are not `TERM`, and their values have no NUL. -/
theorem projectEnv_eq_ok {value : Option Json} {vars : List (PyStr × PyStr)}
    (h : projectEnv name value = .ok vars) {var : PyStr × PyStr} (hvar : var ∈ vars) :
    IsVariableName var.1 ∧ var.1 ≠ py "TERM".toList ∧ 0 ∉ var.2 := by
  unfold projectEnv at h
  split at h
  · cases h
    cases hvar
  · cases h
    cases hvar
  · obtain ⟨source, -, hentry⟩ := mem_of_mapM_eq_ok h hvar
    exact envEntry_eq_ok hentry
  · cases h

variable {project : Project} {item : List (PyStr × Json)} {index : ℕ} {names : List PyStr}

/-- What a listed project guarantees follows from the checks of its entry. -/
theorem Project.Passed.safe (h : project.Passed env project.name item)
    (hname : projectName index names item = .ok project.name) : project.Safe := by
  obtain ⟨text, -, htext, hne⟩ := filledString_eq_ok (projectName_eq_ok hname).1
  refine ⟨hne, ?_, ?_, fun entry => projectEnv_eq_ok h.vars⟩
  · rw [htext, PyStr.strip_strip]
  · intro entry hentry
    obtain ⟨hagent, hvalues⟩ := projectArgs_eq_ok h.args hentry
    exact ⟨by simpa [projectArgAgents] using hagent, hvalues⟩

/-- A listed project comes from the entry whose checks it passed. -/
theorem Project.Passed.cameFrom (h : project.Passed env project.name item)
    (hname : projectName index names item = .ok project.name) : project.CameFrom env item := by
  obtain ⟨text, hfield, htext, -⟩ := filledString_eq_ok (projectName_eq_ok hname).1
  refine ⟨⟨text, hfield, htext⟩, ?_⟩
  rcases projectSsh_eq_ok h.ssh with hnone | ⟨host, hhost, hssh⟩
  · exact Or.inr ⟨hnone, h.isDir hnone⟩
  · exact Or.inl ⟨host, hhost, hssh⟩

end Projects

/-! ## The listener -/

section Listener

variable {env : LoadEnv} {config : Config} {TlsContext : Type} {setupTls : Option TlsContext}
  {host : PyStr} {port : ℕ} {sslContext : Option TlsContext}

/-- A TCP listener is opened on the configured host if no socket path is set, with TLS if the
configuration has both files. -/
theorem Config.listener_eq_tcp
    (h : config.listener setupTls = some (.tcp host port sslContext)) :
    (config.uds = none ∨ config.uds = some []) ∧ host = config.host ∧
      (config.tlsEnabled = true → sslContext.isSome = true) := by
  unfold listener at h
  split at h
  · cases h
  · rename_i huds
    have hnone : config.uds = none ∨ config.uds = some [] := by
      cases hpath : config.uds with
      | none => exact Or.inl rfl
      | some path =>
        cases path with
        | nil => exact Or.inr rfl
        | cons c rest => exact absurd hpath (huds c rest)
    split_ifs at h with htls
    · obtain ⟨context, -, hlistener⟩ := Option.map_eq_some_iff.mp h
      cases hlistener
      exact ⟨hnone, rfl, fun _ => rfl⟩
    · cases h
      exact ⟨hnone, rfl, fun htls' => absurd htls' htls⟩

/-- The last check of `load_config` says the same of the host that `main` listens on. -/
theorem checkListener_guards (h : checkListener env config = .ok config)
    (huds : config.uds = none) (hhost : ¬IsLoopback env config.host) :
    config.allowInsecureTcp = true ∨
      config.passwordHash.isSome = true ∧ config.tlsEnabled = true := by
  have hloopback : isLoopbackHost env config.host = false := by
    rw [← Bool.not_eq_true]
    intro htrue
    rw [isLoopbackHost, Bool.or_eq_true, decide_eq_true_eq] at htrue
    exact hhost htrue
  cases hinsecure : config.allowInsecureTcp with
  | true => exact Or.inl rfl
  | false =>
    unfold checkListener at h
    rw [if_pos ⟨huds, hloopback, hinsecure⟩] at h
    split_ifs at h with hhash htls
    exact Or.inr ⟨Option.isSome_iff_ne_none.mpr hhash, Bool.of_not_eq_false htls⟩

end Listener

/-! ## The whole configuration -/

/-- The entries of the loop are those of the file. -/
theorem loadProjectItems_eq_ok {raw : List (PyStr × Json)} {items : List Json}
    (h : loadProjectItems raw = .ok items) (hne : items ≠ []) :
    field raw "projects" = some (.arr items) := by
  unfold loadProjectItems at h
  generalize field raw "projects" = value at h ⊢
  split at h
  · cases h
    exact absurd rfl hne
  · cases h
    rfl
  · cases h

/-- A configuration that `load_config` accepts is safe, and so is the server that is started with
it. -/
theorem loadConfig_safe {env : LoadEnv} {raw : List (PyStr × Json)} {config : Config}
    (h : loadConfig env (.obj raw) = .ok config) : config.Safe env raw := by
  have hpassed := loadConfig_passed h
  obtain ⟨items, hitems, hprojects⟩ := hpassed.projects
  refine ⟨?_, hpassed.tlsPair, (loadProjects_names hprojects).1,
    fun project => loadConfig_findProject h, ?_, ?_⟩
  · intro TlsContext setupTls host port sslContext hlistener hhost
    obtain ⟨huds, rfl, htls⟩ := Config.listener_eq_tcp hlistener
    have hnone : config.uds = none := by
      refine huds.resolve_right fun hempty => ?_
      exact optionalString_ne_nil (hempty ▸ hpassed.uds) rfl
    exact (checkListener_guards hpassed.listener hnone hhost).imp_right (And.imp_right htls)
  · intro project hproject
    obtain ⟨index, names, item, hitem, hname, hentry⟩ := loadProjects_passed hprojects hproject
    exact ⟨items, item, loadProjectItems_eq_ok hitems (List.ne_nil_of_mem hitem), hitem,
      hentry.cameFrom hname⟩
  · intro project hproject
    obtain ⟨index, names, item, -, hname, hentry⟩ := loadProjects_passed hprojects hproject
    exact hentry.safe hname

/-- A system on which every hash is valid and every path is a directory. -/
def permissiveEnv : LoadEnv where
  hashValid := fun _ => true
  acceptsNetloc := fun _ => true
  isLoopbackAddress := fun _ => false
  resolve := some
  isDir := fun _ => true

/-- A server on all interfaces with one remote project. -/
def exposedConfig : List (PyStr × Json) :=
  [(py "host".toList, .str (py " 0.0.0.0".toList)),
    (py "password_hash".toList, .str (py "$argon2id$v".toList)),
    (py "tls_certfile".toList, .str (py "/cert".toList)),
    (py "tls_keyfile".toList, .str (py "/key".toList)),
    (py "projects".toList, .arr [.obj
      [(py "name".toList, .str (py " p ".toList)), (py "path".toList, .str (py "/srv".toList)),
        (py "ssh".toList, .str (py "u@h".toList)),
        (py "args".toList, .obj [(py "codex".toList, .arr [.str (py "-q".toList)])]),
        (py "env".toList, .obj [(py "X_1".toList, .str [])])]])]

/-- It is accepted, and `main` opens its listener with TLS. -/
theorem loadConfig_safe_exposed :
    ∃ config, loadConfig permissiveEnv (.obj exposedConfig) = .ok config ∧
      config.listener (some ()) = some (.tcp (py "0.0.0.0".toList) 8877 (some ())) ∧
      config.Safe permissiveEnv exposedConfig :=
  ⟨_, rfl, rfl, loadConfig_safe rfl⟩

end WTerm
