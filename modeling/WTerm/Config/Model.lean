import WTerm.Python.Text

/-!
# The configuration

The values that `load_config` returns. The projects are a whitelist: nothing else can be
opened.
-/

namespace WTerm

/-- `bool(value)` of an optional string. -/
def PyStr.truthy (value : Option PyStr) : Bool := value.any fun s => s ≠ []

/-- A project of the whitelist. -/
structure Project where
  name : PyStr
  path : PyStr
  /-- The host of a remote project. -/
  ssh : Option PyStr := none
  /-- The global options of each agent. -/
  args : List (PyStr × List PyStr) := []
  env : List (PyStr × PyStr) := []
  deriving DecidableEq

/-- `args_for`. -/
def Project.argsFor (project : Project) (agent : PyStr) : List PyStr :=
  ((project.args.find? fun entry => entry.1 = agent).map Prod.snd).getD []

/-- The configuration of the server. -/
structure Config where
  host : PyStr := py ['1', '2', '7', '.', '0', '.', '0', '.', '1']
  port : ℕ := 8877
  uds : Option PyStr := none
  graceSeconds : ℕ := 60
  idleSeconds : ℕ := 0
  passwordHash : Option PyStr := none
  allowedOrigins : List PyStr := []
  tlsCertfile : Option PyStr := none
  tlsKeyfile : Option PyStr := none
  allowInsecureTcp : Bool := false
  projects : List Project := []
  deriving DecidableEq

namespace Config

/-- `tls_enabled`. -/
def tlsEnabled (config : Config) : Bool :=
  PyStr.truthy config.tlsCertfile && PyStr.truthy config.tlsKeyfile

/-- `find_project`. -/
def findProject (config : Config) (name : PyStr) : Option Project :=
  config.projects.find? fun project => project.name = name

/-- Without two projects of one name, each project is found under its name. -/
theorem findProject_eq_some {config : Config}
    (hnames : (config.projects.map Project.name).Nodup) {project : Project}
    (hproject : project ∈ config.projects) : config.findProject project.name = some project := by
  unfold findProject
  generalize config.projects = projects at hnames hproject
  induction projects with
  | nil => simp at hproject
  | cons first rest ih =>
    rw [List.map_cons, List.nodup_cons] at hnames
    rcases List.mem_cons.mp hproject with rfl | hrest
    · simp
    · have hne : first.name ≠ project.name := by
        intro heq
        exact hnames.1 (heq ▸ List.mem_map_of_mem hrest)
      rw [List.find?_cons_of_neg (by simpa using hne)]
      exact ih hnames.2 hrest

end Config

end WTerm
