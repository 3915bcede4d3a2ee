import WTerm.Config.Safe
import WTerm.Manager.World
import WTerm.Python.Shlex

/-!
# The command of a session

`_command` starts an agent or a shell, here or on another host. A remote host gets one string,
which its shell splits into words; for an agent a login shell splits the last of them again.
What comes out in the end is the list that a local session runs. The options of an accepted
configuration never end the options of the command.
-/

namespace WTerm

open Shell

/-- What `_command` reads of a session. -/
structure Launch where
  agent : Agent
  ssh : Option PyStr := none
  cwd : PyStr
  commandArgs : List PyStr := []
  projectEnv : List (PyStr × PyStr) := []

namespace Launch

variable (l : Launch)

/-- The options that make an agent ring the bell. -/
def notify : Agent → List PyStr
  | .claude =>
    [py "--settings".toList, py "\x7b\"preferredNotifChannel\":\"terminal_bell\"\x7d".toList]
  | .codex => [py "-c".toList, py "tui.notifications=true".toList]
  | .shell => []

/-- `_agent_cmd`. -/
def agentCmd (extraArgs : Option (List PyStr)) : List PyStr :=
  l.agent.name :: l.commandArgs ++ notify l.agent ++ extraArgs.getD []

/-- The assignments of the project's environment in front of a remote command. -/
def envWords : List PyStr :=
  if l.projectEnv = [] then []
  else py "env".toList :: l.projectEnv.map fun entry => entry.1 ++ py "=".toList ++ entry.2

/-- What a remote session runs, without the environment. -/
def remoteArgv (extraArgs : Option (List PyStr)) : List PyStr :=
  if l.agent = .shell then [py "bash".toList, py "-l".toList] else l.agentCmd extraArgs

/-- The remote command in the directory of the project. -/
def innerCommand (extraArgs : Option (List PyStr)) : PyStr :=
  py "cd ".toList ++ shlexQuote l.cwd ++ py " && exec ".toList ++
    shlexJoin (l.envWords ++ l.remoteArgv extraArgs)

/-- The remote command; an agent is found by a login shell. -/
def remoteCommand (extraArgs : Option (List PyStr)) : PyStr :=
  if l.agent = .shell then l.innerCommand extraArgs
  else py "exec bash -lc ".toList ++ shlexQuote (l.innerCommand extraArgs)

/-- `_command`. `loginShell` is `login_shell()`. -/
def command (loginShell : PyStr) (extraArgs : Option (List PyStr)) : List PyStr :=
  match l.ssh with
  | some host => [py "ssh".toList, py "-t".toList, host, l.remoteCommand extraArgs]
  | none =>
    if l.agent = .shell then [loginShell, py "-l".toList] else l.agentCmd extraArgs

/-- The tokens of a remote command. -/
def remoteTokens (extraArgs : Option (List PyStr)) : List Token :=
  [.word (py "cd".toList), .word l.cwd, .operator (py "&&".toList), .word (py "exec".toList)] ++
    (l.envWords ++ l.remoteArgv extraArgs).map .word

/-- A shell reads the command in the directory of the project as its words. -/
theorem tokens_innerCommand (extraArgs : Option (List PyStr)) :
    tokens (l.innerCommand extraArgs) = some (l.remoteTokens extraArgs) := by
  have hcd : Shell.read .between (py "cd ".toList) =
      some ([.word (py "cd".toList)], .between) := rfl
  have hand : Shell.read .between (py "&& exec ".toList) =
      some ([.operator (py "&&".toList), .word (py "exec".toList)], .between) := rfl
  have hcwd := (spells_shlexQuote l.cwd).read_blank
  have hsplit : l.innerCommand extraArgs = py "cd ".toList ++
      ((shlexQuote l.cwd ++ [32]) ++ (py "&& exec ".toList ++
        shlexJoin (l.envWords ++ l.remoteArgv extraArgs))) := by
    have hblank : py " && exec ".toList = [32] ++ py "&& exec ".toList := rfl
    simp only [innerCommand, hblank, List.append_assoc]
  rw [hsplit, tokens_append hcd, tokens_append hcwd, tokens_append hand, tokens_shlexJoin]
  rfl

/-- A shell reads the command of an agent as a login shell with one argument. -/
theorem tokens_loginCommand (inner : PyStr) :
    tokens (py "exec bash -lc ".toList ++ shlexQuote inner) =
      some [.word (py "exec".toList), .word (py "bash".toList), .word (py "-lc".toList),
        .word inner] := by
  have hbash : Shell.read .between (py "exec bash -lc ".toList) =
      some ([.word (py "exec".toList), .word (py "bash".toList), .word (py "-lc".toList)],
        .between) := rfl
  rw [tokens_append hbash, (spells_shlexQuote inner).tokens]
  rfl

/-- A remote session runs the list that a local session runs. The last word of the `ssh` command
is, for a shell, the command itself, and for an agent a login shell's command whose last word is
the command; and the command has the tokens `cd`, the directory, `&&`, `exec`, then, if the project
has an environment, `env` and its assignments, and then the list, whatever characters they are made
of. The list is what a local session of the agent runs, and for a shell a login shell. -/
theorem remote_runs_argv (host loginShell : PyStr) (extraArgs : Option (List PyStr)) :
    ∃ line inner argv,
      { l with ssh := some host }.command loginShell extraArgs =
        [py "ssh".toList, py "-t".toList, host, line] ∧
      (l.agent = .shell → line = inner ∧ argv = [py "bash".toList, py "-l".toList]) ∧
      (l.agent ≠ .shell →
        tokens line = some [.word (py "exec".toList), .word (py "bash".toList),
          .word (py "-lc".toList), .word inner] ∧
        argv = { l with ssh := none }.command loginShell extraArgs) ∧
      (l.projectEnv = [] →
        tokens inner = some ([.word (py "cd".toList), .word l.cwd, .operator (py "&&".toList),
          .word (py "exec".toList)] ++ argv.map .word)) ∧
      (l.projectEnv ≠ [] →
        tokens inner = some ([.word (py "cd".toList), .word l.cwd, .operator (py "&&".toList),
          .word (py "exec".toList), .word (py "env".toList)] ++
          (l.projectEnv.map fun entry => .word (entry.1 ++ py "=".toList ++ entry.2)) ++
          argv.map .word)) := by
  have hinner := l.tokens_innerCommand extraArgs
  refine ⟨_, l.innerCommand extraArgs, l.remoteArgv extraArgs, rfl, ?_, ?_, ?_, ?_⟩
  · intro hshell
    exact ⟨if_pos hshell, if_pos hshell⟩
  · intro hagent
    have hline : { l with ssh := some host }.remoteCommand extraArgs =
        py "exec bash -lc ".toList ++ shlexQuote (l.innerCommand extraArgs) := if_neg hagent
    have hlocal : { l with ssh := none }.command loginShell extraArgs = l.agentCmd extraArgs :=
      if_neg hagent
    have hargv : l.remoteArgv extraArgs = l.agentCmd extraArgs := if_neg hagent
    rw [hline, hlocal, hargv]
    exact ⟨tokens_loginCommand _, rfl⟩
  · intro hempty
    have hwords : l.envWords = [] := if_pos hempty
    rw [hinner, remoteTokens, hwords, List.nil_append]
  · intro hassigned
    have hwords : l.envWords = py "env".toList ::
        l.projectEnv.map fun entry => entry.1 ++ py "=".toList ++ entry.2 := if_neg hassigned
    rw [hinner, remoteTokens, hwords]
    simp

end Launch

/-! ## The command of a project -/

/-- What `terminal_ws` starts for a project. -/
def Project.launch (project : Project) (agent : Agent) : Launch where
  agent := agent
  ssh := project.ssh
  cwd := project.path
  commandArgs := project.argsFor agent.name
  projectEnv := project.env

/-- The options that `args_for` finds are those of an entry for the agent. -/
theorem Project.mem_argsFor {project : Project} {agent word : PyStr}
    (hword : word ∈ project.argsFor agent) :
    ∃ entry ∈ project.args, entry.1 = agent ∧ word ∈ entry.2 := by
  unfold argsFor at hword
  cases hfound : project.args.find? fun entry => entry.1 = agent with
  | none => simp [hfound] at hword
  | some entry =>
    rw [hfound] at hword
    have hagent := List.find?_some hfound
    exact ⟨entry, List.mem_of_find?_eq_some hfound, of_decide_eq_true hagent, hword⟩

/-- In the command of a project of an accepted configuration no word ends the options and none has
a NUL: the options that ring the bell and those of a mode stay options. -/
theorem Project.Safe.agentCmd {project : Project} (h : project.Safe) (agent : Agent)
    {extraArgs : Option (List PyStr)}
    (hextra : ∀ word ∈ extraArgs.getD [], 0 ∉ word ∧ word ≠ py "--".toList) :
    ∀ word ∈ (project.launch agent).agentCmd extraArgs, 0 ∉ word ∧ word ≠ py "--".toList := by
  intro word hword
  simp only [Launch.agentCmd, Project.launch, List.cons_append, List.mem_cons,
    List.mem_append] at hword
  rcases hword with rfl | (hargs | hnotify) | hmode
  · cases agent <;> decide
  · obtain ⟨entry, hentry, -, hmem⟩ := Project.mem_argsFor hargs
    exact (h.args entry hentry).2 word hmem
  · revert word
    cases agent <;> decide
  · exact hextra word hmode

end WTerm
