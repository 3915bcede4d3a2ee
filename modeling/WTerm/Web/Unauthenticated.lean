import WTerm.Web.Routes

/-!
# What an unauthenticated caller learns

A caller who fails the origin check or the auth check gets replies that depend on the request,
on the boundary settings of the configuration and on the tokens alone. Two servers that differ in
their whitelists and sessions answer alike, and neither of them changes its sessions or its
subscribers.
-/

namespace WTerm

variable {Key : Type} [DecidableEq Key]

/-- Two servers with the same clock, tokens and configuration outside the whitelist. Their
sessions and subscribers may differ. -/
structure SameBoundary (srv srv' : Server Key) : Prop where
  now : srv'.now = srv.now
  auth : srv'.auth = srv.auth
  config : srv'.config = { srv.config with projects := srv'.config.projects }

/-- A route returns and leaves the sessions and the subscribers as they were. -/
structure Outcome.Untouched (out : Outcome Key) (srv : Server Key) : Prop where
  next : out.next = .done
  keys : out.server.keys = srv.keys
  subscribers : out.server.subscribers = srv.subscribers

/-- A route returns with the given replies and does nothing else. -/
structure Outcome.Refuses (out : Outcome Key) (srv : Server Key) (replies : List Reply) : Prop
    extends out.Untouched srv where
  replies : out.replies = replies

namespace Server

variable (rt : Runtime Key) {srv srv' : Server Key} {conn : Conn}

/-- What a handshake that passes the origin check or not gets when it goes no further than the
auth check. -/
def handshakeRefusal (config : Config) (conn : Conn) : List Reply :=
  match originAllowed rt.acceptsNetloc config conn with
  | .error e => [.raised e]
  | .ok false => [.close 4403 "허용되지 않은 오리진"]
  | .ok true => [.accept, .close 4401 "인증 필요"]

/-- What a caller gets who fails the origin check or the auth check. The projects of the
configuration have no part in it. -/
def refusal (config : Config) (conn : Conn) : Call → List Reply
  | .terminalWs _ _ =>
    if (terminalQuery rt.parseBool conn).isSome then handshakeRefusal rt config conn
    else [.invalidQuery "shell" (conn.query "shell")]
  | .endSession _ =>
    if (conn.query "project").isSome then
      match originAllowed rt.acceptsNetloc config conn with
      | .error e => [.raised e]
      | .ok false => [.response 403 .notOk]
      | .ok true => [.response 401 .unauthorized]
    else [.invalidQuery "project" none]
  | .listProjects => [.response 401 .unauthorized]
  | .projectStatusWs _ => handshakeRefusal rt config conn

omit [DecidableEq Key] in
/-- The replies of a refusal are the same for every whitelist. -/
theorem refusal_projects (config : Config) (conn : Conn) (projects : List Project) (call : Call) :
    refusal rt { config with projects := projects } conn call = refusal rt config conn call := by
  cases call <;> rfl

omit [DecidableEq Key] in
/-- A route that returns at once refuses. -/
theorem finish_refuses (srv : Server Key) (replies : List Reply) :
    (srv.finish replies).Refuses srv replies := ⟨⟨rfl, rfl, rfl⟩, rfl⟩

/-- The auth check itself changes neither sessions nor subscribers. -/
theorem checkAuthed_refuses (srv : Server Key) (conn : Conn) (replies : List Reply) :
    ((srv.checkAuthed rt conn).finish replies).Refuses srv replies :=
  ⟨⟨rfl, rfl, rfl⟩, rfl⟩

/-- A caller who fails the checks has no allowed origin, or is not authenticated. -/
theorem not_passes_cases {call : Call} (hfails : ¬srv.Passes rt conn call) :
    (∃ e, originAllowed rt.acceptsNetloc srv.config conn = .error e) ∨
      originAllowed rt.acceptsNetloc srv.config conn = .ok false ∨
      originAllowed rt.acceptsNetloc srv.config conn = .ok true ∧ srv.isAuthed rt conn = false := by
  cases horigin : originAllowed rt.acceptsNetloc srv.config conn with
  | error e => exact Or.inl ⟨e, rfl⟩
  | ok allowed =>
    cases allowed with
    | false => exact Or.inr (Or.inl rfl)
    | true =>
      refine Or.inr (Or.inr ⟨rfl, ?_⟩)
      by_contra hcontra
      exact hfails ⟨fun _ => horigin, by simpa using hcontra⟩

theorem terminalWs_refuses {ws : Ws} {name : PyStr}
    (hfails : ¬srv.Passes rt conn (.terminalWs ws name)) :
    (srv.terminalWs rt ws conn name).Refuses srv
      (refusal rt srv.config conn (.terminalWs ws name)) := by
  unfold terminalWs refusal handshakeRefusal
  cases hquery : terminalQuery rt.parseBool conn with
  | none => exact finish_refuses srv _
  | some query =>
    simp only [Option.isSome_some, if_true]
    rcases not_passes_cases rt hfails with ⟨e, horigin⟩ | horigin | ⟨horigin, hauthed⟩
    · rw [horigin]
      exact finish_refuses srv _
    · rw [horigin]
      exact finish_refuses srv _
    · simp only [horigin, hauthed, Bool.false_eq_true, if_false]
      exact checkAuthed_refuses rt srv conn _

theorem endSession_refuses {request : ℕ} (hfails : ¬srv.Passes rt conn (.endSession request)) :
    (srv.endSession rt request conn).Refuses srv
      (refusal rt srv.config conn (.endSession request)) := by
  unfold endSession refusal
  cases hquery : conn.query "project" with
  | none => exact finish_refuses srv _
  | some name =>
    simp only [Option.isSome_some, if_true]
    rcases not_passes_cases rt hfails with ⟨e, horigin⟩ | horigin | ⟨horigin, hauthed⟩
    · rw [horigin]
      exact finish_refuses srv _
    · rw [horigin]
      exact finish_refuses srv _
    · simp only [horigin, hauthed, Bool.false_eq_true, if_false]
      exact checkAuthed_refuses rt srv conn _

theorem listProjects_refuses (hfails : ¬srv.Passes rt conn .listProjects) :
    (srv.listProjects rt conn).Refuses srv (refusal rt srv.config conn .listProjects) := by
  have hauthed : srv.isAuthed rt conn = false := by
    by_contra hcontra
    exact hfails ⟨False.elim, by simpa using hcontra⟩
  unfold listProjects
  simp only [hauthed, Bool.false_eq_true, if_false]
  exact checkAuthed_refuses rt srv conn _

theorem projectStatusWs_refuses {ws : Ws}
    (hfails : ¬srv.Passes rt conn (.projectStatusWs ws)) :
    (srv.projectStatusWs rt ws conn).Refuses srv
      (refusal rt srv.config conn (.projectStatusWs ws)) := by
  unfold projectStatusWs refusal handshakeRefusal
  rcases not_passes_cases rt hfails with ⟨e, horigin⟩ | horigin | ⟨horigin, hauthed⟩
  · rw [horigin]
    exact finish_refuses srv _
  · rw [horigin]
    exact finish_refuses srv _
  · simp only [horigin, hauthed, Bool.false_eq_true, if_false]
    exact checkAuthed_refuses rt srv conn _

/-- Every route refuses a caller who fails its checks. -/
theorem handle_refuses {call : Call} (hfails : ¬srv.Passes rt conn call) :
    (srv.handle rt conn call).Refuses srv (refusal rt srv.config conn call) := by
  cases call with
  | terminalWs ws name => exact terminalWs_refuses rt hfails
  | endSession request => exact endSession_refuses rt hfails
  | listProjects => exact listProjects_refuses rt hfails
  | projectStatusWs ws => exact projectStatusWs_refuses rt hfails

/-- Servers with the same boundary check a caller alike. -/
theorem Passes.congr (hsame : SameBoundary srv srv') (conn : Conn) (call : Call) :
    srv'.Passes rt conn call ↔ srv.Passes rt conn call := by
  unfold Passes isAuthed
  rw [hsame.now, hsame.auth, hsame.config]
  rfl

/-- Two servers that differ only in their whitelists and sessions give the same replies to a
caller who fails the origin check or the auth check, and neither starts, attaches to or ends a
session or adds a subscriber. -/
theorem unauthenticated_learns_nothing {call : Call} (hsame : SameBoundary srv srv')
    (hfails : ¬srv.Passes rt conn call) :
    (srv'.handle rt conn call).replies = (srv.handle rt conn call).replies ∧
      (srv.handle rt conn call).Untouched srv ∧ (srv'.handle rt conn call).Untouched srv' := by
  have hrefuses := handle_refuses rt hfails
  have hrefuses' := handle_refuses rt (mt (Passes.congr rt hsame conn call).mp hfails)
  refine ⟨?_, hrefuses.toUntouched, hrefuses'.toUntouched⟩
  rw [hrefuses.replies, hrefuses'.replies, hsame.config, refusal_projects]

/-- A handshake for a project that one server has and the other has not, without a token. -/
theorem unauthenticated_learns_nothing_demo :
    let rt : Runtime PyStr := ⟨fun _ => none, fun _ => true, id⟩
    let config : Config := { passwordHash := some (py ['$']) }
    let srv : Server PyStr := { config := config }
    let srv' : Server PyStr :=
      { config := { config with projects := [⟨py ['d'], py ['/'], none, [], []⟩] } }
    let host := py ['h']
    let conn : Conn :=
      { scheme := wss
        headers := fun name => if name = "origin" then some (https ++ py [':', '/', '/'] ++ host)
          else if name = "host" then some host else none
        cookies := fun _ => none
        query := fun _ => none }
    (srv'.handle rt conn (.terminalWs 0 (py ['d']))).replies =
        (srv.handle rt conn (.terminalWs 0 (py ['d']))).replies ∧
      (srv.handle rt conn (.terminalWs 0 (py ['d']))).Untouched srv ∧
      (srv'.handle rt conn (.terminalWs 0 (py ['d']))).Untouched srv' := by
  intro rt config srv srv' host conn
  refine unauthenticated_learns_nothing rt ⟨rfl, rfl, rfl⟩ ?_
  rintro ⟨-, hauthed⟩
  have hnone : srv.isAuthed rt conn = false := rfl
  rw [hnone] at hauthed
  cases hauthed

end Server

end WTerm
