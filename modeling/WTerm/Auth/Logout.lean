import WTerm.Auth.Revocation

/-!
# What a logout reaches

A logout closes the sockets that are registered when it begins. A handshake that passed the
check before and registers afterwards escapes it. Without such a handshake every socket that is
still served when the logout has returned has been told to close.
-/

namespace WTerm

open Transition

variable {Key : Type} [DecidableEq Key] {cfg : AuthSettings Key} {st : AuthState Key} {ws : Ws}
  {key : Key} {s : Socket Key}

/-- The socket was accepted with a token and is served: its receive loop runs, and the server has
not closed it for another reason, as it closes a displaced one with code 4000. -/
structure Socket.ServedWith (s : Socket Key) (key : Key) : Prop where
  accepted : s.key = some key
  serving : s.pc = .serving
  open_ : ∀ code, s.closed = some code → code = unauthorizedCloseCode

/-- From the moment a logout has returned, every socket of its token that is served has had a close
with code 4401 issued. -/
def AuthState.LogoutReaches (st : AuthState Key) : Prop :=
  ∀ call key ws s, st.logouts call = some (.returned (some key)) → st.sockets ws = some s →
    s.ServedWith key → s.revoked = true

/-- No handshake registers its socket after a logout of its token has collected the sockets. -/
def NoLateEntry (st : AuthState Key) : AuthEvent → Prop
  | .enter ws => ∀ s ∈ st.sockets ws, ∀ key ∈ s.key, key ∉ st.loggedOut
  | _ => True

instance noLateEntryDecidable (st : AuthState Key) : (e : AuthEvent) → Decidable (NoLateEntry st e)
  | .enter ws =>
    inferInstanceAs (Decidable (∀ s ∈ st.sockets ws, ∀ key ∈ s.key, key ∉ st.loggedOut))
  | .tick _ | .login _ | .request _ | .logout _ _ _ | .logoutResumes _ | .connect _ _ _
  | .check _ _ | .advance _ _ | .fail _ _ | .leave _ | .close _ _ | .watchdogWakes _
  | .watchdogReturns _ => inferInstanceAs (Decidable True)

/-! ## The invariant -/

/-- `register_socket` registers the socket under the key. -/
def Socket.Registers (cfg : AuthSettings Key) (s : Socket Key) (key : Key) : Prop :=
  cfg.passwordHash.isNone = false ∧
    ∃ token, s.conn.cookies authCookie = some token ∧ token ≠ [] ∧ cfg.tokenKey token = key

/-- What holds of a socket and of its registration. -/
structure Socket.Sound (cfg : AuthSettings Key) (registered : Option Key) (s : Socket Key) :
    Prop where
  registers : ∀ key, s.key = some key → s.Registers cfg key
  registered : s.pc = .serving → ∀ key, s.key = some key → registered = some key
  revoked : s.closed = some unauthorizedCloseCode → s.pc = .finished ∨ s.revoked = true

/-- The token of a logout, and the sockets that it still has to close. -/
def LogoutPc.pending : LogoutPc Key → Option (Key × List Ws)
  | .closing key rest => some (key, rest)
  | .returned key => key.map fun key => (key, [])

/-- Every served socket of a token has been told to close, but for some. -/
def AuthState.ReachesAllBut (st : AuthState Key) (key : Key) (rest : List Ws) : Prop :=
  ∀ ws s, st.sockets ws = some s → s.ServedWith key → s.revoked = true ∨ ws ∈ rest

/-- The invariant of the runs without a late entry. -/
structure AuthState.Sound (cfg : AuthSettings Key) (st : AuthState Key) : Prop where
  valid : ∀ key, (st.auth.validTokens.get key).isSome = true →
    key ≠ cfg.tokenKey [] ∧ key ∈ st.named ∧ key ∉ st.loggedOut
  sockets : ∀ ws s, st.sockets ws = some s → s.Sound cfg (st.auth.wsTokens.get ws)
  logouts : ∀ call pc key rest, st.logouts call = some pc → pc.pending = some (key, rest) →
    key ∈ st.loggedOut ∧ st.ReachesAllBut key rest
  loggedOut : ∀ key ∈ st.loggedOut, key ∈ st.named

/-- At first there are no tokens and no sockets. -/
theorem AuthState.Sound.initial : AuthState.Sound cfg {} where
  valid := by
    intro key hvalid
    cases hvalid
  sockets := by
    intro ws s hs
    cases hs
  logouts := by
    intro call pc key rest hcall
    cases hcall
  loggedOut := by
    intro key hkey
    cases hkey

/-- A socket after a step that serves it no more than before. -/
structure Socket.Follows (s s' : Socket Key) : Prop where
  served : ∀ key, s'.ServedWith key → s.ServedWith key
  revoked : s.revoked = true → s'.revoked = true

namespace AuthState

omit [DecidableEq Key] in
/-- The sockets of the other tasks stay as they are. -/
theorem onSocket_sockets {f : Socket Key → Socket Key} {ws' : Ws} {s' : Socket Key}
    (h : (st.onSocket ws f).sockets ws' = some s') :
    (ws' = ws ∧ ∃ s, st.sockets ws = some s ∧ s' = f s) ∨
      (ws' ≠ ws ∧ st.sockets ws' = some s') := by
  by_cases hws : ws' = ws
  · subst hws
    simp only [onSocket, Function.update_self] at h
    obtain ⟨s, hs, rfl⟩ := Option.map_eq_some_iff.mp h
    exact .inl ⟨rfl, s, hs, rfl⟩
  · simp only [onSocket, Function.update_of_ne hws] at h
    exact .inr ⟨hws, h⟩

omit [DecidableEq Key] in
/-- A change of one socket that serves it no more than before. -/
theorem ReachesAllBut.onSocket {rest : List Ws} {f : Socket Key → Socket Key}
    (h : st.ReachesAllBut key rest) (hf : ∀ s, st.sockets ws = some s → s.Follows (f s)) :
    (st.onSocket ws f).ReachesAllBut key rest := by
  intro ws' s' hs' hserved
  rcases onSocket_sockets hs' with ⟨rfl, s, hs, rfl⟩ | ⟨-, hs⟩
  · rcases h ws' s hs ((hf s hs).served key hserved) with hrevoked | hrest
    · exact .inl ((hf s hs).revoked hrevoked)
    · exact .inr hrest
  · exact h ws' s' hs hserved

/-- A change of one socket that keeps what holds of it. -/
theorem Sound.onSocket {f : Socket Key → Socket Key} (h : st.Sound cfg)
    (hf : ∀ s, st.sockets ws = some s → s.Follows (f s))
    (hsound : ∀ s, st.sockets ws = some s → s.Sound cfg (st.auth.wsTokens.get ws) →
      (f s).Sound cfg (st.auth.wsTokens.get ws)) :
    (st.onSocket ws f).Sound cfg where
  valid := h.valid
  sockets := by
    intro ws' s' hs'
    rcases onSocket_sockets hs' with ⟨rfl, s, hs, rfl⟩ | ⟨-, hs⟩
    · exact hsound s hs (h.sockets ws' s hs)
    · exact h.sockets ws' s' hs
  logouts := by
    intro call pc key rest hcall hpending
    obtain ⟨hout, hreaches⟩ := h.logouts call pc key rest hcall hpending
    exact ⟨hout, hreaches.onSocket hf⟩
  loggedOut := h.loggedOut

/-- A change of the token store that adds no token and keeps the registrations. -/
theorem Sound.setAuth {auth : Auth Key} (h : st.Sound cfg)
    (hvalid : ∀ key, (auth.validTokens.get key).isSome = true →
      (st.auth.validTokens.get key).isSome = true)
    (hsockets : auth.wsTokens = st.auth.wsTokens) : (st.setAuth auth).Sound cfg where
  valid := fun key hkey => h.valid key (hvalid key hkey)
  sockets := by
    intro ws s hs
    rw [AuthState.setAuth, hsockets]
    exact h.sockets ws s hs
  logouts := h.logouts
  loggedOut := h.loggedOut

/-- A step of a watchdog is none of the sockets. -/
theorem Sound.setWatchdog (h : st.Sound cfg) (ws : Ws) (watchdog : Watchdog Key) :
    (st.setWatchdog ws watchdog).Sound cfg :=
  ⟨h.valid, h.sockets, h.logouts, h.loggedOut⟩

omit [DecidableEq Key] in
/-- After `_close_unauthed` a socket is served no more than before. -/
theorem closeUnauthed_follows (s : Socket Key) :
    s.Follows (if s.closed = none then { s with revoked := true } else s) := by
  split
  · exact ⟨fun key hserved => ⟨hserved.accepted, hserved.serving, hserved.open_⟩, fun _ => rfl⟩
  · exact ⟨fun _ hserved => hserved, fun hrevoked => hrevoked⟩

theorem Sound.closeUnauthed (h : st.Sound cfg) (ws : Ws) : (st.closeUnauthed ws).Sound cfg := by
  refine h.onSocket (fun s _ => closeUnauthed_follows s) fun s _ hsound => ?_
  split
  · exact ⟨hsound.registers, hsound.registered, fun _ => .inr rfl⟩
  · exact hsound

/-- After `_close_unauthed` a socket has been told to close. -/
theorem ReachesAllBut.closeUnauthed {rest : List Ws} (h : st.Sound cfg)
    (hreaches : st.ReachesAllBut key (ws :: rest)) :
    (st.closeUnauthed ws).ReachesAllBut key rest := by
  intro ws' s' hs' hserved
  have hfollows : (st.closeUnauthed ws).ReachesAllBut key (ws :: rest) :=
    hreaches.onSocket fun s _ => closeUnauthed_follows s
  rcases hfollows ws' s' hs' hserved with hrevoked | hmem
  · exact .inl hrevoked
  rcases List.mem_cons.mp hmem with rfl | hrest
  · left
    rcases onSocket_sockets hs' with ⟨-, s, hs, rfl⟩ | ⟨hne, -⟩
    · split
      · rfl
      · next hclosed =>
        simp only [hclosed, if_false] at hserved
        obtain ⟨code, hcode⟩ := Option.ne_none_iff_exists'.mp hclosed
        obtain rfl := hserved.open_ code hcode
        rcases (h.sockets ws' s hs).revoked hcode with hfinished | hrevoked
        · rw [hserved.serving] at hfinished
          cases hfinished
        · exact hrevoked
    · exact absurd rfl hne
  · exact .inr hrest

/-! ## Logouts -/

/-- A logout that moves on keeps the invariant if it reaches the other sockets. -/
theorem Sound.setLogout {call : ℕ} {pc : LogoutPc Key} (h : st.Sound cfg)
    (hpc : ∀ key rest, pc.pending = some (key, rest) →
      key ∈ st.loggedOut ∧ st.ReachesAllBut key rest) : (st.setLogout call pc).Sound cfg where
  valid := h.valid
  sockets := h.sockets
  logouts := by
    intro call' pc' key rest hcall hpending
    by_cases hsame : call' = call
    · subst hsame
      simp only [AuthState.setLogout, Function.update_self, Option.some.injEq] at hcall
      subst hcall
      exact hpc key rest hpending
    · simp only [AuthState.setLogout, Function.update_of_ne hsame] at hcall
      exact h.logouts call' pc' key rest hcall hpending
  loggedOut := h.loggedOut

theorem Sound.revokeNext {call : ℕ} {victims : List Ws} (h : st.Sound cfg)
    (hout : key ∈ st.loggedOut) (hreaches : st.ReachesAllBut key victims) :
    (st.revokeNext call key victims).Sound cfg := by
  cases victims with
  | nil =>
    refine h.setLogout fun key' rest hpending => ?_
    obtain ⟨rfl, rfl⟩ := Prod.mk.inj (Option.some.inj hpending)
    exact ⟨hout, hreaches⟩
  | cons ws rest =>
    refine (h.closeUnauthed ws).setLogout fun key' rest' hpending => ?_
    obtain ⟨rfl, rfl⟩ := Prod.mk.inj (Option.some.inj hpending)
    exact ⟨hout, hreaches.closeUnauthed h⟩

/-- A registered socket is among those of its token. -/
theorem mem_tokenSockets {auth : Auth Key} (h : auth.wsTokens.get ws = some key) :
    ws ∈ auth.tokenSockets key := by
  refine List.mem_map.mpr ⟨(ws, key), List.mem_filter.mpr ⟨auth.wsTokens.mem_of_get h, ?_⟩, rfl⟩
  simp

/-- The token is taken out, and the sockets that are registered under it are collected. -/
theorem Sound.revokeToken (h : st.Sound cfg) (key : Key) :
    AuthState.Sound cfg { st with
      auth := st.auth.revokeToken key
      named := key :: st.named
      loggedOut := key :: st.loggedOut } where
  valid := by
    intro key' hvalid
    have hne : key' ≠ key := by
      rintro rfl
      simp [Auth.revokeToken] at hvalid
    rw [Auth.revokeToken, st.auth.validTokens.get_erase_of_ne hne] at hvalid
    obtain ⟨hempty, hnamed, hout⟩ := h.valid key' hvalid
    refine ⟨hempty, List.mem_cons_of_mem _ hnamed, ?_⟩
    rw [List.mem_cons, not_or]
    exact ⟨hne, hout⟩
  sockets := h.sockets
  logouts := by
    intro call pc key' rest hcall hpending
    obtain ⟨hout, hreaches⟩ := h.logouts call pc key' rest hcall hpending
    exact ⟨List.mem_cons_of_mem _ hout, hreaches⟩
  loggedOut := by
    intro key' hkey
    rcases List.mem_cons.mp hkey with rfl | hout
    · exact List.mem_cons_self
    · exact List.mem_cons_of_mem _ (h.loggedOut key' hout)

theorem Sound.logout (h : st.Sound cfg) (call : ℕ) (conn : Conn) (allowed : Bool) :
    (st.logout cfg call conn allowed).Sound cfg := by
  have hnothing : (st.setLogout call (.returned none)).Sound cfg :=
    h.setLogout fun key rest hpending => by cases hpending
  unfold AuthState.logout
  split
  · split
    · exact hnothing
    · exact hnothing
    · next token _ _ =>
      refine (h.revokeToken _).revokeNext List.mem_cons_self ?_
      intro ws s hs hserved
      exact .inr (mem_tokenSockets
        ((h.sockets ws s hs).registered hserved.serving _ hserved.accepted))
  · exact hnothing

theorem Sound.logoutResumes (h : st.Sound cfg) (call : ℕ) :
    (st.logoutResumes call).Sound cfg := by
  unfold AuthState.logoutResumes
  split
  · next key rest hcall =>
    obtain ⟨hout, hreaches⟩ := h.logouts call _ key rest hcall rfl
    exact h.revokeNext hout hreaches
  · exact h

/-! ## Handshakes -/

/-- The registration of a socket whose token has not been logged out. -/
theorem Sound.enter {s' : Socket Key} (h : st.Sound cfg) (hs : st.sockets ws = some s')
    (hconn : s'.conn = s.conn) (hpc : s'.pc ≠ .finished)
    (hlate : ∀ key, s'.key = some key → key ∉ st.loggedOut) : (st.enter cfg ws s).Sound cfg := by
  have hregistered : ∀ key, s'.key = some key →
      (st.auth.registerSocket cfg.tokenKey cfg.passwordHash s.conn ws).wsTokens.get ws =
        some key := by
    intro key hkey
    obtain ⟨hpassword, token, hcookie, hne, rfl⟩ := (h.sockets ws s' hs).registers key hkey
    rw [hconn] at hcookie
    obtain ⟨c, rest, rfl⟩ := List.exists_cons_of_ne_nil hne
    simp [Auth.registerSocket, hpassword, hcookie]
  have hothers : ∀ ws', ws' ≠ ws →
      (st.auth.registerSocket cfg.tokenKey cfg.passwordHash s.conn ws).wsTokens.get ws' =
        st.auth.wsTokens.get ws' := by
    intro ws' hne
    unfold Auth.registerSocket
    split
    · rfl
    · split
      · rfl
      · rfl
      · exact st.auth.wsTokens.get_push_of_ne hne _
  have hvalid : (st.auth.registerSocket cfg.tokenKey cfg.passwordHash s.conn ws).validTokens =
      st.auth.validTokens := by
    unfold Auth.registerSocket
    split
    · rfl
    · split <;> rfl
  constructor
  · intro key hkey
    refine h.valid key ?_
    rw [← hvalid]
    exact hkey
  · intro ws' s₁ hs₁
    rcases onSocket_sockets hs₁ with ⟨rfl, s₂, hs₂, rfl⟩ | ⟨hne, hs₂⟩
    · obtain rfl : s' = s₂ := Option.some.inj (hs.symm.trans hs₂)
      have hsound := h.sockets ws' s' hs
      refine ⟨hsound.registers, fun _ => hregistered, fun hclosed => .inr ?_⟩
      exact (hsound.revoked hclosed).resolve_left hpc
    · have hsame := hothers ws' hne
      have hsound := h.sockets ws' s₁ hs₂
      rw [← hsame] at hsound
      exact hsound
  · intro call pc key rest hcall hpending
    obtain ⟨hout, hreaches⟩ := h.logouts call pc key rest hcall hpending
    refine ⟨hout, ?_⟩
    intro ws' s₁ hs₁ hserved
    rcases onSocket_sockets hs₁ with ⟨rfl, s₂, hs₂, rfl⟩ | ⟨-, hs₂⟩
    · obtain rfl : s' = s₂ := Option.some.inj (hs.symm.trans hs₂)
      exact absurd hout (hlate key hserved.accepted)
    · exact hreaches ws' s₁ hs₂ hserved
  · exact h.loggedOut

/-- The check of a token may only remove it. -/
theorem checkKey_frame (auth : Auth Key) (key : Key) (now : Time) :
    (∀ key', ((auth.checkKey key now).validTokens.get key').isSome = true →
      (auth.validTokens.get key').isSome = true) ∧
      (auth.checkKey key now).wsTokens = auth.wsTokens := by
  unfold Auth.checkKey
  split
  · exact ⟨fun _ hkey => hkey, rfl⟩
  · split
    · exact ⟨fun _ hkey => hkey, rfl⟩
    · refine ⟨fun key' hkey => ?_, rfl⟩
      by_cases hne : key' = key
      · subst hne
        simp at hkey
      · rwa [auth.validTokens.get_erase_of_ne hne] at hkey

theorem checkAuthed_frame (auth : Auth Key) (conn : Conn) (now : Time) :
    (∀ key, ((auth.checkAuthed cfg.tokenKey cfg.passwordHash conn now).validTokens.get key).isSome =
      true → (auth.validTokens.get key).isSome = true) ∧
      (auth.checkAuthed cfg.tokenKey cfg.passwordHash conn now).wsTokens = auth.wsTokens := by
  unfold Auth.checkAuthed
  split
  · exact ⟨fun _ hkey => hkey, rfl⟩
  · split
    · exact ⟨fun _ hkey => hkey, rfl⟩
    · exact checkKey_frame auth _ now

/-- The check of the token, which any route makes and which drops expired tokens, keeps the state
sound. -/
theorem Sound.checkAuthed (h : st.Sound cfg) (conn : Conn) (now : Time) :
    (st.setAuth (st.auth.checkAuthed cfg.tokenKey cfg.passwordHash conn now)).Sound cfg :=
  h.setAuth (checkAuthed_frame st.auth conn now).1 (checkAuthed_frame st.auth conn now).2

/-- A valid token is in the store. -/
theorem isSome_of_keyValid {auth : Auth Key} {now : Time} (h : auth.keyValid key now = true) :
    (auth.validTokens.get key).isSome = true := by
  unfold Auth.keyValid at h
  cases hissued : auth.validTokens.get key with
  | none => simp [hissued] at h
  | some issuedAt => rfl

/-- A socket that passes the check is accepted with a token that can be registered and that no
logout has named. -/
theorem Sound.accepted (h : st.Sound cfg)
    (hauthed : st.auth.isAuthed cfg.tokenKey cfg.passwordHash s.conn st.now = true)
    (hkey : acceptedKey cfg s = some key) : s.Registers cfg key ∧ key ∉ st.loggedOut := by
  unfold acceptedKey at hkey
  cases hpassword : cfg.passwordHash.isNone with
  | true => simp [hpassword] at hkey
  | false =>
    rw [hpassword, if_neg (by simp)] at hkey
    obtain ⟨token, hcookie, rfl⟩ := Option.map_eq_some_iff.mp hkey
    have hvalid : st.auth.keyValid (cfg.tokenKey token) st.now = true := by
      simpa [Auth.isAuthed, hpassword, hkey] using hauthed
    obtain ⟨hempty, -, hout⟩ := h.valid (cfg.tokenKey token) (isSome_of_keyValid hvalid)
    refine ⟨⟨hpassword, token, hcookie, ?_, rfl⟩, hout⟩
    rintro rfl
    exact hempty rfl

/-- A socket that is not served moves on to a place where it is not served. -/
theorem Sound.idle {f : Socket Key → Socket Key} (h : st.Sound cfg)
    (hpc : ∀ s, st.sockets ws = some s → (f s).pc ≠ .serving)
    (hregisters : ∀ s, st.sockets ws = some s → ∀ key, (f s).key = some key →
      (f s).Registers cfg key)
    (hrevoked : ∀ s, st.sockets ws = some s → s.revoked = true → (f s).revoked = true)
    (hclosed : ∀ s, st.sockets ws = some s → (f s).pc = .finished ∨ (f s).closed = s.closed ∧
      s.pc ≠ .finished) :
    (st.onSocket ws f).Sound cfg := by
  refine h.onSocket (fun s hs => ⟨fun key hserved => ?_, hrevoked s hs⟩) fun s hs hsound => ?_
  · exact absurd hserved.serving (hpc s hs)
  · refine ⟨hregisters s hs, fun hserving => absurd hserving (hpc s hs), fun hcode => ?_⟩
    rcases hclosed s hs with hfinished | ⟨hsame, hopen⟩
    · exact .inl hfinished
    · rw [hsame] at hcode
      exact .inr (hrevoked s hs ((hsound.revoked hcode).resolve_left hopen))

/-- The handshake of a socket up to its first await, or up to the receive loop. -/
theorem Sound.check (h : st.Sound cfg) (hs : st.sockets ws = some s) (hpc : s.pc = .accepting)
    (refused : Option ℕ) : (st.check cfg ws refused s).Sound cfg := by
  have honly : ∀ s', st.sockets ws = some s' → s' = s := fun s' hs' =>
    Option.some.inj (hs'.symm.trans hs)
  have hchecked := h.checkAuthed s.conn st.now
  unfold AuthState.check
  cases hauthed : st.auth.isAuthed cfg.tokenKey cfg.passwordHash s.conn st.now with
  | false =>
    simp only [Bool.false_eq_true, if_false]
    exact hchecked.idle (fun _ _ => by simp) (fun s' hs' => (h.sockets ws s' hs').registers)
      (fun _ _ hrevoked => hrevoked) fun _ _ => .inl rfl
  | true =>
    simp only [if_true]
    have hkeyed : AuthState.Sound cfg
        ((st.setAuth (st.auth.checkAuthed cfg.tokenKey cfg.passwordHash s.conn st.now)).onSocket ws
          fun s => { s with key := acceptedKey cfg s }) := by
      refine hchecked.idle ?_ ?_ (fun _ _ hrevoked => hrevoked) ?_
      · intro s' hs'
        obtain rfl := honly s' hs'
        simp [hpc]
      · intro s' hs' key hkey
        obtain rfl := honly s' hs'
        exact (h.accepted hauthed hkey).1
      · intro s' hs'
        obtain rfl := honly s' hs'
        exact .inr ⟨rfl, by simp [hpc]⟩
    have hs' : ((st.setAuth (st.auth.checkAuthed cfg.tokenKey cfg.passwordHash s.conn
        st.now)).onSocket ws fun s => { s with key := acceptedKey cfg s }).sockets ws =
          some { s with key := acceptedKey cfg s } := by
      simp [AuthState.onSocket, AuthState.setAuth, hs]
    split
    · refine hkeyed.enter hs' rfl (by simp [hpc]) fun key hkey => ?_
      exact (h.accepted hauthed hkey).2
    · refine hkeyed.idle (fun _ _ => by simp) (fun s₁ hs₁ => (hkeyed.sockets ws s₁ hs₁).registers)
        (fun _ _ hrevoked => hrevoked) fun s₁ hs₁ => .inr ⟨rfl, ?_⟩
      obtain rfl := Option.some.inj (hs₁.symm.trans hs')
      simp [hpc]
    · exact hkeyed.idle (fun _ _ => by simp) (fun s₁ hs₁ => (hkeyed.sockets ws s₁ hs₁).registers)
        (fun _ _ hrevoked => hrevoked) fun _ _ => .inl rfl

/-- The end of a receive loop, which takes its socket from the list, keeps the state sound. -/
theorem Sound.leave (h : st.Sound cfg) (ws : Ws) : (st.leave ws).Sound cfg where
  valid := h.valid
  sockets := by
    intro ws' s₁ hs₁
    rcases onSocket_sockets hs₁ with ⟨rfl, s₂, hs₂, rfl⟩ | ⟨hne, hs₂⟩
    · refine ⟨(h.sockets ws' s₂ hs₂).registers, ?_, fun _ => .inl rfl⟩
      intro hserving
      cases hserving
    · have hsound := h.sockets ws' s₁ hs₂
      rw [← st.auth.wsTokens.get_erase_of_ne hne] at hsound
      exact hsound
  logouts := by
    intro call pc key rest hcall hpending
    obtain ⟨hout, hreaches⟩ := h.logouts call pc key rest hcall hpending
    refine ⟨hout, fun ws' s₁ hs₁ hserved => ?_⟩
    rcases onSocket_sockets hs₁ with ⟨rfl, s₂, hs₂, rfl⟩ | ⟨-, hs₂⟩
    · cases hserved.serving
    · exact hreaches ws' s₁ hs₂ hserved
  loggedOut := h.loggedOut

theorem Sound.watchdogWakes (h : st.Sound cfg) (ws : Ws) : (st.watchdogWakes ws).Sound cfg := by
  have hchecked : ∀ (auth : Auth Key) (key : Key), auth.validTokens = st.auth.validTokens →
      auth.wsTokens = st.auth.wsTokens → (st.setAuth (auth.checkKey key st.now)).Sound cfg := by
    intro auth key hvalid hregistered
    obtain ⟨htokens, hsockets⟩ := checkKey_frame auth key st.now
    refine h.setAuth (fun key' hkey => ?_) (hsockets.trans hregistered)
    rw [← hvalid]
    exact htokens key' hkey
  unfold AuthState.watchdogWakes
  split
  · next key notified deadline _ =>
    have hvalid : (if notified then { st.auth with tokensChanged := false } else
        st.auth).validTokens = st.auth.validTokens := by split <;> rfl
    have hregistered : (if notified then { st.auth with tokensChanged := false } else
        st.auth).wsTokens = st.auth.wsTokens := by split <;> rfl
    dsimp only
    generalize (if notified then { st.auth with tokensChanged := false } else st.auth) = auth
      at hvalid hregistered ⊢
    have hsound := hchecked auth key hvalid hregistered
    split
    · exact hsound.setWatchdog ws _
    · exact (hsound.closeUnauthed ws).setWatchdog ws _
  · exact h

/-- Only the new token is added to the store. -/
theorem issueToken_frame (auth : Auth Key) {key key' : Key} {now : Time} (hne : key' ≠ key)
    (hkey : ((auth.issueToken key now).validTokens.get key').isSome = true) :
    (auth.validTokens.get key').isSome = true := by
  unfold Auth.issueToken at hkey
  rcases OrderedDict.get_evict _ maxTokens key' with hgone | hkept
  · rw [hgone] at hkey
    cases hkey
  · rw [hkept, OrderedDict.get_push_of_ne _ hne] at hkey
    obtain ⟨issuedAt, hissued⟩ := Option.isSome_iff_exists.mp hkey
    rw [auth.validTokens.get_keep hissued]
    rfl

theorem issueToken_wsTokens (auth : Auth Key) (key : Key) (now : Time) :
    (auth.issueToken key now).wsTokens = auth.wsTokens := by
  unfold Auth.issueToken
  rfl

/-- A new token is none that a logout has named. -/
theorem Sound.login {token : PyStr} (h : st.Sound cfg) (hnew : cfg.tokenKey token ∉ st.named)
    (hempty : cfg.tokenKey token ≠ cfg.tokenKey []) :
    AuthState.Sound cfg { st.setAuth (st.auth.issueToken (cfg.tokenKey token) st.now) with
      named := cfg.tokenKey token :: st.named } := by
  have hframe := issueToken_wsTokens st.auth (cfg.tokenKey token) st.now
  have hstore : ∀ key, key ≠ cfg.tokenKey token →
      ((st.auth.issueToken (cfg.tokenKey token) st.now).validTokens.get key).isSome = true →
      (st.auth.validTokens.get key).isSome = true := fun key hne => issueToken_frame st.auth hne
  generalize st.auth.issueToken (cfg.tokenKey token) st.now = auth at hframe hstore ⊢
  constructor
  · intro key hkey
    by_cases hsame : key = cfg.tokenKey token
    · subst hsame
      exact ⟨hempty, List.mem_cons_self, fun hout => hnew (h.loggedOut _ hout)⟩
    · obtain ⟨hne, hnamed, hout⟩ := h.valid key (hstore key hsame hkey)
      exact ⟨hne, List.mem_cons_of_mem _ hnamed, hout⟩
  · intro ws s hs
    have hsound := h.sockets ws s hs
    rw [← hframe] at hsound
    exact hsound
  · exact h.logouts
  · exact fun key hout => List.mem_cons_of_mem _ (h.loggedOut key hout)

/-- A new socket has no token yet. -/
theorem Sound.connect (h : st.Sound cfg) (ws : Ws) (kind : SocketKind) (conn : Conn) :
    (AuthEvent.apply cfg st (.connect ws kind conn)).Sound cfg where
  valid := h.valid
  sockets := by
    intro ws' s hs
    by_cases hsame : ws' = ws
    · subst hsame
      simp only [AuthEvent.apply, Function.update_self, Option.some.injEq] at hs
      subst hs
      constructor <;> simp
    · simp only [AuthEvent.apply, Function.update_of_ne hsame] at hs
      exact h.sockets ws' s hs
  logouts := by
    intro call pc key rest hcall hpending
    obtain ⟨hout, hreaches⟩ := h.logouts call pc key rest hcall hpending
    refine ⟨hout, fun ws' s hs hserved => ?_⟩
    by_cases hsame : ws' = ws
    · subst hsame
      simp only [AuthEvent.apply, Function.update_self, Option.some.injEq] at hs
      subst hs
      cases hserved.serving
    · simp only [AuthEvent.apply, Function.update_of_ne hsame] at hs
      exact hreaches ws' s hs hserved
  loggedOut := h.loggedOut

/-- A close that goes out on an open socket. -/
theorem Sound.close {code : ℕ} (h : st.Sound cfg) (hs : st.sockets ws = some s)
    (hclose : AuthEvent.canClose s code = true) :
    (st.onSocket ws fun s => { s with closed := some code }).Sound cfg := by
  obtain ⟨hopen, hissued⟩ := (Bool.and_eq_true _ _).mp hclose
  have honly : ∀ s', st.sockets ws = some s' → s' = s := fun s' hs' =>
    Option.some.inj (hs'.symm.trans hs)
  refine h.onSocket (fun s' hs' => ⟨fun key hserved => ?_, id⟩) fun s' hs' hsound => ?_
  · obtain rfl := honly s' hs'
    refine ⟨hserved.accepted, hserved.serving, fun code' hcode => ?_⟩
    rw [Option.isNone_iff_eq_none.mp hopen] at hcode
    cases hcode
  · obtain rfl := honly s' hs'
    refine ⟨hsound.registers, hsound.registered, fun hcode => .inr ?_⟩
    obtain rfl := Option.some.inj hcode
    simpa using hissued

/-- Every event but a late entry keeps the invariant. -/
theorem Sound.apply {e : AuthEvent} (h : st.Sound cfg) (hen : e.Enabled cfg st)
    (hentry : NoLateEntry st e) : (e.apply cfg st).Sound cfg := by
  cases e with
  | tick elapsed => exact ⟨h.valid, h.sockets, h.logouts, h.loggedOut⟩
  | login token => exact h.login hen.1 hen.2
  | request conn => exact h.checkAuthed conn st.now
  | logout call conn allowed => exact h.logout call conn allowed
  | logoutResumes call => exact h.logoutResumes call
  | connect ws kind conn => exact h.connect ws kind conn
  | check ws refused =>
    obtain ⟨s, hs, hpc⟩ := (Option.any_eq_true _ _).mp hen
    simp only [AuthEvent.apply, hs, Option.elim]
    exact h.check hs (of_decide_eq_true hpc) refused
  | advance ws await =>
    obtain ⟨s, hs, hpc⟩ := (Option.any_eq_true _ _).mp hen
    refine h.idle (fun _ _ => by simp) (fun s' hs' => (h.sockets ws s' hs').registers)
      (fun _ _ hrevoked => hrevoked) fun s' hs' => .inr ⟨rfl, ?_⟩
    obtain rfl := Option.some.inj (hs'.symm.trans hs)
    rintro hfinished
    simp [hfinished, AuthEvent.leadsTo] at hpc
  | enter ws =>
    obtain ⟨s, hs, hpc⟩ := (Option.any_eq_true _ _).mp hen
    simp only [AuthEvent.apply, hs, Option.elim]
    refine h.enter hs rfl ?_ fun key hkey => hentry s hs key hkey
    rintro hfinished
    simp [hfinished, AuthEvent.inTransition] at hpc
  | fail ws code =>
    exact h.idle (fun _ _ => by simp) (fun s' hs' => (h.sockets ws s' hs').registers)
      (fun _ _ hrevoked => hrevoked) fun _ _ => .inl rfl
  | leave ws => exact h.leave ws
  | close ws code =>
    obtain ⟨s, hs, hclose⟩ := (Option.any_eq_true _ _).mp hen
    exact h.close hs hclose
  | watchdogWakes ws => exact h.watchdogWakes ws
  | watchdogReturns ws => exact h.setWatchdog ws .done

end AuthState

/-! ## Runs -/

/-- In the runs without a late entry, a logout reaches every socket of its token that is still
served when it has returned, and every one that is served afterwards. -/
theorem logout_reaches (hrun : Run (authSystem cfg) NoLateEntry {} st) : st.LogoutReaches := by
  have hsound : st.Sound cfg := hrun.invariant .initial fun _ _ h hen hentry => h.apply hen hentry
  intro call key ws s hcall hs hserved
  obtain ⟨-, hreaches⟩ := hsound.logouts call _ key [] hcall rfl
  rcases hreaches ws s hs hserved with hrevoked | hrest
  · exact hrevoked
  · cases hrest

/-- Settings whose tokens are their own keys. -/
def plainSettings : AuthSettings PyStr where
  tokenKey := id
  passwordHash := some []

/-- A request with the token. -/
def tokenConn (token : PyStr) : Conn where
  scheme := https
  headers _ := none
  cookies _ := some token
  query _ := none

/-- A terminal and a status socket are served with a token, and the token is logged out. -/
def revokedSockets : AuthState PyStr := (authSystem plainSettings).exec {}
  [.login (py ['t']), .connect 0 .terminal (tokenConn (py ['t'])), .check 0 none,
    .connect 1 .status (tokenConn (py ['t'])), .check 1 none, .enter 0,
    .logout 0 (tokenConn (py ['t'])) true, .logoutResumes 0, .logoutResumes 0]

/-- Both sockets are still in their loops when the logout has returned, and are told to close. -/
theorem logout_reaches_both : revokedSockets.LogoutReaches ∧
    (revokedSockets.sockets 0).any (fun s => s.pc = .serving && s.revoked) = true ∧
    (revokedSockets.sockets 1).any (fun s => s.pc = .serving && s.revoked) = true :=
  ⟨logout_reaches (System.Valid.guardedRun _ (by decide)), by decide, by decide⟩

/-- A logout falls into the transition of a handshake. -/
def lateSocket : AuthState PyStr := (authSystem plainSettings).exec {}
  [.login (py ['t']), .connect 0 .terminal (tokenConn (py ['t'])), .check 0 none,
    .logout 0 (tokenConn (py ['t'])) true, .enter 0]

/-- A socket that registers late is served with a token that is logged out. -/
theorem logout_misses : ¬∀ (cfg : AuthSettings PyStr) (st : AuthState PyStr),
    Run (authSystem cfg) (fun _ _ => True) {} st → st.LogoutReaches := by
  intro h
  have hreaches := h plainSettings lateSocket (System.Valid.run _ (by decide))
  have hlate : (lateSocket.sockets 0).any (fun s => s.key = some (py ['t']) &&
      s.pc = .serving && s.closed.isNone && !s.revoked) = true := by decide
  obtain ⟨s, hs, hmissed⟩ := (Option.any_eq_true _ _).mp hlate
  simp only [Bool.and_eq_true, decide_eq_true_eq, Bool.not_eq_true'] at hmissed
  obtain ⟨⟨⟨hkey, hserving⟩, hopen⟩, hmissed⟩ := hmissed
  have hserved : s.ServedWith (py ['t']) := by
    refine ⟨hkey, hserving, fun code hcode => ?_⟩
    rw [Option.isNone_iff_eq_none.mp hopen] at hcode
    cases hcode
  have hrevoked := hreaches 0 (py ['t']) 0 s rfl hs hserved
  rw [hrevoked] at hmissed
  cases hmissed

end WTerm
