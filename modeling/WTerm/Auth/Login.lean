import Mathlib.Algebra.Group.Nat.Defs
import WTerm.Lib.OrderedDict
import WTerm.Lib.Transition
import WTerm.Session.Basic

/-!
# The login boundary

`AuthManager.login` limits what a client can cost: failures of a client block it for a while,
and at most two verifications run at a time. Between the check of the block and the
verification a request reads its body and waits for a slot, so any number of requests of one
client can be on their way.
-/

namespace WTerm

open Transition

/-- Failures without a delay. -/
def loginFreeAttempts : ℕ := 5

/-- The longest delay. -/
def loginBackoffMax : ℕ := 900

/-- How long after its block the failures of a client are forgotten. -/
def loginFailDecay : Time := 900 * second

/-- How many clients' failures are kept. -/
def loginBucketLimit : ℕ := 1024

/-- How many verifications run at a time. -/
def loginMaxConcurrent : ℕ := 2

/-- The largest body of a login request. -/
def loginBodyLimit : ℕ := 4096

/-- The failures of a client, and when it is unblocked. -/
structure LoginFails where
  fails : ℕ
  unblockAt : Time
  deriving DecidableEq

/-- The response to a login request. -/
inductive LoginResponse where
  /-- 403: the origin is not allowed. -/
  | forbidden
  /-- 200 without a token: authentication is disabled. -/
  | disabled
  /-- 411: no usable `Content-Length`. -/
  | lengthRequired
  /-- 413. -/
  | tooLarge
  /-- 429, with `Retry-After`. -/
  | blocked (retryAfter : ℕ)
  /-- 400: the body has no password. -/
  | badBody
  /-- 401. -/
  | wrong
  /-- 200 with a new token. -/
  | ok
  deriving DecidableEq

variable {Key : Type} [DecidableEq Key]

/-- The failures of every client, oldest first. -/
abbrev LoginTable (Key : Type) := OrderedDict Key LoginFails

/-- `_login_block_remaining`. -/
def loginBlockRemaining (table : LoginTable Key) (key : Key) (now : Time) : Time :=
  match table.get key with
  | none => 0
  | some entry => entry.unblockAt - now

/-- The failures of a client after another one. -/
def nextFails (table : LoginTable Key) (key : Key) (now : Time) : ℕ :=
  let entry := (table.get key).getD ⟨0, 0⟩
  (if entry.unblockAt + loginFailDecay < now then 0 else entry.fails) + 1

/-- The delay after a number of failures. The power of two is a float, which overflows at
2^1024. -/
def loginDelay (fails : ℕ) : Option Time :=
  if loginFreeAttempts < fails then
    if 1024 ≤ fails - loginFreeAttempts then none
    else some (min (2 ^ (fails - loginFreeAttempts)) loginBackoffMax * second)
  else some 0

/-- A client's entry is replaced by a newer one; without a delay it is left out. -/
def putLoginFails (table : LoginTable Key) (key : Key) (fails : ℕ) (now : Time) :
    Option Time → LoginTable Key
  | none => table.erase key
  | some delay => (table.push key ⟨fails, now + delay⟩).evict loginBucketLimit

/-- `_record_login_failure`. The entry is taken out first, and an overflow leaves it out. -/
def recordLoginFailure (table : LoginTable Key) (key : Key) (now : Time) : LoginTable Key :=
  putLoginFails table key (nextFails table key now) now (loginDelay (nextFails table key now))

/-- Where a login request stands. -/
inductive LoginPc (Key : Type) where
  | absent
  /-- Past the check of the block, in `request.json`. -/
  | reading (key : Key)
  /-- Waiting for a slot. -/
  | queueing (key : Key)
  /-- Has a slot, and its verification has not started yet. -/
  | granted (key : Key)
  | verifying (key : Key)
  /-- Answered, or ended by an exception. -/
  | finished (response : Option LoginResponse)
  deriving DecidableEq

/-- The start of a verification, with the rest of the client's block at that moment. -/
structure VerifyStart (Key : Type) where
  key : Key
  remaining : Time
  deriving DecidableEq

/-- The login requests of all clients. -/
structure Logins (Key : Type) where
  now : Time := 0
  /-- `_login_fails`. -/
  table : LoginTable Key
  requests : ℕ → LoginPc Key := fun _ => .absent
  /-- The free slots of `_login_slots`. -/
  slots : ℕ := loginMaxConcurrent
  /-- The requests that wait for a slot. -/
  queue : List ℕ := []
  /-- History: the verifications. -/
  starts : List (VerifyStart Key) := []

namespace Logins

/-- A request moves on. -/
def setRequest (l : Logins Key) (r : ℕ) (pc : LoginPc Key) : Logins Key :=
  { l with requests := Function.update l.requests r pc }

/-- A request gets the slot that it waits for. -/
def grant (l : Logins Key) (r : ℕ) : Logins Key :=
  match l.requests r with
  | .queueing key => l.setRequest r (.granted key)
  | _ => l

/-- A slot is given back, or to the first request that waits. -/
def releaseSlot (l : Logins Key) : Logins Key :=
  match l.queue with
  | [] => { l with slots := l.slots + 1 }
  | r :: rest => { l with queue := rest }.grant r

/-- A request asks for a slot. -/
def acquireSlot (l : Logins Key) (r : ℕ) (key : Key) : Logins Key :=
  if l.slots = 0 ∨ l.queue ≠ [] then
    { l with queue := l.queue ++ [r] }.setRequest r (.queueing key)
  else { l with slots := l.slots - 1 }.setRequest r (.granted key)

/-- `login`, up to its first await. `declared` is the number in `Content-Length`, if there is
one. -/
def login (l : Logins Key) (passwordHash : Bool) (r : ℕ) (key : Key) (origin : Bool)
    (declared : Option ℕ) : Logins Key :=
  l.setRequest r <|
    if !origin then .finished (some .forbidden)
    else if !passwordHash then .finished (some .disabled)
    else match declared with
      | none => .finished (some .lengthRequired)
      | some length =>
        if loginBodyLimit < length then .finished (some .tooLarge)
        else
          let wait := loginBlockRemaining l.table key l.now
          if 0 < wait then .finished (some (.blocked (wait / second + 1)))
          else .reading key

/-- The body arrives, with a password or without one. -/
def body (l : Logins Key) (r : ℕ) (password : Bool) : Logins Key :=
  match l.requests r with
  | .reading key =>
    if password then l.acquireSlot r key else l.setRequest r (.finished (some .badBody))
  | _ => l

/-- The verification starts in its thread. -/
def start (l : Logins Key) (r : ℕ) : Logins Key :=
  match l.requests r with
  | .granted key =>
    { l with
      starts := l.starts ++ [VerifyStart.mk key (loginBlockRemaining l.table key l.now)]
    }.setRequest r (.verifying key)
  | _ => l

/-- The verification ends, with a match or without one. -/
def verified (l : Logins Key) (r : ℕ) (isMatch : Bool) : Logins Key :=
  match l.requests r with
  | .verifying key =>
    let l := l.releaseSlot
    if isMatch then
      { l with table := l.table.erase key }.setRequest r (.finished (some .ok))
    else
      { l with table := recordLoginFailure l.table key l.now }.setRequest r
        (.finished (some .wrong))
  | _ => l

/-- Another exception ends the request, or its cancellation. -/
def abort (l : Logins Key) (r : ℕ) : Logins Key :=
  match l.requests r with
  | .granted _ | .verifying _ => l.releaseSlot.setRequest r (.finished none)
  | .queueing _ => { l with queue := l.queue.erase r }.setRequest r (.finished none)
  | .reading _ => l.setRequest r (.finished none)
  | _ => l

end Logins

namespace LoginPc

/-- In `request.json`. -/
def Reading : LoginPc Key → Prop
  | .reading _ => True
  | _ => False

/-- The verification can start. -/
def Granted : LoginPc Key → Prop
  | .granted _ => True
  | _ => False

/-- The verification runs. -/
def Verifying : LoginPc Key → Prop
  | .verifying _ => True
  | _ => False

/-- Neither answered nor ended. -/
def Open : LoginPc Key → Prop
  | .absent | .finished _ => False
  | _ => True

instance : (pc : LoginPc Key) → Decidable pc.Reading
  | .reading _ => inferInstanceAs (Decidable True)
  | .absent | .queueing _ | .granted _ | .verifying _ | .finished _ =>
    inferInstanceAs (Decidable False)

instance : (pc : LoginPc Key) → Decidable pc.Granted
  | .granted _ => inferInstanceAs (Decidable True)
  | .absent | .reading _ | .queueing _ | .verifying _ | .finished _ =>
    inferInstanceAs (Decidable False)

instance : (pc : LoginPc Key) → Decidable pc.Verifying
  | .verifying _ => inferInstanceAs (Decidable True)
  | .absent | .reading _ | .queueing _ | .granted _ | .finished _ =>
    inferInstanceAs (Decidable False)

instance : (pc : LoginPc Key) → Decidable pc.Open
  | .reading _ | .queueing _ | .granted _ | .verifying _ => inferInstanceAs (Decidable True)
  | .absent | .finished _ => inferInstanceAs (Decidable False)

end LoginPc

/-- The steps of the login requests. -/
inductive LoginEvent (Key : Type) where
  | tick (elapsed : Time)
  | login (r : ℕ) (key : Key) (origin : Bool) (declared : Option ℕ)
  | body (r : ℕ) (password : Bool)
  | start (r : ℕ)
  | verified (r : ℕ) (isMatch : Bool)
  | abort (r : ℕ)

namespace LoginEvent

/-- When an event can happen: a request comes once, and everything else waits for its place in
the request. -/
def Enabled (l : Logins Key) : LoginEvent Key → Prop
  | .tick _ => True
  | .login r _ _ _ => l.requests r = .absent
  | .body r _ => (l.requests r).Reading
  | .start r => (l.requests r).Granted
  | .verified r _ => (l.requests r).Verifying
  | .abort r => (l.requests r).Open

instance (l : Logins Key) : (e : LoginEvent Key) → Decidable (e.Enabled l)
  | .tick _ => inferInstanceAs (Decidable True)
  | .login r _ _ _ => inferInstanceAs (Decidable (l.requests r = .absent))
  | .body r _ => inferInstanceAs (Decidable (l.requests r).Reading)
  | .start r => inferInstanceAs (Decidable (l.requests r).Granted)
  | .verified r _ => inferInstanceAs (Decidable (l.requests r).Verifying)
  | .abort r => inferInstanceAs (Decidable (l.requests r).Open)

/-- The state after an event. -/
def apply (passwordHash : Bool) (l : Logins Key) : LoginEvent Key → Logins Key
  | .tick elapsed => { l with now := l.now + elapsed }
  | .login r key origin declared => l.login passwordHash r key origin declared
  | .body r password => l.body r password
  | .start r => l.start r
  | .verified r isMatch => l.verified r isMatch
  | .abort r => l.abort r

end LoginEvent

/-- The transition system of the login requests. -/
def loginSystem (passwordHash : Bool) : System (Logins Key) (LoginEvent Key) where
  Enabled := LoginEvent.Enabled
  apply := LoginEvent.apply passwordHash

instance (passwordHash : Bool) (l : Logins Key) (e : LoginEvent Key) :
    Decidable ((loginSystem passwordHash).Enabled l e) :=
  inferInstanceAs (Decidable (e.Enabled l))

/-- The client of a request that has passed the check of the block and whose verification has not
started. -/
def LoginPc.pendingKey : LoginPc Key → Option Key
  | .reading key | .queueing key | .granted key => some key
  | _ => none

/-- A failure that blocks a client is recorded while another request of this client is past the
check of the block and has not started its verification. -/
def LoginEvent.BlocksPending (l : Logins Key) : LoginEvent Key → Prop
  | .verified r false => ∃ key, l.requests r = .verifying key ∧
      (∃ delay, loginDelay (nextFails l.table key l.now) = some delay ∧ 0 < delay) ∧
      ∃ r', (l.requests r').pendingKey = some key
  | _ => False

/-- The runs without such a failure. -/
def NoPendingBlock (l : Logins Key) (e : LoginEvent Key) : Prop := ¬e.BlocksPending l

/-! ## The block -/

section Block

variable {table : LoginTable Key} {key key' : Key} {now : Time}

/-- The block of a client with an entry. -/
theorem loginBlockRemaining_some {entry : LoginFails} (h : table.get key = some entry) :
    loginBlockRemaining table key now = entry.unblockAt - now := by
  rw [loginBlockRemaining, h]

/-- A client without an entry is not blocked. -/
theorem loginBlockRemaining_none (h : table.get key = none) :
    loginBlockRemaining table key now = 0 := by
  rw [loginBlockRemaining, h]

/-- The block of a client depends on its entry only. -/
theorem loginBlockRemaining_congr {table' : LoginTable Key} (h : table'.get key = table.get key) :
    loginBlockRemaining table' key now = loginBlockRemaining table key now := by
  rw [loginBlockRemaining, loginBlockRemaining, h]

/-- A client that is not blocked at a time is not blocked later either, as long as the table stays
as it is. -/
theorem loginBlockRemaining_mono {later : Time} (hlater : now ≤ later)
    (h : loginBlockRemaining table key now = 0) : loginBlockRemaining table key later = 0 := by
  cases hget : table.get key with
  | none => exact loginBlockRemaining_none hget
  | some entry =>
    rw [loginBlockRemaining_some hget] at h ⊢
    exact Nat.sub_eq_zero_of_le (Nat.le_trans (Nat.le_of_sub_eq_zero h) hlater)

/-- A client whose failures were forgotten is not blocked. -/
theorem loginBlockRemaining_erase (h : loginBlockRemaining table key' now = 0) :
    loginBlockRemaining (table.erase key) key' now = 0 := by
  by_cases hkey : key' = key
  · subst hkey
    exact loginBlockRemaining_none (table.get_erase_self key')
  · rwa [loginBlockRemaining_congr (table.get_erase_of_ne hkey)]

/-- The eviction of old entries blocks no client that was not blocked before. -/
theorem loginBlockRemaining_evict {limit : ℕ} (h : loginBlockRemaining table key now = 0) :
    loginBlockRemaining (table.evict limit) key now = 0 := by
  rcases table.get_evict limit key with hgone | hsame
  · exact loginBlockRemaining_none hgone
  · rwa [loginBlockRemaining_congr hsame]

/-- The new entry of a client blocks no other client. -/
theorem loginBlockRemaining_put_of_ne {fails : ℕ} {delay : Option Time} (hne : key' ≠ key)
    (h : loginBlockRemaining table key' now = 0) :
    loginBlockRemaining (putLoginFails table key fails now delay) key' now = 0 := by
  cases delay with
  | none => exact loginBlockRemaining_erase h
  | some delay =>
    refine loginBlockRemaining_evict ?_
    rwa [loginBlockRemaining_congr (table.get_push_of_ne hne _)]

/-- The new entry of a client without a delay does not block it. -/
theorem loginBlockRemaining_put_self {fails : ℕ} {delay : Option Time}
    (hfree : ∀ d, delay = some d → d = 0) :
    loginBlockRemaining (putLoginFails table key fails now delay) key now = 0 := by
  cases delay with
  | none => exact loginBlockRemaining_none (table.get_erase_self key)
  | some delay =>
    refine loginBlockRemaining_evict ?_
    rw [loginBlockRemaining_some (table.get_push_self key _), hfree delay rfl]
    exact Nat.sub_self now

end Block

namespace Logins

variable {l : Logins Key} {r : ℕ} {pc : LoginPc Key}

/-- Every request between the check and its verification belongs to a client that is not blocked,
and every verification started so. -/
structure Sound (l : Logins Key) : Prop where
  pending : ∀ r key, (l.requests r).pendingKey = some key →
    loginBlockRemaining l.table key l.now = 0
  starts : ∀ s ∈ l.starts, s.remaining = 0

/-- A request that moves on to a place of a client that is not blocked keeps the state sound. -/
theorem Sound.setRequest (h : l.Sound) (r : ℕ)
    (hpc : ∀ key, pc.pendingKey = some key → loginBlockRemaining l.table key l.now = 0) :
    (l.setRequest r pc).Sound := by
  refine ⟨fun r' key hpending => ?_, h.starts⟩
  by_cases hr : r' = r
  · subst hr
    simp only [Logins.setRequest, Function.update_self] at hpending
    exact hpc key hpending
  · simp only [Logins.setRequest, Function.update_of_ne hr] at hpending
    exact h.pending r' key hpending

/-- A slot that is given back changes nothing but slots and places in the queue. -/
theorem Sound.releaseSlot (h : l.Sound) : l.releaseSlot.Sound := by
  unfold Logins.releaseSlot
  split
  · exact ⟨h.pending, h.starts⟩
  · next r rest hqueue =>
    unfold grant
    split
    · next key hrequest =>
      have hkey : loginBlockRemaining l.table key l.now = 0 :=
        h.pending r key (by rw [show l.requests r = .queueing key from hrequest]; rfl)
      have hrest : Logins.Sound { l with queue := rest } := ⟨h.pending, h.starts⟩
      exact hrest.setRequest r fun key' hkey' => Option.some.inj hkey' ▸ hkey
    · exact ⟨h.pending, h.starts⟩

omit [DecidableEq Key] in
/-- Giving a slot back leaves the clock and the failures alone. -/
theorem releaseSlot_table (l : Logins Key) :
    l.releaseSlot.table = l.table ∧ l.releaseSlot.now = l.now := by
  unfold Logins.releaseSlot
  split
  · exact ⟨rfl, rfl⟩
  · unfold grant
    split <;> exact ⟨rfl, rfl⟩

omit [DecidableEq Key] in
/-- Giving a slot back takes no request past its verification or before its check. -/
theorem releaseSlot_pendingKey (l : Logins Key) (r' : ℕ) :
    (l.releaseSlot.requests r').pendingKey = (l.requests r').pendingKey := by
  unfold Logins.releaseSlot
  split
  · rfl
  · next r rest hqueue =>
    unfold grant
    split
    · next key hrequest =>
      have hrequest' : l.requests r = .queueing key := hrequest
      by_cases hr : r' = r
      · subst hr
        simp [Logins.setRequest, hrequest', LoginPc.pendingKey]
      · simp [Logins.setRequest, hr]
    · rfl

/-- A new request keeps the state sound: it goes on only if its client is not blocked. -/
theorem Sound.login (h : l.Sound) (passwordHash : Bool) (r : ℕ) (key : Key) (origin : Bool)
    (declared : Option ℕ) : (l.login passwordHash r key origin declared).Sound := by
  refine h.setRequest r fun key' hkey' => ?_
  split_ifs at hkey' with horigin hhash
  · cases hkey'
  · cases hkey'
  · cases declared with
    | none => cases hkey'
    | some length =>
      dsimp only at hkey'
      split_ifs at hkey' with hlength hblocked
      · cases hkey'
      · cases hkey'
      · obtain rfl : key = key' := Option.some.inj hkey'
        exact Nat.eq_zero_of_not_pos hblocked

/-- The arrival of a body keeps the state sound. -/
theorem Sound.body (h : l.Sound) (r : ℕ) (password : Bool) : (l.body r password).Sound := by
  unfold Logins.body
  split
  · next key hrequest =>
    have hkey : loginBlockRemaining l.table key l.now = 0 := h.pending r key (by rw [hrequest]; rfl)
    split
    · unfold acquireSlot
      split
      · have hqueue : Logins.Sound { l with queue := l.queue ++ [r] } := ⟨h.pending, h.starts⟩
        exact hqueue.setRequest r fun key' hkey' => Option.some.inj hkey' ▸ hkey
      · have hslots : Logins.Sound { l with slots := l.slots - 1 } := ⟨h.pending, h.starts⟩
        exact hslots.setRequest r fun key' hkey' => Option.some.inj hkey' ▸ hkey
    · exact h.setRequest r nofun
  · exact h

/-- The start of a verification keeps the state sound. -/
theorem Sound.start (h : l.Sound) (r : ℕ) : (l.start r).Sound := by
  unfold Logins.start
  split
  · next key hrequest =>
    have hkey : loginBlockRemaining l.table key l.now = 0 := h.pending r key (by rw [hrequest]; rfl)
    have hstarted : Logins.Sound
        { l with
          starts := l.starts ++ [VerifyStart.mk key (loginBlockRemaining l.table key l.now)] } := by
      refine ⟨h.pending, fun s hs => ?_⟩
      rcases List.mem_append.mp hs with hbefore | hlast
      · exact h.starts s hbefore
      · rw [List.mem_singleton.mp hlast]
        exact hkey
    exact hstarted.setRequest r nofun
  · exact h

/-- The end of a verification keeps the state sound, if no failure blocks a client with a request
on its way. -/
theorem Sound.verified (h : l.Sound) {isMatch : Bool}
    (hcond : NoPendingBlock l (.verified r isMatch)) : (l.verified r isMatch).Sound := by
  unfold Logins.verified
  split
  · next key hrequest =>
    have hreleased := h.releaseSlot
    obtain ⟨htable, hnow⟩ := l.releaseSlot_table
    cases isMatch with
    | true =>
      have herased : Logins.Sound { l.releaseSlot with table := l.releaseSlot.table.erase key } :=
        ⟨fun r' key' hpending => loginBlockRemaining_erase (hreleased.pending r' key' hpending),
          hreleased.starts⟩
      exact herased.setRequest r nofun
    | false =>
      have hrecorded : Logins.Sound { l.releaseSlot with
          table := recordLoginFailure l.releaseSlot.table key l.releaseSlot.now } := by
        refine ⟨fun r' key' hpending => ?_, hreleased.starts⟩
        have hkey' := hreleased.pending r' key' hpending
        by_cases hkey : key' = key
        · -- Its own requests on their way see a failure without a delay only.
          subst hkey
          refine loginBlockRemaining_put_self fun delay hdelay => ?_
          by_contra hpositive
          rw [htable, hnow] at hdelay
          have hbefore : (l.requests r').pendingKey = some key' := by
            rw [← l.releaseSlot_pendingKey r']
            exact hpending
          exact hcond ⟨key', hrequest, ⟨delay, hdelay, Nat.pos_of_ne_zero hpositive⟩, r', hbefore⟩
        · exact loginBlockRemaining_put_of_ne hkey hkey'
      exact hrecorded.setRequest r nofun
  · exact h

/-- The end of a request by an exception keeps the state sound. -/
theorem Sound.abort (h : l.Sound) (r : ℕ) : (l.abort r).Sound := by
  unfold Logins.abort
  split
  · exact h.releaseSlot.setRequest r nofun
  · exact h.releaseSlot.setRequest r nofun
  · have hqueue : Logins.Sound { l with queue := l.queue.erase r } := ⟨h.pending, h.starts⟩
    exact hqueue.setRequest r nofun
  · exact h.setRequest r nofun
  · exact h

/-- A step without a failure that blocks a client with a request on its way keeps the state
sound. -/
theorem Sound.step (h : l.Sound) {e : LoginEvent Key} (passwordHash : Bool)
    (hcond : NoPendingBlock l e) : (e.apply passwordHash l).Sound := by
  cases e with
  | tick elapsed =>
    exact ⟨fun r key hpending =>
      loginBlockRemaining_mono (Nat.le_add_right _ _) (h.pending r key hpending), h.starts⟩
  | login r key origin declared => exact h.login passwordHash r key origin declared
  | body r password => exact h.body r password
  | start r => exact h.start r
  | verified r isMatch => exact h.verified hcond
  | abort r => exact h.abort r

end Logins

/-- If no failure that blocks a client is recorded while another request of this client is on its
way to its verification, every verification starts at a moment when its client is not blocked. -/
theorem verification_unblocked {passwordHash : Bool} {l : Logins Key}
    (hrun : Run (loginSystem passwordHash) NoPendingBlock { table := .empty } l) :
    ∀ s ∈ l.starts, s.remaining = 0 := by
  have hinitial : Logins.Sound { table := (.empty : LoginTable Key) } := ⟨nofun, nofun⟩
  have hsound : l.Sound := by
    induction hrun with
    | refl => exact hinitial
    | step e _ _ hcond ih => exact ih.step passwordHash hcond
  exact hsound.starts

/-- Nobody has tried to log in. -/
def noLogins : Logins ℕ := { table := .empty }

/-- Whether an event is a failure. -/
def LoginEvent.isFailure : LoginEvent Key → Bool
  | .verified _ isMatch => !isMatch
  | _ => false

/-- An event that is no failure blocks no client whose verification has not started. -/
theorem noPendingBlock_of_isFailure {l : Logins Key} {e : LoginEvent Key}
    (h : e.isFailure = false) : NoPendingBlock l e := by
  intro hblocks
  cases e with
  | verified r isMatch =>
    cases isMatch with
    | true => exact hblocks
    | false => cases h
  | _ => exact hblocks

/-- Two requests of one client, the first of which logs in. -/
def twoLogins : Logins ℕ := (loginSystem true).exec noLogins
  [.login 0 0 true (some 20), .login 1 0 true (some 20), .body 0 true, .body 1 true, .start 0,
    .verified 0 true, .tick second, .start 1]

/-- Both verifications of that run start while their client is not blocked. -/
theorem verification_unblocked_two :
    (twoLogins.starts.all fun s => decide (s.remaining = 0)) = true := by
  have hrun : Run (loginSystem true) (fun _ e => e.isFailure = false) noLogins twoLogins :=
    System.Valid.guardedRun _ (by decide)
  have hunblocked : ∀ s ∈ twoLogins.starts, s.remaining = 0 :=
    verification_unblocked (hrun.mono fun _ _ => noPendingBlock_of_isFailure)
  exact List.all_eq_true.mpr fun s hs => decide_eq_true (hunblocked s hs)

/-- Seven requests of one client pass the check before the first one is verified, and six of them
fail. -/
def sevenLogins : Logins ℕ := (loginSystem true).exec noLogins
  ((List.range 7).map (fun r => .login r 0 true (some 20)) ++
    (List.range 7).map (fun r => .body r true) ++
    (List.range 6).flatMap (fun r => [.start r, .verified r false]) ++ [.start 6])

/-- The seventh one is verified while its client is blocked for two seconds. -/
theorem verification_blocked : ¬∀ (l : Logins ℕ),
    Run (loginSystem true) (fun _ _ => True) noLogins l → ∀ s ∈ l.starts, s.remaining = 0 := by
  intro h
  have hrun : Run (loginSystem true) (fun _ _ => True) noLogins sevenLogins :=
    System.Valid.run _ (by decide)
  have hlast : sevenLogins.starts.getLast? = some ⟨0, 2 * second⟩ := by decide
  have hzero := h sevenLogins hrun ⟨0, 2 * second⟩ (List.mem_of_getLast? hlast)
  exact absurd hzero (by decide)

end WTerm
