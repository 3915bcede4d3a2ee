import Mathlib.Data.List.Induction
import WTerm.Auth.Login
import WTerm.Python.Text

/-!
# The schedule of the login backoff

Each failure of a client that comes soon enough after the block of the one before counts one more,
and from the sixth on it blocks the client for twice as long as the one before, up to a maximum.
The power of two is a float that overflows at 2^1024, after the entry of the client was taken out.
-/

namespace WTerm

variable {Key : Type} [DecidableEq Key]

/-- A verified login attempt. -/
structure Attempt (Key : Type) where
  key : Key
  now : Time
  /-- The password was right. -/
  isMatch : Bool
  deriving DecidableEq

/-- What `login` records of an attempt. -/
def recordAttempt (table : LoginTable Key) (a : Attempt Key) : LoginTable Key :=
  if a.isMatch then table.erase a.key else recordLoginFailure table a.key a.now

/-- `_login_fails` after some attempts. -/
def tableAfter (attempts : List (Attempt Key)) : LoginTable Key :=
  attempts.foldl recordAttempt .empty

/-- The power of two is a delay or raises. -/
def delayResult : Option Time → Except PyException Unit
  | some _ => .ok ()
  | none => .error .overflowError

/-- Whether `_record_login_failure` returns. -/
def recordResult (table : LoginTable Key) (key : Key) (now : Time) : Except PyException Unit :=
  delayResult (loginDelay (nextFails table key now))

/-! ## The schedule -/

/-- How long the n-th failure in a row blocks a client. -/
def backoff (n : ℕ) : Time :=
  if n ≤ loginFreeAttempts then 0 else min (2 ^ (n - loginFreeAttempts)) loginBackoffMax * second

/-- The failures in a row after a failure at a time. It begins a new row if it comes too long after
the last block. -/
def nextInRow (row : ℕ × Time) (now : Time) : ℕ :=
  if row.2 + loginFailDecay < now then 1 else row.1 + 1

/-- The row of a client after an attempt. -/
def afterAttempt (key : Key) (row : ℕ × Time) (a : Attempt Key) : ℕ × Time :=
  if a.key ≠ key then row
  else if a.isMatch then (0, 0)
  else (nextInRow row a.now, a.now + backoff (nextInRow row a.now))

/-- The failures of a client in a row without a success, and the end of the block that the schedule
gives the last one. -/
def streak (key : Key) (attempts : List (Attempt Key)) : ℕ × Time :=
  attempts.foldl (afterAttempt key) (0, 0)

/-- A failure is recorded as the n-th in a row: `_record_login_failure` returns, counts `n`, and in
the table that it leaves the client is blocked from now on for as long as the schedule says. Nothing
is said about what later attempts of other clients do to the table: they can evict the client. -/
def RecordedAs (table : LoginTable Key) (key : Key) (now : Time) (n : ℕ) : Prop :=
  recordResult table key now = .ok () ∧
    ((recordLoginFailure table key now).get key).map LoginFails.fails = some n ∧
    ∀ later, now ≤ later →
      loginBlockRemaining (recordLoginFailure table key now) key later = now + backoff n - later

/-- The longest row of failures whose delay is no overflow. -/
def loginCountMax : ℕ := loginFreeAttempts + 1023

/-- A longer row blocks for at least as long. -/
theorem backoff_mono {m n : ℕ} (h : m ≤ n) : backoff m ≤ backoff n := by
  unfold backoff
  split_ifs with hm hn
  · exact Nat.le_refl _
  · exact Nat.zero_le _
  · omega
  · have hpow : 2 ^ (m - loginFreeAttempts) ≤ 2 ^ (n - loginFreeAttempts) :=
      Nat.pow_le_pow_right (by decide) (Nat.sub_le_sub_right h _)
    refine Nat.mul_le_mul_right _ ?_
    omega

/-- The delay is the one of the schedule, up to the overflow. -/
theorem loginDelay_eq (n : ℕ) :
    loginDelay n = if n ≤ loginCountMax then some (backoff n) else none := by
  unfold loginDelay backoff loginCountMax
  by_cases hfree : n ≤ loginFreeAttempts
  · rw [if_neg (Nat.not_lt.mpr hfree), if_pos (Nat.le_add_right_of_le hfree), if_pos hfree]
  · rw [if_pos (Nat.lt_of_not_le hfree), if_neg hfree]
    by_cases hcount : n ≤ loginFreeAttempts + 1023
    · rw [if_neg (by omega), if_pos hcount]
    · rw [if_pos (by omega), if_neg hcount]

/-- `_record_login_failure` returns if its delay is no overflow. -/
theorem recordResult_eq_ok {table : LoginTable Key} {key : Key} {now delay : Time}
    (h : loginDelay (nextFails table key now) = some delay) :
    recordResult table key now = .ok () := by
  rw [recordResult, h]
  rfl

/-! ## The entry of a client -/

section Entry

variable {table : LoginTable Key} {key key' : Key} {now : Time} {clients : List Key}

/-- Among few enough clients a failure evicts nobody. -/
theorem putLoginFails_of_few (htable : table.keys ⊆ clients) (hkey : key ∈ clients)
    (hfew : clients.dedup.length ≤ loginBucketLimit) (fails : ℕ) (delay : Time) :
    putLoginFails table key fails now (some delay) = table.push key ⟨fails, now + delay⟩ := by
  refine OrderedDict.evict_of_length_le (Nat.le_trans ?_ hfew)
  refine OrderedDict.length_le_of_keys_subset fun other hother => ?_
  rcases List.mem_cons.mp (table.keys_push_subset key _ hother) with rfl | hold
  · exact hkey
  · exact htable hold

/-- The entry of a client after its failure. -/
theorem recordLoginFailure_get (htable : table.keys ⊆ clients) (hkey : key ∈ clients)
    (hfew : clients.dedup.length ≤ loginBucketLimit) :
    (recordLoginFailure table key now).get key =
      if nextFails table key now ≤ loginCountMax then
        some ⟨nextFails table key now, now + backoff (nextFails table key now)⟩
      else none := by
  unfold recordLoginFailure
  rw [loginDelay_eq]
  by_cases hcount : nextFails table key now ≤ loginCountMax
  · rw [if_pos hcount, if_pos hcount, putLoginFails_of_few htable hkey hfew]
    exact table.get_push_self key _
  · rw [if_neg hcount, if_neg hcount]
    exact table.get_erase_self key

/-- While there are few clients, a failure of one leaves the entries of the others as they are. -/
theorem recordLoginFailure_get_of_ne (htable : table.keys ⊆ clients) (hkey : key ∈ clients)
    (hfew : clients.dedup.length ≤ loginBucketLimit) (hne : key' ≠ key) :
    (recordLoginFailure table key now).get key' = table.get key' := by
  unfold recordLoginFailure
  cases loginDelay (nextFails table key now) with
  | none => exact table.get_erase_of_ne hne
  | some delay =>
    rw [putLoginFails_of_few htable hkey hfew]
    exact table.get_push_of_ne hne _

/-- The clients of a table after a failure. -/
theorem recordLoginFailure_keys (htable : table.keys ⊆ clients) (hkey : key ∈ clients) :
    (recordLoginFailure table key now).keys ⊆ clients := by
  unfold recordLoginFailure
  cases loginDelay (nextFails table key now) with
  | none => exact List.Subset.trans (table.keys_erase_subset key) htable
  | some delay =>
    have hpush : (table.push key ⟨nextFails table key now, now + delay⟩).keys ⊆ clients := by
      intro other hother
      rcases List.mem_cons.mp (table.keys_push_subset key _ hother) with rfl | hold
      · exact hkey
      · exact htable hold
    exact List.Subset.trans (OrderedDict.keys_evict_subset _ _) hpush

/-- How the entry of a client follows its row of failures: it is exact up to the overflow, and
behind the row after it. -/
structure Follows (entry : Option LoginFails) (row : ℕ × Time) : Prop where
  exact : row.1 ≤ loginCountMax → entry = if row.1 = 0 then none else some ⟨row.1, row.2⟩
  unblockAt : ∀ e, entry = some e → e.unblockAt ≤ row.2
  fails : loginCountMax < row.1 → ∀ e, entry = some e → e.fails < row.1

variable {row : ℕ × Time}

/-- The next count is the next one of the row, or the row is past the overflow and the count behind
it. -/
theorem Follows.nextFails (h : Follows (table.get key) row) (now : Time) :
    nextFails table key now = nextInRow row now ∨
      loginCountMax < nextInRow row now ∧ WTerm.nextFails table key now < nextInRow row now := by
  unfold WTerm.nextFails nextInRow
  by_cases hcount : row.1 ≤ loginCountMax
  · left
    rw [h.exact hcount]
    by_cases hzero : row.1 = 0
    · simp [hzero]
    · simp only [hzero, if_false, Option.getD_some]
      split_ifs <;> rfl
  · have hpast : loginCountMax < row.1 := Nat.lt_of_not_le hcount
    cases hentry : table.get key with
    | none =>
      simp only [Option.getD_none, ite_self]
      split_ifs
      · exact .inl rfl
      · exact .inr (by omega)
    | some entry =>
      have hunblock := h.unblockAt entry hentry
      have hfails := h.fails hpast entry hentry
      simp only [Option.getD_some]
      by_cases hgap : row.2 + loginFailDecay < now
      · left
        have hentryGap : entry.unblockAt + loginFailDecay < now :=
          Nat.lt_of_le_of_lt (Nat.add_le_add_right hunblock _) hgap
        rw [if_pos hgap, if_pos hentryGap]
      · right
        rw [if_neg hgap]
        split_ifs <;> omega

/-- A row that no overflow can have ended is counted exactly. -/
theorem Follows.nextFails_eq (h : Follows (table.get key) row)
    (hcount : nextInRow row now ≤ loginCountMax) :
    WTerm.nextFails table key now = nextInRow row now :=
  (h.nextFails now).resolve_right fun hpast => Nat.not_le.mpr hpast.1 hcount

/-- The entry after another failure follows the row after it. -/
theorem Follows.record (h : Follows (table.get key) row) (htable : table.keys ⊆ clients)
    (hkey : key ∈ clients) (hfew : clients.dedup.length ≤ loginBucketLimit) :
    Follows ((recordLoginFailure table key now).get key)
      (nextInRow row now, now + backoff (nextInRow row now)) := by
  have hle : WTerm.nextFails table key now ≤ nextInRow row now := by
    rcases h.nextFails now with hsame | ⟨-, hbehind⟩ <;> omega
  have hpositive : nextInRow row now ≠ 0 := by
    unfold nextInRow
    split_ifs <;> omega
  rw [recordLoginFailure_get htable hkey hfew]
  refine ⟨?_, ?_, ?_⟩
  · intro hcount
    rw [h.nextFails_eq hcount, if_pos hcount, if_neg hpositive]
  · intro entry hentry
    split_ifs at hentry
    obtain rfl := Option.some.inj hentry
    exact Nat.add_le_add_left (backoff_mono hle) now
  · intro hpast entry hentry
    split_ifs at hentry with hcount
    obtain rfl := Option.some.inj hentry
    exact Nat.lt_of_le_of_lt hcount hpast

/-- A failure is recorded as the next one of the row, unless its delay overflows or one in the row
did. -/
theorem Follows.recordedAs_iff (h : Follows (table.get key) row) (htable : table.keys ⊆ clients)
    (hkey : key ∈ clients) (hfew : clients.dedup.length ≤ loginBucketLimit) :
    RecordedAs table key now (nextInRow row now) ↔ nextInRow row now ≤ loginCountMax := by
  have hget := @recordLoginFailure_get _ _ table key now clients htable hkey hfew
  constructor
  · rintro ⟨-, hfails, -⟩
    by_contra hpast
    rw [hget] at hfails
    split_ifs at hfails with hcount
    · have hsame : WTerm.nextFails table key now = nextInRow row now := Option.some.inj hfails
      omega
    · simp at hfails
  · intro hcount
    rw [h.nextFails_eq hcount, if_pos hcount] at hget
    refine ⟨?_, ?_, ?_⟩
    · have hdelay : loginDelay (WTerm.nextFails table key now) =
          some (backoff (nextInRow row now)) := by
        rw [h.nextFails_eq hcount, loginDelay_eq]
        exact if_pos hcount
      exact recordResult_eq_ok hdelay
    · rw [hget]
      rfl
    · intro later _
      rw [loginBlockRemaining_some hget]

end Entry

/-! ## All attempts -/

section Attempts

variable {key : Key} {now : Time} {attempts : List (Attempt Key)} {clients : List Key}

/-- The limiter handles the last attempt last. -/
theorem tableAfter_concat (attempts : List (Attempt Key)) (a : Attempt Key) :
    tableAfter (attempts ++ [a]) = recordAttempt (tableAfter attempts) a := by
  simp [tableAfter]

/-- The last attempt of all comes last in its row. -/
theorem streak_concat (key : Key) (attempts : List (Attempt Key)) (a : Attempt Key) :
    streak key (attempts ++ [a]) = afterAttempt key (streak key attempts) a := by
  simp [streak]

/-- A failure after some attempts is the next one of the row. -/
theorem streak_failure : (streak key (attempts ++ [⟨key, now, false⟩])).1 =
    nextInRow (streak key attempts) now := by
  simp [streak_concat, afterAttempt]

/-- The clients of the table are those of the attempts. -/
theorem tableAfter_keys (hclients : ∀ a ∈ attempts, a.key ∈ clients) :
    (tableAfter attempts).keys ⊆ clients := by
  induction attempts using List.reverseRecOn with
  | nil => exact List.nil_subset _
  | append_singleton before a ih =>
    have hbefore := ih fun a' ha' => hclients a' (List.mem_append_left _ ha')
    rw [tableAfter_concat, recordAttempt]
    split
    · exact List.Subset.trans (OrderedDict.keys_erase_subset _ _) hbefore
    · exact recordLoginFailure_keys hbefore (hclients a (by simp))

/-- The entry of every client follows its row of failures. -/
theorem follows_streak (hclients : ∀ a ∈ attempts, a.key ∈ clients)
    (hfew : clients.dedup.length ≤ loginBucketLimit) :
    Follows ((tableAfter attempts).get key) (streak key attempts) := by
  induction attempts using List.reverseRecOn with
  | nil =>
    refine ⟨fun _ => rfl, ?_, ?_⟩
    · rintro e ⟨⟩
    · rintro - e ⟨⟩
  | append_singleton before a ih =>
    have hbefore := fun a' ha' => hclients a' (List.mem_append_left _ ha')
    have hfollows := ih hbefore
    have htable := tableAfter_keys hbefore
    have hkey := hclients a (by simp)
    rw [tableAfter_concat, streak_concat]
    unfold recordAttempt afterAttempt
    by_cases hsame : a.key = key
    · subst hsame
      cases hmatch : a.isMatch with
      | true =>
        simp only [if_true, ne_eq, not_true_eq_false, if_false, OrderedDict.get_erase_self]
        exact ⟨fun _ => rfl, by simp, by simp⟩
      | false =>
        simp only [Bool.false_eq_true, ne_eq, not_true_eq_false, if_false]
        exact hfollows.record htable hkey hfew
    · rw [if_pos hsame]
      split
      · rwa [OrderedDict.get_erase_of_ne _ (Ne.symm hsame)]
      · rwa [recordLoginFailure_get_of_ne htable hkey hfew (Ne.symm hsame)]

/-- Among few enough clients, the n-th failure of a client in a row is recorded as such, with the
block of the schedule, if and only if 2^(n - LOGIN_FREE_ATTEMPTS) is no overflow. -/
theorem failure_recorded_iff {n : ℕ}
    (hfew : (key :: attempts.map Attempt.key).dedup.length ≤ loginBucketLimit)
    (hn : (streak key (attempts ++ [⟨key, now, false⟩])).1 = n) :
    RecordedAs (tableAfter attempts) key now n ↔ n ≤ loginFreeAttempts + 1023 := by
  have hclients : ∀ a ∈ attempts, a.key ∈ key :: attempts.map Attempt.key :=
    fun a ha => List.mem_cons_of_mem _ (List.mem_map_of_mem ha)
  rw [streak_failure] at hn
  subst hn
  exact (follows_streak hclients hfew).recordedAs_iff (tableAfter_keys hclients)
    List.mem_cons_self hfew

/-- The sixth failure in a row blocks for two seconds, whatever another client did in between. -/
theorem failure_recorded_six : RecordedAs
    (tableAfter (List.replicate 5 ⟨0, 0, false⟩ ++ [⟨1, 0, false⟩, ⟨1, 0, true⟩])) 0 second 6 := by
  refine (failure_recorded_iff ?_ ?_).mpr ?_ <;> decide

/-- A client that fails once in a quarter of an hour: no failure is blocked, and none begins a new
row. -/
def steadyFailures (n : ℕ) : List (Attempt ℕ) :=
  (List.range n).map fun i => ⟨0, i * loginFailDecay, false⟩

/-- All its failures are in one row. -/
theorem streak_steadyFailures (n : ℕ) :
    (streak 0 (steadyFailures n)).1 = n ∧
      n * loginFailDecay ≤ (streak 0 (steadyFailures n)).2 + loginFailDecay := by
  induction n with
  | zero => exact ⟨rfl, Nat.zero_le _⟩
  | succ n ih =>
    obtain ⟨hcount, hend⟩ := ih
    have hnext : nextInRow (streak 0 (steadyFailures n)) (n * loginFailDecay) = n + 1 := by
      rw [nextInRow, if_neg (Nat.not_lt.mpr hend), hcount]
    have hconcat : steadyFailures (n + 1) =
        steadyFailures n ++ [⟨0, n * loginFailDecay, false⟩] := by
      simp [steadyFailures, List.range_succ]
    have hrow : streak 0 (steadyFailures (n + 1)) =
        (n + 1, n * loginFailDecay + backoff (n + 1)) := by
      simp [hconcat, streak_concat, afterAttempt, hnext]
    rw [hrow, Nat.succ_mul]
    exact ⟨rfl, by simp⟩

/-- Its failure number 1029 raises an `OverflowError` after its entry was taken out. -/
theorem failure_forgotten :
    (streak 0 (steadyFailures 1028 ++ [⟨0, 1028 * loginFailDecay, false⟩])).1 = 1029 ∧
      ¬RecordedAs (tableAfter (steadyFailures 1028)) 0 (1028 * loginFailDecay) 1029 := by
  have hn : nextInRow (streak 0 (steadyFailures 1028)) (1028 * loginFailDecay) = 1029 := by
    obtain ⟨hcount, hend⟩ := streak_steadyFailures 1028
    rw [nextInRow, if_neg (Nat.not_lt.mpr hend), hcount]
  have hclients : ∀ a ∈ steadyFailures 1028, a.key ∈ [0] := by
    intro a ha
    obtain ⟨i, -, rfl⟩ := List.mem_map.mp ha
    exact List.mem_singleton.mpr rfl
  rw [streak_failure, hn]
  refine ⟨rfl, fun hrecorded => ?_⟩
  have hfollows : Follows ((tableAfter (steadyFailures 1028)).get 0)
      (streak 0 (steadyFailures 1028)) := follows_streak hclients (by decide)
  have hiff := @Follows.recordedAs_iff _ _ _ _ (1028 * loginFailDecay) _ _ hfollows
    (tableAfter_keys hclients) (List.mem_singleton.mpr rfl) (by decide)
  rw [hn] at hiff
  exact absurd (hiff.mp hrecorded) (by decide)

end Attempts

end WTerm
