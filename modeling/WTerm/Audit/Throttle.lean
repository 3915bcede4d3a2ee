import Mathlib.Algebra.GroupWithZero.Nat
import WTerm.Audit.Record
import WTerm.Lib.Recency
import WTerm.Session.Basic

/-!
# Throttled audit records

Rejections before authentication cost nothing, so `audit_throttled` folds those of one client for
one reason to a line per window, and keeps at most a fixed number of such pairs. The line that ends
a window says how many were folded, unless its pair was evicted meanwhile.
-/

namespace WTerm

/-- `AUDIT_THROTTLE_WINDOW`. -/
def auditThrottleWindow : Time := 60 * second

/-- `AUDIT_THROTTLE_KEYS`. -/
def auditThrottleKeys : ℕ := 256

/-- The key of a rejection. -/
structure ThrottleKey where
  client : PyStr
  reason : PyStr
  deriving DecidableEq

/-- An entry of `_throttle`: when a line was last emitted, and how many calls were folded since. -/
structure ThrottleEntry where
  emittedAt : Time
  suppressed : ℕ
  deriving DecidableEq

/-- A call of `audit_throttled`. -/
structure ThrottledCall where
  now : Time
  event : AuditName
  key : ThrottleKey
  fields : List AuditField

/-- A line that a call emits. -/
structure ThrottledLine where
  call : ThrottledCall
  suppressed : ℕ

/-- The fields of a line's record. -/
def ThrottledLine.fields (line : ThrottledLine) : List AuditField :=
  [⟨⟨py "reason".toList, by decide, by decide⟩, some line.call.key.reason⟩,
    ⟨⟨py "client".toList, by decide, by decide⟩, some line.call.key.client⟩] ++
  line.call.fields ++
  [⟨⟨py "suppressed".toList, by decide, by decide⟩,
    if line.suppressed = 0 then none else some (py (Nat.toDigits 10 line.suppressed))⟩]

/-- The record of a line. -/
def ThrottledLine.record (line : ThrottledLine) : PyStr :=
  auditRecord line.call.event line.fields

/-- `_throttle`, with the lines that were emitted. -/
structure Throttle where
  store : OrderedDict ThrottleKey ThrottleEntry := .empty
  /-- History: the emitted lines, newest first. -/
  lines : List ThrottledLine := []

namespace Throttle

/-- The calls of a key that were folded since its last line. -/
def pending (st : Throttle) (key : ThrottleKey) : ℕ :=
  ((st.store.get key).map ThrottleEntry.suppressed).getD 0

/-- The window of the key's last line is not over. -/
def isRecent (st : Throttle) (c : ThrottledCall) : Bool :=
  (st.store.get c.key).any fun entry => decide (c.now - entry.emittedAt < auditThrottleWindow)

/-- The call is folded. -/
def suppress (st : Throttle) (key : ThrottleKey) : Throttle :=
  { st with store := st.store.modify key fun entry =>
      { entry with suppressed := entry.suppressed + 1 } }

/-- The call emits a line, and the oldest entries beyond the limit are dropped. -/
def emit (st : Throttle) (c : ThrottledCall) : Throttle where
  store := (st.store.push c.key ⟨c.now, 0⟩).evict auditThrottleKeys
  lines := ⟨c, st.pending c.key⟩ :: st.lines

/-- `audit_throttled`. -/
def call (st : Throttle) (c : ThrottledCall) : Throttle :=
  if st.isRecent c then st.suppress c.key else st.emit c

/-- The store after some calls, of which the first in the list is the newest. -/
def after : List ThrottledCall → Throttle
  | [] => {}
  | c :: past => (after past).call c

/-- The keys other than a given one of which there are lines. -/
def otherKeys (key : ThrottleKey) (lines : List ThrottledLine) : List ThrottleKey :=
  ((lines.map fun line => line.call.key).filter fun other => decide (other ≠ key)).dedup

/-- The calls of a key that the lines stand for. -/
def accounted (key : ThrottleKey) (lines : List ThrottledLine) : ℕ :=
  ((lines.filter fun line => decide (line.call.key = key)).map fun line => 1 + line.suppressed).sum

variable {st : Throttle} {c : ThrottledCall} {past : List ThrottledCall} {now : Time}
  {key : ThrottleKey} {newer : List ThrottledLine} {line : ThrottledLine}

/-! ## The size of the store -/

/-- A call keeps the store within its limit. -/
theorem call_length_le (h : st.store.entries.length ≤ auditThrottleKeys) :
    (st.call c).store.entries.length ≤ auditThrottleKeys := by
  unfold call
  split_ifs
  · refine Nat.le_trans (Nat.le_of_eq ?_) h
    exact List.length_map _
  · exact OrderedDict.evict_length_le _ _

/-- After any calls the store has at most `AUDIT_THROTTLE_KEYS` entries. -/
theorem after_length_le (past : List ThrottledCall) :
    (after past).store.entries.length ≤ auditThrottleKeys := by
  induction past with
  | nil => exact Nat.zero_le _
  | cons c past ih => exact call_length_le ih

/-! ## The distance of lines -/

/-- The other keys of which there are lines. -/
theorem mem_otherKeys {other : ThrottleKey} : other ∈ otherKeys key newer ↔
    other ∈ newer.map (fun line => line.call.key) ∧ other ≠ key := by
  rw [otherKeys, List.mem_dedup, List.mem_filter, decide_eq_true_eq]

/-- Among more lines there are more keys. -/
theorem otherKeys_length_le_cons :
    (otherKeys key newer).length ≤ (otherKeys key (line :: newer)).length := by
  refine (List.subperm_of_subset (List.nodup_dedup _) fun other hother => ?_).length_le
  obtain ⟨hmem, hne⟩ := mem_otherKeys.mp hother
  exact mem_otherKeys.mpr ⟨List.mem_cons_of_mem _ hmem, hne⟩

/-- What holds of every emitted line: as long as its key has an entry, the window counts from the
line or a later one, and every key with a newer entry has a line since; and if the key has no entry,
then enough other keys have lines since. -/
structure Spaced (st : Throttle) (newer : List ThrottledLine) (line : ThrottledLine) : Prop where
  emittedAt : ∀ entry, st.store.get line.call.key = some entry → line.call.now ≤ entry.emittedAt
  follows : ∀ other ∈ st.store.newer line.call.key, other ∈ otherKeys line.call.key newer
  evicted : st.store.get line.call.key = none →
    auditThrottleKeys ≤ (otherKeys line.call.key newer).length

/-- A folded call changes the count of its key only. -/
theorem Spaced.suppress (h : st.Spaced newer line) : (st.suppress key).Spaced newer line := by
  refine ⟨?_, ?_, ?_⟩
  · intro entry hentry
    by_cases hkey : line.call.key = key
    · subst hkey
      rw [Throttle.suppress, OrderedDict.get_modify_self] at hentry
      obtain ⟨entry', hentry', rfl⟩ := Option.map_eq_some_iff.mp hentry
      exact h.emittedAt entry' hentry'
    · rw [Throttle.suppress, OrderedDict.get_modify_of_ne _ hkey] at hentry
      exact h.emittedAt entry hentry
  · intro other hother
    rw [Throttle.suppress, OrderedDict.newer_modify] at hother
    exact h.follows other hother
  · intro hnone
    rw [Throttle.suppress, OrderedDict.get_eq_none_iff, OrderedDict.keys_modify,
      ← OrderedDict.get_eq_none_iff] at hnone
    exact h.evicted hnone

/-- The entry of the key of a new line. -/
theorem emit_get_self : (st.emit c).store.get c.key = some ⟨c.now, 0⟩ := by
  refine (OrderedDict.get_evict_eq_some _).mpr ⟨OrderedDict.get_push_self _ _ _, ?_⟩
  rw [OrderedDict.newer_push_self]
  exact (by decide : 0 < auditThrottleKeys)

/-- The key of a new line has no newer one. -/
theorem emit_newer_self : (st.emit c).store.newer c.key = [] := by
  have hmem : c.key ∈ (st.emit c).store.keys := OrderedDict.mem_keys_of_get _ emit_get_self
  exact (OrderedDict.newer_evict _ hmem).trans (OrderedDict.newer_push_self _ _ _)

/-- A new line is spaced from nothing yet. -/
theorem spaced_emit_self (suppressed : ℕ) : (st.emit c).Spaced [] ⟨c, suppressed⟩ := by
  refine ⟨?_, ?_, ?_⟩
  · intro entry hentry
    rw [emit_get_self] at hentry
    obtain rfl := Option.some.inj hentry
    exact Nat.le_refl _
  · intro other hother
    rw [emit_newer_self] at hother
    cases hother
  · intro hnone
    rw [emit_get_self] at hnone
    cases hnone

/-- What is newer than another key after a new line has a line. -/
theorem Spaced.push_newer (h : st.Spaced newer line) (hne : line.call.key ≠ c.key)
    (hmem : line.call.key ∈ st.store.keys) (suppressed : ℕ) :
    ∀ other ∈ (st.store.push c.key ⟨c.now, 0⟩).newer line.call.key,
      other ∈ otherKeys line.call.key (⟨c, suppressed⟩ :: newer) := by
  intro other hother
  rw [OrderedDict.newer_push_of_ne _ hmem hne, List.mem_append] at hother
  rcases hother with hold | hnew
  · obtain ⟨hline, hother'⟩ := mem_otherKeys.mp (h.follows other (List.mem_of_mem_filter hold))
    exact mem_otherKeys.mpr ⟨List.mem_cons_of_mem _ hline, hother'⟩
  · obtain rfl := List.mem_singleton.mp hnew
    exact mem_otherKeys.mpr ⟨List.mem_cons_self, Ne.symm hne⟩

/-- A new line is one more since an older one. -/
theorem Spaced.emit (h : st.Spaced newer line) (hlater : line.call.now ≤ c.now) (suppressed : ℕ) :
    (st.emit c).Spaced (⟨c, suppressed⟩ :: newer) line := by
  by_cases hkey : line.call.key = c.key
  · refine ⟨?_, ?_, ?_⟩
    · intro entry hentry
      rw [hkey, emit_get_self] at hentry
      obtain rfl := Option.some.inj hentry
      exact hlater
    · intro other hother
      rw [hkey, emit_newer_self] at hother
      cases hother
    · intro hnone
      rw [hkey, emit_get_self] at hnone
      cases hnone
  · have hpush : (st.store.push c.key ⟨c.now, 0⟩).get line.call.key =
        st.store.get line.call.key := OrderedDict.get_push_of_ne _ hkey _
    refine ⟨?_, ?_, ?_⟩
    · intro entry hentry
      obtain ⟨hget, -⟩ := (OrderedDict.get_evict_eq_some _).mp hentry
      exact h.emittedAt entry (hpush ▸ hget)
    · intro other hother
      by_cases hstays : line.call.key ∈ (st.emit c).store.keys
      · have hmem : line.call.key ∈ st.store.keys :=
          (List.mem_cons.mp (OrderedDict.keys_push_subset _ _ _
            (OrderedDict.keys_evict_subset _ _ hstays))).resolve_left hkey
        have hsame := OrderedDict.newer_evict _ hstays
        exact h.push_newer hkey hmem suppressed other (hsame ▸ hother)
      · rw [OrderedDict.newer, later_of_not_mem hstays] at hother
        cases hother
    · intro hnone
      cases hget : st.store.get line.call.key with
      | none => exact Nat.le_trans (h.evicted hget) otherKeys_length_le_cons
      | some entry =>
        -- It is evicted by this call, and what is newer has a line.
        have hmany : auditThrottleKeys ≤
            ((st.store.push c.key ⟨c.now, 0⟩).newer line.call.key).length := by
          by_contra hfew
          have hstays := (OrderedDict.get_evict_eq_some _).mpr
            ⟨hpush.trans hget, Nat.lt_of_not_le hfew⟩
          exact absurd (hstays.symm.trans hnone) (by simp)
        refine Nat.le_trans hmany
          (List.subperm_of_subset (OrderedDict.newer_nodup _ _) ?_).length_le
        exact h.push_newer hkey (OrderedDict.mem_keys_of_get _ hget) suppressed

/-- Lines come from calls of the past. -/
theorem lines_now_le (hlatest : ∀ c ∈ past, c.now ≤ now) :
    ∀ line ∈ (after past).lines, line.call.now ≤ now := by
  induction past with
  | nil => simp [after]
  | cons c past ih =>
    have hbefore := ih fun c' hc' => hlatest c' (List.mem_cons_of_mem _ hc')
    rw [after, call]
    split_ifs
    · exact hbefore
    · intro line hline
      rcases List.mem_cons.mp hline with rfl | hold
      · exact hlatest c List.mem_cons_self
      · exact hbefore line hold

/-- Every emitted line is spaced from those of other keys since. -/
theorem spaced_after (hordered : past.Pairwise fun later earlier => earlier.now ≤ later.now)
    {older : List ThrottledLine} (hlines : (after past).lines = newer ++ line :: older) :
    (after past).Spaced newer line := by
  induction past generalizing newer with
  | nil => simp [after] at hlines
  | cons c past ih =>
    obtain ⟨hlatest, hpast⟩ := List.pairwise_cons.mp hordered
    rw [after, call] at hlines ⊢
    split_ifs at hlines ⊢ with hrecent
    · exact (ih hpast hlines).suppress
    · cases newer with
      | nil =>
        obtain ⟨rfl, -⟩ := List.cons.inj hlines
        exact spaced_emit_self _
      | cons first rest =>
        obtain ⟨rfl, hrest⟩ := List.cons.inj hlines
        have hmem : line ∈ (after past).lines := by simp [hrest]
        exact (ih hpast hrest).emit (lines_now_le hlatest line hmem) _

/-- Between two lines of one key within a window there are lines of enough other keys. -/
theorem otherKeys_between (hordered : past.Pairwise fun later earlier => earlier.now ≤ later.now)
    {latest mid older : List ThrottledLine} {second first : ThrottledLine}
    (hlines : (after past).lines = latest ++ second :: (mid ++ first :: older))
    (hkey : second.call.key = first.call.key)
    (hnear : second.call.now - first.call.now < auditThrottleWindow) :
    auditThrottleKeys ≤ (otherKeys first.call.key mid).length := by
  induction past generalizing latest with
  | nil => simp [after] at hlines
  | cons c past ih =>
    have hpast := (List.pairwise_cons.mp hordered).2
    rw [after, call] at hlines
    split_ifs at hlines with hrecent
    · exact ih hpast hlines
    · cases latest with
      | nil =>
        obtain ⟨rfl, hrest⟩ := List.cons.inj hlines
        have hspaced := spaced_after hpast hrest
        refine hspaced.evicted ?_
        cases hget : (after past).store.get first.call.key with
        | none => rfl
        | some entry =>
          -- The window of the entry counts from the first line or later, so the call was folded.
          have hemitted := hspaced.emittedAt entry hget
          have hwindow : c.now - entry.emittedAt < auditThrottleWindow :=
            Nat.lt_of_le_of_lt (Nat.sub_le_sub_left hemitted _) hnear
          have hfolded : (after past).isRecent c = true := by
            rw [isRecent, show c.key = first.call.key from hkey, hget]
            exact decide_eq_true hwindow
          exact absurd hfolded hrecent
      | cons first' rest => exact ih hpast (List.cons.inj hlines).2

/-! ## The counts -/

/-- A line of the key accounts for itself and for the folded calls. -/
theorem accounted_cons : accounted key (line :: newer) =
    (if line.call.key = key then 1 + line.suppressed else 0) + accounted key newer := by
  unfold accounted
  rw [List.filter_cons]
  by_cases hkey : line.call.key = key
  · simp [hkey]
  · simp [hkey]

/-- The keys with an entry are those of the calls. -/
theorem after_keys_subset (past : List ThrottledCall) :
    (after past).store.keys ⊆ past.map ThrottledCall.key := by
  induction past with
  | nil => exact List.nil_subset _
  | cons c past ih =>
    rw [after, call]
    split_ifs
    · rw [suppress, OrderedDict.keys_modify]
      exact List.Subset.trans ih (List.subset_cons_self _ _)
    · intro other hother
      rcases List.mem_cons.mp (OrderedDict.keys_push_subset _ _ _
        (OrderedDict.keys_evict_subset _ _ hother)) with rfl | hold
      · exact List.mem_cons_self
      · exact List.mem_cons_of_mem _ (ih hold)

/-- Among few enough keys a line evicts nothing. -/
theorem emit_store_of_few
    (hfew : ((c :: past).map ThrottledCall.key).dedup.length ≤ auditThrottleKeys) :
    ((after past).emit c).store = (after past).store.push c.key ⟨c.now, 0⟩ := by
  refine OrderedDict.evict_of_length_le (Nat.le_trans ?_ hfew)
  refine OrderedDict.length_le_of_keys_subset fun other hother => ?_
  rcases List.mem_cons.mp (OrderedDict.keys_push_subset _ _ _ hother) with rfl | hold
  · exact List.mem_cons_self
  · exact List.mem_cons_of_mem _ (after_keys_subset past hold)

/-- A call that is folded is one more pending call of its key, and of no other key. -/
theorem pending_suppress (hrecent : st.isRecent c = true) :
    (st.suppress c.key).pending key = (if c.key = key then 1 else 0) + st.pending key := by
  obtain ⟨entry, hentry, -⟩ := (Option.any_eq_true _ _).mp hrecent
  unfold pending suppress
  by_cases hkey : c.key = key
  · subst hkey
    rw [OrderedDict.get_modify_self, hentry, if_pos rfl]
    exact Nat.add_comm _ _
  · rw [OrderedDict.get_modify_of_ne _ (Ne.symm hkey), if_neg hkey, Nat.zero_add]

/-- Among few enough keys a line settles what is pending of its key, and nothing else. -/
theorem pending_emit (hfew : ((c :: past).map ThrottledCall.key).dedup.length ≤ auditThrottleKeys) :
    ((after past).emit c).pending key = if c.key = key then 0 else (after past).pending key := by
  rw [pending, emit_store_of_few hfew]
  by_cases hkey : c.key = key
  · subst hkey
    rw [OrderedDict.get_push_self, if_pos rfl]
    rfl
  · rw [OrderedDict.get_push_of_ne _ (Ne.symm hkey), if_neg hkey]
    rfl

/-- Among few enough keys every call is in a line or pending. -/
theorem calls_eq_accounted_add_pending
    (hfew : (past.map ThrottledCall.key).dedup.length ≤ auditThrottleKeys) (key : ThrottleKey) :
    (past.filter fun c => decide (c.key = key)).length =
      accounted key (after past).lines + (after past).pending key := by
  induction past with
  | nil => rfl
  | cons c past ih =>
    have hbefore : (past.map ThrottledCall.key).dedup.length ≤ auditThrottleKeys := by
      refine Nat.le_trans
        (List.subperm_of_subset (List.nodup_dedup _) fun other hother => ?_).length_le
        hfew
      exact List.mem_dedup.mpr (List.mem_cons_of_mem _ (List.mem_dedup.mp hother))
    have hcount : ((c :: past).filter fun c => decide (c.key = key)).length =
        (if c.key = key then 1 else 0) + (past.filter fun c => decide (c.key = key)).length := by
      rw [List.filter_cons]
      by_cases hkey : c.key = key
      · simp [hkey, Nat.add_comm]
      · simp [hkey]
    rw [hcount, ih hbefore, after, call]
    by_cases hrecent : (after past).isRecent c = true
    · rw [if_pos hrecent, pending_suppress hrecent]
      exact Nat.add_left_comm _ _ _
    · rw [if_neg hrecent, pending_emit hfew]
      have hline : accounted key ((after past).emit c).lines =
          (if c.key = key then 1 + (after past).pending c.key else 0) +
            accounted key (after past).lines := accounted_cons
      rw [hline]
      by_cases hkey : c.key = key
      · subst hkey
        simp only [if_true]
        omega
      · simp only [hkey, if_false]
        omega

/-- Throttled records under a clock that does not go back: the store keeps at most
`AUDIT_THROTTLE_KEYS` entries; between two lines of one key less than a window apart there are lines
of at least as many other keys; and if no more keys than that occur, then for every key the calls
are those that its lines stand for and those that are pending. -/
theorem throttled (hordered : past.Pairwise fun later earlier => earlier.now ≤ later.now) :
    (after past).store.entries.length ≤ auditThrottleKeys ∧
    (∀ latest second mid first older,
      (after past).lines = latest ++ second :: (mid ++ first :: older) →
      second.call.key = first.call.key →
      second.call.now - first.call.now < auditThrottleWindow →
      auditThrottleKeys ≤ (otherKeys first.call.key mid).length) ∧
    ((past.map ThrottledCall.key).dedup.length ≤ auditThrottleKeys → ∀ key,
      (past.filter fun c => decide (c.key = key)).length =
        accounted key (after past).lines + (after past).pending key) :=
  ⟨after_length_le past, fun _ _ _ _ _ => otherKeys_between hordered,
    calls_eq_accounted_add_pending⟩

/-- Three calls of one client for one reason: the second is folded, and the third one, a minute
later, says so. -/
theorem throttled_three :
    let event : AuditName := ⟨py "ws-reject".toList, by decide, by decide⟩
    let key : ThrottleKey := ⟨py "10.0.0.1".toList, py "origin".toList⟩
    let past : List ThrottledCall :=
      [⟨70 * second, event, key, []⟩, ⟨5 * second, event, key, []⟩, ⟨0, event, key, []⟩]
    (past.filter fun c => decide (c.key = key)).length =
      accounted key (after past).lines + (after past).pending key := by
  intro event key past
  have hordered : past.Pairwise fun later earlier => earlier.now ≤ later.now := by
    simp [past, second]
  exact (throttled hordered).2.2 (by decide) key

end Throttle

/-! ## The record of a line -/

/-- No digit of a count is a character that `_UNSAFE` misses. -/
theorem not_isMissed_of_digit {n c : ℕ} (hc : c ∈ py (Nat.toDigits 10 n)) : isMissed c = false := by
  obtain ⟨d, hd, rfl⟩ := List.mem_map.mp hc
  have hdigit := Nat.isDigit_of_mem_toDigits (by decide) (by decide) hd
  have hle : d.toNat ≤ 57 := (Char.isDigit_iff_toNat.mp hdigit).2
  simp only [isMissed, Bool.or_eq_false_iff, decide_eq_false_iff_not]
  omega

/-- The record of a line is one line if and only if the reason, the client and the values that the
caller adds have no character that `_UNSAFE` misses among those that are kept. The count of the
folded calls never has one. -/
theorem ThrottledLine.record_isOneLine (line : ThrottledLine) :
    line.record.isOneLine = true ↔
      (line.call.key.reason.take auditValueMax).any isMissed = false ∧
      (line.call.key.client.take auditValueMax).any isMissed = false ∧
      ∀ field ∈ line.call.fields, ∀ value, field.value = some value →
        (value.take auditValueMax).any isMissed = false := by
  have hcount : ∀ value, (if line.suppressed = 0 then none
      else some (py (Nat.toDigits 10 line.suppressed))) = some value →
        (value.take auditValueMax).any isMissed = false := by
    intro value hvalue
    split_ifs at hvalue
    cases hvalue
    rw [List.any_eq_false]
    intro c hc
    simp [not_isMissed_of_digit (List.mem_of_mem_take hc)]
  rw [record, auditRecord_isOneLine_iff]
  constructor
  · intro hall
    refine ⟨?_, ?_, fun field hfield => hall field (by simp [fields, hfield])⟩
    · exact hall ⟨⟨py "reason".toList, by decide, by decide⟩, some line.call.key.reason⟩
        (by simp [fields]) _ rfl
    · exact hall ⟨⟨py "client".toList, by decide, by decide⟩, some line.call.key.client⟩
        (by simp [fields]) _ rfl
  · rintro ⟨hreason, hclient, hrest⟩ field hfield value hvalue
    simp only [fields, List.mem_append, List.mem_cons, List.not_mem_nil, or_false] at hfield
    rcases hfield with ((rfl | rfl) | hfield) | rfl
    · cases hvalue
      exact hreason
    · cases hvalue
      exact hclient
    · exact hrest field hfield value hvalue
    · exact hcount value hvalue

end WTerm
