import WTerm.Auth.Tokens
import WTerm.Lib.Recency

/-!
# The token store and its reference

`_valid_tokens` forgets an expired token when it is checked or when another one is issued, and the
oldest one when there are too many. The reference speaks of the whole past instead: a token is held
from its issue until it expires, is logged out, or too many tokens that are still held were issued
after it.
-/

namespace WTerm

/-- What happens to the token store. -/
inductive TokenOp where
  /-- A login: `_issue_token` generates the token. -/
  | issue (token : PyStr)
  /-- A logout with the token in its cookie. -/
  | logout (token : PyStr)
  /-- `is_authed` with the token in the cookie. -/
  | check (token : PyStr)
  deriving DecidableEq

/-- A call of the token store, with its time. -/
structure TokenCall where
  now : Time
  op : TokenOp
  deriving DecidableEq

variable {Key : Type} [DecidableEq Key]

/-- The token store after a call. `logout` ignores an empty cookie. -/
def Auth.call (tokenKey : PyStr → Key) (auth : Auth Key) (c : TokenCall) : Auth Key :=
  match c.op with
  | .issue token => auth.issueToken (tokenKey token) c.now
  | .logout token => if token = [] then auth else auth.revokeToken (tokenKey token)
  | .check token => auth.checkKey (tokenKey token) c.now

/-- The token store after some calls, of which the first in the list is the newest. -/
def Auth.after (tokenKey : PyStr → Key) : List TokenCall → Auth Key
  | [] => {}
  | c :: past => (Auth.after tokenKey past).call tokenKey c

/-! ## The reference -/

/-- The token that a call issues. -/
def TokenOp.issued? : TokenOp → Option PyStr
  | .issue token => some token
  | _ => none

/-- The tokens issued in the past, newest first. -/
def issuedTokens (past : List TokenCall) : List PyStr := past.filterMap fun c => c.op.issued?

/-- The tokens issued after the last issue of a token, newest first. -/
def issuedSince (token : PyStr) (past : List TokenCall) : List PyStr :=
  (issuedTokens past).takeWhile fun other => decide (other ≠ token)

/-- Whether a token is held at a time after some calls: it was issued and has not expired, it was
not logged out since, and at no later issue there were `MAX_TOKENS` tokens that were issued after it
and were held at that time, the new one included. -/
def held : List TokenCall → Time → PyStr → Bool
  | [], _, _ => false
  | ⟨t, .issue new⟩ :: past, now, token =>
    if token = new then decide (now - t < authTokenTtl)
    else held past now token &&
      decide (1 + ((issuedSince token past).filter (held past t)).length < maxTokens)
  | ⟨_, .logout out⟩ :: past, now, token => decide (token ≠ out) && held past now token
  | ⟨_, .check _⟩ :: past, now, token => held past now token

/-- A past as a server can have it: the clock does not go back, and the generated tokens are all
different and not empty. -/
structure TokenPast (past : List TokenCall) (now : Time) : Prop where
  ordered : past.Pairwise fun later earlier => earlier.now ≤ later.now
  latest : ∀ c ∈ past, c.now ≤ now
  distinct : (issuedTokens past).Nodup
  nonempty : [] ∉ issuedTokens past

/-- A token that was issued at `t`, after the calls `older` and before the calls `newer`, has not
expired, was not logged out since, and at every later issue fewer than `MAX_TOKENS` tokens issued
after it were held, the new one included. -/
structure HeldSince (newer : List TokenCall) (t : Time) (older : List TokenCall) (now : Time)
    (token : PyStr) : Prop where
  unexpired : now - t < authTokenTtl
  notLoggedOut : ∀ t', ⟨t', .logout token⟩ ∉ newer
  few : ∀ latest t' new mid, newer = latest ++ ⟨t', .issue new⟩ :: mid →
    1 + ((issuedTokens mid).filter (held (mid ++ ⟨t, .issue token⟩ :: older) t')).length < maxTokens

/-! ## One call on the store -/

section Call

variable {auth : Auth Key} {key new : Key} {now t : Time}

/-- The store answers for the tokens with an entry that has not expired. -/
theorem keyValid_iff : auth.keyValid key now = true ↔
    ∃ issuedAt, auth.validTokens.get key = some issuedAt ∧ now - issuedAt < authTokenTtl := by
  simp only [Auth.keyValid, Option.any_eq_true, decide_eq_true_eq]

/-- A check forgets nothing that has not expired. -/
theorem keyValid_checkKey (hlater : t ≤ now) :
    (auth.checkKey new t).keyValid key now = auth.keyValid key now := by
  unfold Auth.checkKey
  cases hentry : auth.validTokens.get new with
  | none => rfl
  | some issuedAt =>
    dsimp only
    split_ifs with halive
    · rfl
    · rw [Bool.eq_iff_iff, keyValid_iff, keyValid_iff]
      constructor
      · rintro ⟨at', hget, hvalid⟩
        exact ⟨at', (auth.validTokens.get_erase_eq_some.mp hget).2, hvalid⟩
      · rintro ⟨at', hget, hvalid⟩
        refine ⟨at', auth.validTokens.get_erase_eq_some.mpr ⟨?_, hget⟩, hvalid⟩
        rintro rfl
        rw [hentry] at hget
        obtain rfl := Option.some.inj hget
        have hearlier : t - issuedAt ≤ now - issuedAt := Nat.sub_le_sub_right hlater _
        exact halive (Nat.lt_of_le_of_lt hearlier hvalid)

/-- After a logout the other keys are as valid as before, and the key of the token is not valid. -/
theorem keyValid_revokeToken : (auth.revokeToken new).keyValid key now = true ↔
    key ≠ new ∧ auth.keyValid key now = true := by
  rw [keyValid_iff, keyValid_iff]
  unfold Auth.revokeToken
  simp only [OrderedDict.get_erase_eq_some, and_assoc, exists_and_left]

/-- The tokens that are left when another one is issued, before it is added. -/
def Auth.unexpired (auth : Auth Key) (t : Time) : OrderedDict Key Time :=
  auth.validTokens.keep fun issuedAt => decide (t - issuedAt < authTokenTtl)

/-- The keys that a check leaves in the store are the valid ones. -/
theorem mem_unexpired_keys : key ∈ (auth.unexpired t).keys ↔ auth.keyValid key t = true := by
  rw [keyValid_iff]
  constructor
  · intro hkey
    obtain ⟨issuedAt, hget⟩ := (auth.unexpired t).exists_get_of_mem_keys hkey
    have hkept := auth.validTokens.get_keep_eq_some.mp hget
    exact ⟨issuedAt, hkept.1, of_decide_eq_true hkept.2⟩
  · rintro ⟨issuedAt, hget, halive⟩
    exact OrderedDict.mem_keys_of_get _
      (auth.validTokens.get_keep_eq_some.mpr ⟨hget, decide_eq_true halive⟩)

/-- The new token is valid from its issue on. -/
theorem keyValid_issueToken_self :
    (auth.issueToken new t).keyValid new now = decide (now - t < authTokenTtl) := by
  have hget : (auth.issueToken new t).validTokens.get new = some t := by
    refine OrderedDict.get_evict_eq_some _ |>.mpr ⟨OrderedDict.get_push_self _ _ _, ?_⟩
    rw [OrderedDict.newer_push_self]
    exact (by decide : 0 < maxTokens)
  rw [Auth.keyValid, hget]
  rfl

/-- Another token stays valid if few enough of those that are left are newer. -/
theorem keyValid_issueToken_of_ne (hlater : t ≤ now) (hne : key ≠ new)
    (hnew : new ∉ (auth.unexpired t).keys) :
    (auth.issueToken new t).keyValid key now = true ↔
      auth.keyValid key now = true ∧ 1 + ((auth.unexpired t).newer key).length < maxTokens := by
  have hget (issuedAt : Time) : (auth.issueToken new t).validTokens.get key = some issuedAt ↔
      (auth.unexpired t).get key = some issuedAt ∧
        (((auth.unexpired t).push new t).newer key).length < maxTokens := by
    refine (OrderedDict.get_evict_eq_some _).trans (and_congr_left fun _ => ?_)
    exact (iff_of_eq (congrArg (· = some issuedAt) (OrderedDict.get_push_of_ne _ hne t)))
  have hnewer (hmem : key ∈ (auth.unexpired t).keys) :
      (((auth.unexpired t).push new t).newer key).length =
        1 + ((auth.unexpired t).newer key).length := by
    rw [OrderedDict.newer_push_of_not_mem _ hnew hmem, List.length_append, Nat.add_comm]
    rfl
  rw [keyValid_iff, keyValid_iff]
  constructor
  · rintro ⟨issuedAt, hentry, hvalid⟩
    obtain ⟨hkept, hfew⟩ := (hget issuedAt).mp hentry
    rw [hnewer (OrderedDict.mem_keys_of_get _ hkept)] at hfew
    exact ⟨⟨issuedAt, (auth.validTokens.get_keep_eq_some.mp hkept).1, hvalid⟩, hfew⟩
  · rintro ⟨⟨issuedAt, hentry, hvalid⟩, hfew⟩
    have halive : t - issuedAt < authTokenTtl :=
      Nat.lt_of_le_of_lt (Nat.sub_le_sub_right hlater _) hvalid
    have hkept : (auth.unexpired t).get key = some issuedAt :=
      auth.validTokens.get_keep_eq_some.mpr ⟨hentry, decide_eq_true halive⟩
    refine ⟨issuedAt, (hget issuedAt).mpr ⟨hkept, ?_⟩, hvalid⟩
    rwa [hnewer (OrderedDict.mem_keys_of_get _ hkept)]

/-- After an issue the store is within its limit. -/
theorem issueToken_length_le : (auth.issueToken new t).validTokens.entries.length ≤ maxTokens :=
  OrderedDict.evict_length_le _ _

end Call

/-! ## The whole past -/

section Past

variable {past : List TokenCall} {c : TokenCall} {now t : Time} {token new : PyStr}

/-- The past of a call, at the time of the call. -/
theorem TokenPast.tail (h : TokenPast (c :: past) now) : TokenPast past c.now where
  ordered := (List.pairwise_cons.mp h.ordered).2
  latest := (List.pairwise_cons.mp h.ordered).1
  distinct := h.distinct.sublist ((List.sublist_cons_self c past).filterMap _)
  nonempty := fun hmem =>
    h.nonempty (((List.sublist_cons_self c past).filterMap fun c => c.op.issued?).subset hmem)

/-- The last call does not lie behind the present time. -/
theorem TokenPast.head_le (h : TokenPast (c :: past) now) : c.now ≤ now :=
  h.latest c List.mem_cons_self

/-- Calls that lie before a time also lie before every later time. -/
theorem TokenPast.mono (h : TokenPast past t) (hlater : t ≤ now) : TokenPast past now :=
  ⟨h.ordered, fun c hc => Nat.le_trans (h.latest c hc) hlater, h.distinct, h.nonempty⟩

/-- A token that is held was issued. -/
theorem mem_issuedTokens_of_held (h : held past now token = true) : token ∈ issuedTokens past := by
  induction past generalizing now with
  | nil => simp [held] at h
  | cons c past ih =>
    obtain ⟨t, op⟩ := c
    cases op with
    | issue new =>
      by_cases hnew : token = new
      · simp [issuedTokens, TokenOp.issued?, hnew]
      · rw [held, if_neg hnew, Bool.and_eq_true] at h
        exact List.mem_cons_of_mem _ (ih h.1)
    | logout out =>
      rw [held, Bool.and_eq_true] at h
      exact ih h.2
    | check _ => exact ih h

variable {tokenKey : PyStr → Key}

/-- The entries are in the order of the issues. -/
theorem after_keys_sublist (past : List TokenCall) :
    (Auth.after tokenKey past).validTokens.keys.Sublist
      ((issuedTokens past).reverse.map tokenKey) := by
  induction past with
  | nil => exact List.nil_sublist _
  | cons c past ih =>
    obtain ⟨t, op⟩ := c
    cases op with
    | issue new =>
      have hissued : (issuedTokens (⟨t, .issue new⟩ :: past)).reverse.map tokenKey =
          (issuedTokens past).reverse.map tokenKey ++ [tokenKey new] := by
        simp [issuedTokens, TokenOp.issued?]
      have hkept : ((Auth.after tokenKey past).unexpired t).keys.Sublist
          ((issuedTokens past).reverse.map tokenKey) :=
        (OrderedDict.keys_keep_sublist _ _).trans ih
      have hpush : (((Auth.after tokenKey past).unexpired t).push (tokenKey new) t).keys.Sublist
          ((issuedTokens past).reverse.map tokenKey ++ [tokenKey new]) := by
        rw [OrderedDict.keys_push]
        exact ((OrderedDict.keys_erase_sublist _ _).trans hkept).append (List.Sublist.refl _)
      rw [hissued]
      exact (OrderedDict.keys_evict_sublist _ _).trans hpush
    | logout out =>
      change (Auth.validTokens (if out = [] then _ else _)).keys.Sublist _
      split_ifs
      · exact ih
      · exact (OrderedDict.keys_erase_sublist _ _).trans ih
    | check token =>
      change (Auth.validTokens (Auth.checkKey _ _ _)).keys.Sublist _
      unfold Auth.checkKey
      split
      · exact ih
      · split_ifs
        · exact ih
        · exact (OrderedDict.keys_erase_sublist _ _).trans ih

/-- The entries that are newer than the one of a token are those of the tokens that were issued
after it and are still valid. -/
theorem newer_unexpired_length (hinj : Function.Injective tokenKey) (hpast : TokenPast past t)
    (hissued : token ∈ issuedTokens past)
    (hvalid : (Auth.after tokenKey past).keyValid (tokenKey token) t = true) :
    (((Auth.after tokenKey past).unexpired t).newer (tokenKey token)).length =
      ((issuedSince token past).filter fun other =>
        (Auth.after tokenKey past).keyValid (tokenKey other) t).length := by
  have hnodup : ((issuedTokens past).reverse.map tokenKey).Nodup :=
    (List.nodup_reverse.mpr hpast.distinct).map hinj
  have hsub : ((Auth.after tokenKey past).unexpired t).keys.Sublist
      ((issuedTokens past).reverse.map tokenKey) :=
    (OrderedDict.keys_keep_sublist _ _).trans (after_keys_sublist past)
  have hmem (key : Key) : decide (key ∈ ((Auth.after tokenKey past).unexpired t).keys) =
      (Auth.after tokenKey past).keyValid key t := by
    rw [Bool.eq_iff_iff, decide_eq_true_eq]
    exact mem_unexpired_keys
  have hkeys : ((Auth.after tokenKey past).unexpired t).keys =
      ((issuedTokens past).reverse.map tokenKey).filter fun key =>
        (Auth.after tokenKey past).keyValid key t := by
    refine (sublist_eq_filter hsub hnodup).trans (List.filter_congr fun key _ => ?_)
    exact hmem key
  rw [OrderedDict.newer, hkeys,
    later_filter (p := fun key => (Auth.after tokenKey past).keyValid key t) hvalid, later_map hinj,
    later_reverse hpast.distinct hissued, List.filter_map, List.length_map, List.filter_reverse,
    List.length_reverse]
  rfl

/-- The store answers as the reference does. -/
theorem keyValid_after (hinj : Function.Injective tokenKey) (hpast : TokenPast past now)
    (token : PyStr) :
    (Auth.after tokenKey past).keyValid (tokenKey token) now = held past now token := by
  induction past generalizing now token with
  | nil => rfl
  | cons c past ih =>
    have hbefore := hpast.tail
    have hlater := hpast.head_le
    have hnow := hbefore.mono hlater
    obtain ⟨t, op⟩ := c
    cases op with
    | issue new =>
      rw [held]
      change ((Auth.after tokenKey past).issueToken (tokenKey new) t).keyValid _ now = _
      by_cases hsame : token = new
      · subst hsame
        rw [if_pos rfl]
        exact keyValid_issueToken_self
      · have hnew : tokenKey new ∉ ((Auth.after tokenKey past).unexpired t).keys := by
          rw [mem_unexpired_keys, ih hbefore]
          intro hheld
          exact (List.nodup_cons.mp hpast.distinct).1 (mem_issuedTokens_of_held hheld)
        rw [if_neg hsame, Bool.eq_iff_iff,
          keyValid_issueToken_of_ne hlater (hinj.ne hsame) hnew, ih hnow, Bool.and_eq_true]
        -- What is held now was held then.
        have hthen : held past now token = true → held past t token = true := by
          intro hheld
          rw [← ih hnow, keyValid_iff] at hheld
          obtain ⟨issuedAt, hget, hvalid⟩ := hheld
          rw [← ih hbefore, keyValid_iff]
          exact ⟨issuedAt, hget, Nat.lt_of_le_of_lt (Nat.sub_le_sub_right hlater _) hvalid⟩
        refine and_congr_right fun hheld => ?_
        have hvalid := (ih hbefore token).trans (hthen hheld)
        rw [newer_unexpired_length hinj hbefore (mem_issuedTokens_of_held hheld) hvalid,
          decide_eq_true_eq, funext fun other => ih hbefore other]
    | logout out =>
      rw [held]
      change (if out = [] then Auth.after tokenKey past else
        (Auth.after tokenKey past).revokeToken (tokenKey out)).keyValid _ now = _
      split_ifs with hempty
      · -- The empty text was never issued, so nothing is held under it.
        have hheld : held past now token = true → token ≠ out := by
          rintro hheld rfl
          exact hbefore.nonempty (hempty ▸ mem_issuedTokens_of_held hheld)
        rw [ih hnow, Bool.eq_iff_iff, Bool.and_eq_true, decide_eq_true_eq]
        exact ⟨fun h => ⟨hheld h, h⟩, And.right⟩
      · rw [Bool.eq_iff_iff, keyValid_revokeToken, ih hnow, Bool.and_eq_true, decide_eq_true_eq,
          hinj.ne_iff]
    | check other =>
      rw [held, ← ih hnow]
      exact keyValid_checkKey hlater

/-- The tokens of two histories are those of the one and those of the other. -/
theorem issuedTokens_append (newer older : List TokenCall) :
    issuedTokens (newer ++ older) = issuedTokens newer ++ issuedTokens older :=
  List.filterMap_append

/-- The tokens issued after an issue are the new one and those issued before. -/
@[simp]
theorem issuedTokens_issue (t : Time) (token : PyStr) (past : List TokenCall) :
    issuedTokens (⟨t, .issue token⟩ :: past) = token :: issuedTokens past := rfl

variable {newer older : List TokenCall}

/-- If all issued tokens differ, a token is not issued again after its issue. -/
theorem not_mem_issuedTokens_newer
    (hdistinct : (issuedTokens (newer ++ ⟨t, .issue token⟩ :: older)).Nodup) :
    token ∉ issuedTokens newer := by
  rw [issuedTokens_append, issuedTokens_issue, List.nodup_append] at hdistinct
  exact fun hmem => hdistinct.2.2 token hmem token List.mem_cons_self rfl

/-- The tokens issued since the only issue of a token. -/
theorem issuedSince_append (hnew : token ∉ issuedTokens newer) :
    issuedSince token (newer ++ ⟨t, .issue token⟩ :: older) = issuedTokens newer := by
  have hall : ∀ other ∈ issuedTokens newer, decide (other ≠ token) = true := by
    rintro other hother
    exact decide_eq_true fun heq => hnew (heq ▸ hother)
  rw [issuedSince, issuedTokens_append, List.takeWhile_append_of_pos hall]
  simp

/-- A last call that does not issue the token comes after the issue. -/
theorem exists_issue_cons (hc : c.op ≠ .issue token)
    (P : List TokenCall → Time → List TokenCall → Prop) :
    (∃ newer t older, c :: past = newer ++ ⟨t, .issue token⟩ :: older ∧ P newer t older) ↔
      ∃ newer t older, past = newer ++ ⟨t, .issue token⟩ :: older ∧ P (c :: newer) t older := by
  constructor
  · rintro ⟨newer, t, older, hpast, h⟩
    cases newer with
    | nil =>
      obtain ⟨rfl, -⟩ := List.cons.inj hpast
      exact absurd rfl hc
    | cons first rest =>
      obtain ⟨rfl, rfl⟩ := List.cons.inj hpast
      exact ⟨rest, t, older, rfl, h⟩
  · rintro ⟨newer, t, older, rfl, h⟩
    exact ⟨c :: newer, t, older, rfl, h⟩

/-- A call that does not issue the token comes after the issue. -/
theorem HeldSince.cons (h : HeldSince newer t older now token)
    (hlogout : c.op ≠ .logout token)
    (hfew : ∀ new, c.op = .issue new →
      1 + ((issuedTokens newer).filter (held (newer ++ ⟨t, .issue token⟩ :: older) c.now)).length <
        maxTokens) :
    HeldSince (c :: newer) t older now token := by
  refine ⟨h.unexpired, ?_, ?_⟩
  · intro t' hmem
    rcases List.mem_cons.mp hmem with rfl | hold
    · exact hlogout rfl
    · exact h.notLoggedOut t' hold
  · intro latest t' new mid hsplit
    cases latest with
    | nil =>
      obtain ⟨rfl, rfl⟩ := List.cons.inj hsplit
      exact hfew new rfl
    | cons first rest => exact h.few rest t' new mid (List.cons.inj hsplit).2

/-- What holds since an issue held before the last call. -/
theorem HeldSince.of_cons (h : HeldSince (c :: newer) t older now token) :
    HeldSince newer t older now token where
  unexpired := h.unexpired
  notLoggedOut t' hmem := h.notLoggedOut t' (List.mem_cons_of_mem _ hmem)
  few latest t' new mid hsplit := h.few (c :: latest) t' new mid (by rw [hsplit]; rfl)

/-- A token is held if and only if it was issued at some call and held ever since: the reference in
one sentence. -/
theorem held_iff_heldSince (hdistinct : (issuedTokens past).Nodup) :
    held past now token = true ↔ ∃ newer t older,
      past = newer ++ ⟨t, .issue token⟩ :: older ∧ HeldSince newer t older now token := by
  induction past generalizing now token with
  | nil => simp [held]
  | cons c past ih =>
    obtain ⟨t, op⟩ := c
    cases op with
    | issue new =>
      have hrest : (issuedTokens past).Nodup := (List.nodup_cons.mp hdistinct).2
      have hnew : new ∉ issuedTokens past := (List.nodup_cons.mp hdistinct).1
      by_cases hsame : token = new
      · subst hsame
        rw [held, if_pos rfl, decide_eq_true_eq]
        constructor
        · intro hunexpired
          exact ⟨[], t, past, rfl, hunexpired, by simp, by simp⟩
        · rintro ⟨newer, t', older, hpast, h⟩
          cases newer with
          | nil =>
            obtain ⟨hcall, rfl⟩ := List.cons.inj hpast
            obtain ⟨rfl, -⟩ := TokenCall.mk.inj hcall
            exact h.unexpired
          | cons first rest =>
            obtain ⟨rfl, rfl⟩ := List.cons.inj hpast
            exact absurd (by simp [issuedTokens_append]) hnew
      · rw [held, if_neg hsame, Bool.and_eq_true, decide_eq_true_eq, ih hrest,
          exists_issue_cons (by simpa using Ne.symm hsame)]
        constructor
        · rintro ⟨⟨newer, t', older, rfl, h⟩, hfew⟩
          refine ⟨newer, t', older, rfl, h.cons (by simp) fun _ _ => ?_⟩
          rwa [issuedSince_append (not_mem_issuedTokens_newer hrest)] at hfew
        · rintro ⟨newer, t', older, rfl, h⟩
          refine ⟨⟨newer, t', older, rfl, h.of_cons⟩, ?_⟩
          rw [issuedSince_append (not_mem_issuedTokens_newer hrest)]
          exact h.few [] t new newer rfl
    | logout out =>
      rw [held, Bool.and_eq_true, decide_eq_true_eq, ih hdistinct, exists_issue_cons (by simp)]
      constructor
      · rintro ⟨hout, newer, t', older, rfl, h⟩
        exact ⟨newer, t', older, rfl,
          h.cons (fun heq => hout (TokenOp.logout.inj heq).symm) (by simp)⟩
      · rintro ⟨newer, t', older, rfl, h⟩
        refine ⟨?_, newer, t', older, rfl, h.of_cons⟩
        rintro rfl
        exact h.notLoggedOut t List.mem_cons_self
    | check other =>
      rw [held, ih hdistinct, exists_issue_cons (by simp)]
      constructor
      · rintro ⟨newer, t', older, rfl, h⟩
        exact ⟨newer, t', older, rfl, h.cons (by simp) (by simp)⟩
      · rintro ⟨newer, t', older, rfl, h⟩
        exact ⟨newer, t', older, rfl, h.of_cons⟩

/-- The token store is its reference: with a password, `is_authed` accepts a token exactly if it was
issued within the last `AUTH_TOKEN_TTL`, was not logged out since, and at every later issue fewer
than `MAX_TOKENS` tokens issued after it were still held; and after an issue at most `MAX_TOKENS`
entries are left. -/
theorem isAuthed_iff_heldSince (hinj : Function.Injective tokenKey) (hpast : TokenPast past now)
    {passwordHash : Option PyStr} (hhash : passwordHash.isSome = true) {conn : Conn}
    (hcookie : conn.cookies authCookie = some token) :
    ((Auth.after tokenKey past).isAuthed tokenKey passwordHash conn now = true ↔
        ∃ newer t older, past = newer ++ ⟨t, .issue token⟩ :: older ∧
          HeldSince newer t older now token) ∧
      ∀ t new older, past = ⟨t, .issue new⟩ :: older →
        (Auth.after tokenKey past).validTokens.entries.length ≤ maxTokens := by
  constructor
  · have hauthed : (Auth.after tokenKey past).isAuthed tokenKey passwordHash conn now =
        (Auth.after tokenKey past).keyValid (tokenKey token) now := by
      obtain ⟨hash, rfl⟩ := Option.isSome_iff_exists.mp hhash
      simp [Auth.isAuthed, Auth.requestKey, hcookie]
    rw [hauthed, keyValid_after hinj hpast, held_iff_heldSince hpast.distinct]
  · rintro t new older rfl
    exact issueToken_length_le

/-- Of two tokens the first one is logged out, and the second one is still accepted after a check.
-/
theorem isAuthed_iff_heldSince_two :
    ∃ newer t older, [⟨4, .check [66]⟩, ⟨3, .logout [65]⟩, ⟨2, .issue [66]⟩, ⟨1, .issue [65]⟩] =
        newer ++ ⟨t, .issue [66]⟩ :: older ∧ HeldSince newer t older 5 [66] := by
  have hpast : TokenPast
      [⟨4, .check [66]⟩, ⟨3, .logout [65]⟩, ⟨2, .issue [66]⟩, ⟨1, .issue [65]⟩] 5 :=
    ⟨by decide, by decide, by decide, by decide⟩
  have hreference :=
    @isAuthed_iff_heldSince _ _ _ _ [66] id Function.injective_id hpast (some []) rfl
    ⟨[], fun _ => none, fun _ => some [66], fun _ => none⟩ rfl
  exact hreference.1.mp (by decide)

end Past

end WTerm
