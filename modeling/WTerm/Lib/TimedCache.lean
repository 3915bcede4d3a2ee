import Mathlib.Data.List.Perm.Basic
import WTerm.Lib.Transition

/-!
# A cached value behind a lock

Callers ask for a value that is expensive to fetch. The first one gets a lock, fetches the value and
keeps it; the others wait for the lock in their order, and a caller that finds the value younger
than its time to live takes it as it is. A fetch may fail, and a caller may give up at any time.
Nothing here mentions a particular program.
-/

namespace TimedCache

open Transition

/-- A fetch that has returned. -/
structure Fetch (Source Value : Type*) where
  started : ℕ
  finished : ℕ
  /-- What was there to be fetched. -/
  source : Source
  value : Value

/-- What a caller was given, and when. -/
structure Answer (Value : Type*) where
  caller : ℕ
  time : ℕ
  value : Value

/-- The cache, with its lock and its callers. -/
structure Cache (Source Value : Type*) where
  now : ℕ := 0
  value : Value
  filledAt : Option ℕ := none
  /-- The caller that fetches, and since when. -/
  holder : Option (ℕ × ℕ) := none
  waiters : List ℕ := []
  /-- History: the callers so far. -/
  calls : List ℕ := []
  /-- History: when a fetch was begun. -/
  starts : List ℕ := []
  /-- History: the fetches that have returned. -/
  fetches : List (Fetch Source Value) := []
  answers : List (Answer Value) := []
  /-- History: the callers that have given up, or whose fetch has failed. -/
  dropped : List ℕ := []

/-- What can happen. -/
inductive Event (Source : Type*) where
  | tick (elapsed : ℕ)
  /-- A new caller asks for the lock. -/
  | call (caller : ℕ)
  /-- The first waiter gets the lock. -/
  | acquire
  /-- The fetch returns or fails, depending on what it finds. -/
  | fetched (source : Source)
  /-- The caller that fetches gives up. -/
  | abort
  /-- A caller that waits gives up. -/
  | cancel (caller : ℕ)

variable {Source Value : Type*}

namespace Cache

/-- The value is younger than its time to live. -/
def Fresh (ttl : ℕ) (c : Cache Source Value) : Prop := ∃ t, c.filledAt = some t ∧ c.now < t + ttl

instance (ttl : ℕ) (c : Cache Source Value) : Decidable (c.Fresh ttl) :=
  match h : c.filledAt with
  | none => isFalse fun ⟨_, ht, _⟩ => by rw [h] at ht; cases ht
  | some t => decidable_of_iff (c.now < t + ttl)
      ⟨fun hlt => ⟨t, h, hlt⟩, fun ⟨t', ht, hlt⟩ => by
        rw [h] at ht
        cases ht
        exact hlt⟩

/-- A caller is given the value. -/
def answer (c : Cache Source Value) (caller : ℕ) : Cache Source Value :=
  { c with answers := c.answers ++ [⟨caller, c.now, c.value⟩] }

/-- A caller has got the lock. -/
def enter (ttl : ℕ) (c : Cache Source Value) (caller : ℕ) : Cache Source Value :=
  if c.Fresh ttl then c.answer caller
  else { c with holder := some (caller, c.now), starts := c.starts ++ [c.now] }

/-- The caller that fetches goes without a value. -/
def drop (c : Cache Source Value) (caller : ℕ) : Cache Source Value :=
  { c with holder := none, dropped := c.dropped ++ [caller] }

/-- The fetch has returned: the value is kept and given to the caller that has fetched it. -/
def fill (c : Cache Source Value) (caller started : ℕ) (source : Source) (value : Value) :
    Cache Source Value :=
  { c with
    value := value
    filledAt := some c.now
    holder := none
    fetches := c.fetches ++ [⟨started, c.now, source, value⟩]
    answers := c.answers ++ [⟨caller, c.now, value⟩] }

end Cache

namespace Event

/-- The cache after an event. -/
def apply (ttl : ℕ) (fetch : Source → Option Value) (c : Cache Source Value) :
    Event Source → Cache Source Value
  | .tick elapsed => { c with now := c.now + elapsed }
  | .call caller =>
    if c.holder = none ∧ c.waiters = [] then
      ({ c with calls := c.calls ++ [caller] }).enter ttl caller
    else { c with calls := c.calls ++ [caller], waiters := c.waiters ++ [caller] }
  | .acquire =>
    match c.waiters with
    | [] => c
    | caller :: rest => ({ c with waiters := rest }).enter ttl caller
  | .fetched source =>
    match c.holder, fetch source with
    | some (caller, started), some value => c.fill caller started source value
    | some (caller, _), none => c.drop caller
    | none, _ => c
  | .abort =>
    match c.holder with
    | some (caller, _) => c.drop caller
    | none => c
  | .cancel caller =>
    { c with waiters := c.waiters.erase caller, dropped := c.dropped ++ [caller] }

/-- When an event can happen. -/
def Enabled (c : Cache Source Value) : Event Source → Prop
  | .tick _ => True
  | .call caller => caller ∉ c.calls
  | .acquire => c.holder = none ∧ c.waiters ≠ []
  | .fetched _ | .abort => c.holder.isSome = true
  | .cancel caller => caller ∈ c.waiters

instance decidableEnabled (c : Cache Source Value) : (e : Event Source) → Decidable (e.Enabled c)
  | .tick _ => inferInstanceAs (Decidable True)
  | .call caller => inferInstanceAs (Decidable (caller ∉ c.calls))
  | .acquire => inferInstanceAs (Decidable (_ ∧ _))
  | .fetched _ | .abort => inferInstanceAs (Decidable (_ = true))
  | .cancel caller => inferInstanceAs (Decidable (caller ∈ c.waiters))

end Event

/-- The transition system of a cache. -/
def cacheSystem (ttl : ℕ) (fetch : Source → Option Value) :
    System (Cache Source Value) (Event Source) where
  Enabled := fun c e => e.Enabled c
  apply := Event.apply ttl fetch

instance cacheSystemDecidable (ttl : ℕ) (fetch : Source → Option Value) (c : Cache Source Value)
    (e : Event Source) : Decidable ((cacheSystem ttl fetch).Enabled c e) :=
  inferInstanceAs (Decidable (e.Enabled c))

/-! ## The invariant -/

/-- What holds of a cache at any time. -/
structure Cache.Sound (ttl : ℕ) (fetch : Source → Option Value) (c : Cache Source Value) :
    Prop where
  /-- The value is that of the last fetch, which is the latest. -/
  filled : ∀ t, c.filledAt = some t → t ≤ c.now ∧
    (∃ f ∈ c.fetches, f.finished = t ∧ f.value = c.value) ∧ c.fetches.length * ttl ≤ t + ttl
  latest : ∀ f ∈ c.fetches, ∃ t, c.filledAt = some t ∧ f.finished ≤ t
  fetched : ∀ f ∈ c.fetches, f.started ≤ f.finished ∧ fetch f.source = some f.value
  /-- The fetch under way has begun after all others, and after they have expired. -/
  holder : ∀ caller since, c.holder = some (caller, since) → since ≤ c.now ∧
    (∀ s ∈ c.starts, s ≤ since) ∧ ∀ f ∈ c.fetches, f.finished + ttl ≤ since
  past : ∀ s ∈ c.starts, s ≤ c.now
  spaced : ∀ f ∈ c.fetches, ∀ s ∈ c.starts, s ≤ f.started ∨ f.finished + ttl ≤ s
  answered : ∀ a ∈ c.answers, ∃ f ∈ c.fetches,
    f.value = a.value ∧ f.finished ≤ a.time ∧ a.time < f.finished + ttl

/-- Every caller has been given the value, has been dropped, waits or fetches, and only one of
these. -/
structure Cache.Accounted (c : Cache Source Value) : Prop where
  perm : (c.answers.map Answer.caller ++ c.dropped ++ c.waiters ++
    c.holder.toList.map Prod.fst).Perm c.calls
  once : c.calls.Nodup

section

variable {ttl : ℕ} {fetch : Source → Option Value} {c : Cache Source Value} {caller : ℕ}

namespace Cache

/-- The cache is sound before anybody has called. -/
theorem Sound.initial (ttl : ℕ) (fetch : Source → Option Value) (value : Value) :
    Sound ttl fetch { value := value } where
  filled t ht := by cases ht
  latest f hf := by cases hf
  fetched f hf := by cases hf
  holder caller since hholder := by cases hholder
  past s hs := by cases hs
  spaced f hf := by cases hf
  answered a ha := by cases ha

/-- A value that is not fresh has expired, for every fetch so far. -/
theorem Sound.expired (h : c.Sound ttl fetch) (hstale : ¬c.Fresh ttl) :
    ∀ f ∈ c.fetches, f.finished + ttl ≤ c.now := by
  intro f hf
  obtain ⟨t, ht, hle⟩ := h.latest f hf
  have hlate : ¬c.now < t + ttl := fun hlt => hstale ⟨t, ht, hlt⟩
  omega

/-- A change of the callers that touches neither the value nor the lock keeps the cache sound. -/
theorem Sound.callers (h : c.Sound ttl fetch) (calls waiters dropped : List ℕ) :
    Sound ttl fetch { c with calls := calls, waiters := waiters, dropped := dropped } :=
  ⟨h.filled, h.latest, h.fetched, h.holder, h.past, h.spaced, h.answered⟩

/-- The cache stays sound as time goes on. -/
theorem Sound.tick (h : c.Sound ttl fetch) (elapsed : ℕ) :
    Sound ttl fetch { c with now := c.now + elapsed } where
  filled t ht := by
    obtain ⟨hpast, hrest⟩ := h.filled t ht
    exact ⟨Nat.le_trans hpast (Nat.le_add_right _ _), hrest⟩
  latest := h.latest
  fetched := h.fetched
  holder caller since hholder := by
    obtain ⟨hpast, hrest⟩ := h.holder caller since hholder
    exact ⟨Nat.le_trans hpast (Nat.le_add_right _ _), hrest⟩
  past s hs := Nat.le_trans (h.past s hs) (Nat.le_add_right _ _)
  spaced := h.spaced
  answered := h.answered

/-- A caller gets the lock: it takes a fresh value, or begins a fetch. -/
theorem Sound.enter (h : c.Sound ttl fetch) (caller : ℕ) :
    (c.enter ttl caller).Sound ttl fetch := by
  unfold Cache.enter
  split
  · next hfresh =>
    obtain ⟨t, ht, hlt⟩ := hfresh
    obtain ⟨hpast, ⟨f, hf, hfinished, hvalue⟩, -⟩ := h.filled t ht
    refine ⟨h.filled, h.latest, h.fetched, h.holder, h.past, h.spaced, fun a ha => ?_⟩
    rcases List.mem_append.mp ha with ha | ha
    · exact h.answered a ha
    · obtain rfl := List.mem_singleton.mp ha
      have hbefore : f.finished ≤ c.now := by omega
      have hyoung : c.now < f.finished + ttl := by omega
      exact ⟨f, hf, hvalue, hbefore, hyoung⟩
  · next hstale =>
    have hexpired := h.expired hstale
    refine ⟨h.filled, h.latest, h.fetched, ?_, ?_, ?_, h.answered⟩
    · intro other since hholder
      obtain ⟨rfl, rfl⟩ := Prod.mk.inj (Option.some.inj hholder)
      refine ⟨Nat.le_refl _, fun s hs => ?_, hexpired⟩
      rcases List.mem_append.mp hs with hs | hs
      · exact h.past s hs
      · exact Nat.le_of_eq (List.mem_singleton.mp hs)
    · intro s hs
      rcases List.mem_append.mp hs with hs | hs
      · exact h.past s hs
      · exact Nat.le_of_eq (List.mem_singleton.mp hs)
    · intro f hf s hs
      rcases List.mem_append.mp hs with hs | hs
      · exact h.spaced f hf s hs
      · obtain rfl := List.mem_singleton.mp hs
        exact .inr (hexpired f hf)

/-- The caller that fetches goes without a value. -/
theorem Sound.drop (h : c.Sound ttl fetch) (caller : ℕ) : (c.drop caller).Sound ttl fetch :=
  ⟨h.filled, h.latest, h.fetched, fun _ _ hholder => (by cases hholder), h.past, h.spaced,
    h.answered⟩

/-- A fetch that returns a value, which is cached with the time of its end, keeps the cache sound.
-/
theorem Sound.fill (h : c.Sound ttl fetch) (httl : 0 < ttl) {started : ℕ}
    (hholder : c.holder = some (caller, started)) {source : Source} {value : Value}
    (hfetch : fetch source = some value) :
    (c.fill caller started source value).Sound ttl fetch := by
  obtain ⟨hpast, hstarts, hexpired⟩ := h.holder caller started hholder
  have hmem : (⟨started, c.now, source, value⟩ : Fetch Source Value) ∈
      (c.fill caller started source value).fetches := List.mem_append_right _ List.mem_cons_self
  refine ⟨fun t ht => ?_, fun f hf => ?_, fun f hf => ?_, fun _ _ hnone => (by cases hnone), h.past,
    fun f hf s hs => ?_, fun a ha => ?_⟩
  · obtain rfl := Option.some.inj ht
    refine ⟨Nat.le_refl _, ⟨_, hmem, rfl, rfl⟩, ?_⟩
    have hlength : (c.fill caller started source value).fetches.length = c.fetches.length + 1 := by
      simp [Cache.fill]
    rw [hlength, Nat.add_one_mul]
    cases hfetches : c.fetches with
    | nil => simp
    | cons first rest =>
      -- The last fetch before this one had expired when this one began.
      have hfirst : first ∈ c.fetches := by simp [hfetches]
      obtain ⟨t, hfilled, -⟩ := h.latest first hfirst
      obtain ⟨-, ⟨last, hlast, hfinished, -⟩, hcount⟩ := h.filled t hfilled
      have hlate := hexpired last hlast
      rw [hfetches] at hcount
      omega
  · refine ⟨c.now, rfl, ?_⟩
    rcases List.mem_append.mp hf with hf | hf
    · have hlate := hexpired f hf
      omega
    · obtain rfl := List.mem_singleton.mp hf
      exact Nat.le_refl _
  · rcases List.mem_append.mp hf with hf | hf
    · exact h.fetched f hf
    · rw [List.mem_singleton.mp hf]
      exact ⟨hpast, hfetch⟩
  · rcases List.mem_append.mp hf with hf | hf
    · exact h.spaced f hf s hs
    · rw [List.mem_singleton.mp hf]
      exact .inl (hstarts s hs)
  · rcases List.mem_append.mp ha with ha | ha
    · obtain ⟨f, hf, hanswer⟩ := h.answered a ha
      exact ⟨f, List.mem_append_left _ hf, hanswer⟩
    · obtain rfl := List.mem_singleton.mp ha
      exact ⟨_, hmem, rfl, Nat.le_refl _, Nat.lt_add_of_pos_right httl⟩

/-! ## The callers -/

/-- A caller that gets the lock has called before. -/
theorem enter_calls (c : Cache Source Value) (caller : ℕ) :
    (c.enter ttl caller).calls = c.calls := by
  unfold Cache.enter
  split <;> rfl

/-- A caller that gets the lock takes the value or fetches it. -/
theorem enter_perm (hfree : c.holder = none) (caller : ℕ) :
    ((c.enter ttl caller).answers.map Answer.caller ++ (c.enter ttl caller).dropped ++
      (c.enter ttl caller).waiters ++ (c.enter ttl caller).holder.toList.map Prod.fst).Perm
      (caller :: (c.answers.map Answer.caller ++ c.dropped ++ c.waiters)) := by
  unfold Cache.enter
  rw [List.perm_iff_count]
  intro k
  split
  · simp only [answer, hfree, List.map_append, List.map_cons, List.map_nil, Option.toList_none,
      List.append_nil, List.count_append, List.count_cons, List.count_nil]
    omega
  · simp only [Option.toList_some, List.map_cons, List.map_nil, List.count_append, List.count_cons,
      List.count_nil]
    omega

/-- The caller that holds the lock goes without a value or with one. -/
theorem Accounted.leave (h : c.Accounted) {since : ℕ} (hholder : c.holder = some (caller, since))
    {c' : Cache Source Value} (hcalls : c'.calls = c.calls) (hwaiters : c'.waiters = c.waiters)
    (hfree : c'.holder = none)
    (hleft : (c'.answers.map Answer.caller ++ c'.dropped).Perm
      (caller :: (c.answers.map Answer.caller ++ c.dropped))) : c'.Accounted where
  perm := by
    have hbefore := h.perm
    rw [List.perm_iff_count] at hbefore hleft ⊢
    intro k
    have hk := hbefore k
    have hk' := hleft k
    simp only [hholder, hfree, hcalls, hwaiters, Option.toList_some, Option.toList_none,
      List.map_cons, List.map_nil, List.append_nil, List.count_append, List.count_cons,
      List.count_nil] at hk hk' ⊢
    omega
  once := by
    rw [hcalls]
    exact h.once

/-- A call is answered at once, begins a fetch, or waits for the lock. -/
theorem Accounted.call (h : c.Accounted) (hnew : caller ∉ c.calls) :
    ((Event.call caller : Event Source).apply ttl fetch c).Accounted := by
  have hperm := List.perm_iff_count.mp h.perm
  have honce : (c.calls ++ [caller]).Nodup := by
    rw [List.nodup_append]
    refine ⟨h.once, List.pairwise_singleton _ _, fun a ha b hb => ?_⟩
    rw [List.mem_singleton.mp hb]
    rintro rfl
    exact hnew ha
  simp only [Event.apply]
  split
  · next hfree =>
    refine ⟨(enter_perm (c := { c with calls := c.calls ++ [caller] }) hfree.1 caller).trans ?_, ?_⟩
    · rw [enter_calls, List.perm_iff_count]
      intro k
      have hk := hperm k
      simp only [hfree.1, Option.toList_none, List.map_nil, List.append_nil, List.count_append,
        List.count_cons, List.count_nil] at hk ⊢
      omega
    · rw [enter_calls]
      exact honce
  · refine ⟨?_, honce⟩
    rw [List.perm_iff_count]
    intro k
    have hk := hperm k
    simp only [List.count_append, List.count_cons, List.count_nil] at hk ⊢
    omega

/-- The caller that has waited longest leaves the queue when it gets the lock. -/
theorem Accounted.acquire (h : c.Accounted) (hfree : c.holder = none) {rest : List ℕ}
    (hwaiters : c.waiters = caller :: rest) :
    ({ c with waiters := rest }.enter ttl caller).Accounted := by
  have hperm := List.perm_iff_count.mp h.perm
  refine ⟨(enter_perm (c := { c with waiters := rest }) hfree caller).trans ?_, ?_⟩
  · rw [enter_calls, List.perm_iff_count]
    intro k
    have hk := hperm k
    simp only [hfree, hwaiters, Option.toList_none, List.map_nil, List.append_nil,
      List.count_append, List.count_cons] at hk ⊢
    omega
  · rw [enter_calls]
    exact h.once

/-- A fetch that raises or is cancelled drops its caller. -/
theorem Accounted.drop (h : c.Accounted) {since : ℕ} (hholder : c.holder = some (caller, since)) :
    (c.drop caller).Accounted := by
  refine h.leave hholder rfl rfl rfl ?_
  simp only [Cache.drop]
  rw [← List.append_assoc]
  exact List.perm_append_singleton _ _

/-- A fetch that returns a value answers its caller. -/
theorem Accounted.fill (h : c.Accounted) {since : ℕ} (hholder : c.holder = some (caller, since))
    (source : Source) (value : Value) : (c.fill caller since source value).Accounted := by
  refine h.leave hholder rfl rfl rfl ?_
  rw [List.perm_iff_count]
  intro k
  simp only [Cache.fill, List.map_append, List.map_cons, List.map_nil, List.count_append,
    List.count_cons, List.count_nil]
  omega

/-- A caller that is cancelled while it waits goes without a value. -/
theorem Accounted.cancel (h : c.Accounted) (hwaits : caller ∈ c.waiters) :
    ((Event.cancel caller : Event Source).apply ttl fetch c).Accounted := by
  refine ⟨?_, h.once⟩
  have hperm := List.perm_iff_count.mp h.perm
  have hpos : 0 < c.waiters.count caller := List.count_pos_iff.mpr hwaits
  rw [List.perm_iff_count]
  intro k
  have hk := hperm k
  simp only [Event.apply, List.count_append, List.count_cons, List.count_nil,
    List.count_erase] at hk ⊢
  split_ifs with hcaller
  · have heq : caller = k := by simpa using hcaller
    subst heq
    omega
  · omega

/-- Before anybody has called, nothing has been answered and nothing fetched. -/
theorem Accounted.initial (value : Value) : ({ value := value } : Cache Source Value).Accounted :=
  ⟨.refl _, .nil⟩

end Cache

/-- Every event keeps the account of the callers. -/
theorem Event.apply_accounted (h : c.Accounted) {e : Event Source} (hen : e.Enabled c) :
    (e.apply ttl fetch c).Accounted := by
  cases e with
  | tick elapsed => exact ⟨h.perm, h.once⟩
  | call caller => exact h.call hen
  | acquire =>
    obtain ⟨hfree, hsome⟩ := hen
    simp only [Event.apply]
    cases hwaiters : c.waiters with
    | nil => exact absurd hwaiters hsome
    | cons caller rest => exact h.acquire hfree hwaiters
  | fetched source =>
    obtain ⟨⟨caller, since⟩, hholder⟩ := Option.isSome_iff_exists.mp hen
    simp only [Event.apply, hholder]
    cases fetch source with
    | none => exact h.drop hholder
    | some value => exact h.fill hholder source value
  | abort =>
    obtain ⟨⟨caller, since⟩, hholder⟩ := Option.isSome_iff_exists.mp hen
    simp only [Event.apply, hholder]
    exact h.drop hholder
  | cancel caller => exact h.cancel hen

/-- Every event keeps what holds of the cache. -/
theorem Event.apply_sound (h : c.Sound ttl fetch) (httl : 0 < ttl) (e : Event Source) :
    (e.apply ttl fetch c).Sound ttl fetch := by
  cases e with
  | tick elapsed => exact h.tick elapsed
  | call caller =>
    simp only [Event.apply]
    split
    · exact (h.callers (c.calls ++ [caller]) c.waiters c.dropped).enter caller
    · exact h.callers _ _ _
  | acquire =>
    simp only [Event.apply]
    split
    · exact h
    · next caller rest _ => exact (h.callers c.calls rest c.dropped).enter caller
  | fetched source =>
    simp only [Event.apply]
    split
    · next caller started value hholder hfetch => exact h.fill httl hholder hfetch
    · exact h.drop _
    · exact h
  | abort =>
    simp only [Event.apply]
    split
    · exact h.drop _
    · exact h
  | cancel caller => exact h.callers _ _ _

end

end TimedCache
