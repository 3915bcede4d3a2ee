import WTerm.Auth.Backoff
import WTerm.Auth.Tokens
import WTerm.Python.JsonBytes

/-!
# One login request

`AuthManager.login` from its header to its response. The body is decoded and parsed, and the
password is encoded for `argon2`; two `except` clauses turn exceptions into responses. While the
request waits for its body and its slot, other requests may change the limiter and the token
store: it is admitted in one state, and it settles in a later one.
-/

namespace WTerm

open Json

/-- What `argon2` says of a password. -/
inductive Verdict where
  | isMatch
  | mismatch
  | invalidHash
  deriving DecidableEq

/-- What `login` asks. -/
structure LoginEnv where
  /-- `password_hash is not None`. -/
  passwordHash : Bool
  /-- The levels of recursion left for `json.loads`. -/
  depth : ℕ
  /-- `str` of a value that is no string; none for a `RecursionError`. -/
  repr : Json → Option PyStr
  /-- `argon2` on the bytes of a password. -/
  verdict : List UInt8 → Verdict

/-- A login request. -/
structure LoginRequest (Key : Type) where
  /-- `peer(request)`. -/
  client : Key
  originAllowed : Bool
  /-- `headers.get("content-length")`. -/
  contentLength : Option PyStr
  body : List UInt8

/-- What `login` changes: `_login_fails` and the token store. -/
structure LoginState (Key TokenKey : Type) where
  table : LoginTable Key
  auth : Auth TokenKey

/-- `str.isdigit`, on the code points of a header: those of Latin-1. Superscripts are digits. -/
def PyStr.isDigit (s : PyStr) : Bool :=
  s ≠ [] && s.all fun c => isAsciiDigit c || c ∈ [0xB2, 0xB3, 0xB9]

/-- Whether `int` converts a text of digits. -/
def PyStr.isDecimal (s : PyStr) : Bool := s.all isAsciiDigit && s.length ≤ intMaxStrDigits

/-- The number that the header declares, if it is usable. `int` is called on every digit. -/
def declaredLength : Option PyStr → Except PyException (Option ℕ)
  | none => .ok none
  | some declared =>
    if declared.isDigit then
      if declared.isDecimal then .ok (some (ofDigits declared)) else .error .valueError
    else .ok none

/-- The answers before the body is read: to the declared length, and to the rest of the client's
block. -/
def earlyAnswer (declared : Option ℕ) (wait : Time) : Option LoginResponse :=
  match declared with
  | none => some .lengthRequired
  | some length =>
    if loginBodyLimit < length then some .tooLarge
    else if 0 < wait then some (.blocked (wait / second + 1))
    else none

/-- `"password"`. -/
def passwordKey : PyStr := py ['p', 'a', 's', 's', 'w', 'o', 'r', 'd']

/-- `body["password"]`. -/
def passwordItem : Json → Except PyException Json
  | .obj members =>
    match get members passwordKey with
    | some value => .ok value
    | none => .error .keyError
  | _ => .error .typeError

namespace LoginEnv

variable (env : LoginEnv)

/-- `str(value)`. -/
def str : Json → Except PyException PyStr
  | .str s => .ok s
  | value =>
    match env.repr value with
    | some s => .ok s
    | none => .error .recursionError

/-- `str(body["password"])`, with the body from `request.json`. -/
def readPassword (body : List UInt8) : Except PyException PyStr :=
  match loadsBytes env.depth body with
  | .error e => .error e
  | .ok value =>
    match passwordItem value with
    | .error e => .error e
    | .ok item => env.str item

/-- `PasswordHasher.verify`: the password is encoded first. -/
def verify (password : PyStr) : Except PyException Unit :=
  match password.encode with
  | .error e => .error e
  | .ok bytes =>
    match env.verdict bytes with
    | .isMatch => .ok ()
    | .mismatch => .error .verifyMismatchError
    | .invalidHash => .error .invalidHash

end LoginEnv

/-- The `except` clause around the body. -/
def bodyCatches : PyException → Bool
  | .jsonDecodeError | .keyError | .typeError | .unicodeDecodeError => true
  | _ => false

/-- The `except` clause around the verification. -/
def verifyCatches : PyException → Bool
  | .verifyMismatchError | .invalidHash => true
  | _ => false

variable {Key TokenKey : Type} [DecidableEq Key] [DecidableEq TokenKey]

namespace LoginState

/-- A failure of a client is recorded. -/
def fail (s : LoginState Key TokenKey) (key : Key) (now : Time) : LoginState Key TokenKey :=
  { s with table := recordLoginFailure s.table key now }

/-- The failures of a client are forgotten, and it gets a token. -/
def succeed (s : LoginState Key TokenKey) (key : Key) (token : TokenKey) (now : Time) :
    LoginState Key TokenKey :=
  { table := s.table.erase key, auth := s.auth.issueToken token now }

end LoginState

namespace LoginRequest

variable (env : LoginEnv) (req : LoginRequest Key)

/-- The request up to its body: a response, or nothing yet. -/
def admission (table : LoginTable Key) (now : Time) : Except PyException (Option LoginResponse) :=
  if !req.originAllowed then .ok (some .forbidden)
  else if !env.passwordHash then .ok (some .disabled)
  else
    match declaredLength req.contentLength with
    | .error e => .error e
    | .ok declared => .ok (earlyAnswer declared (loginBlockRemaining table req.client now))

/-- The request from its body on, in the state in which it settles. `token` is the key of the token
that `_issue_token` generates. -/
def settle (s : LoginState Key TokenKey) (token : TokenKey) (now : Time) :
    Except PyException LoginResponse × LoginState Key TokenKey :=
  match env.readPassword req.body with
  | .error e => (if bodyCatches e then .ok .badBody else .error e, s)
  | .ok password =>
    match env.verify password with
    | .ok () => (.ok .ok, s.succeed req.client token now)
    | .error e =>
      if verifyCatches e then
        ((recordResult s.table req.client now).map fun _ => .wrong, s.fail req.client now)
      else (.error e, s)

/-- `login`: what it answers or raises, and the state after it. -/
def login (table : LoginTable Key) (now : Time) (later : LoginState Key TokenKey)
    (token : TokenKey) (now' : Time) :
    Except PyException LoginResponse × LoginState Key TokenKey :=
  match req.admission env table now with
  | .error e => (.error e, later)
  | .ok (some response) => (.ok response, later)
  | .ok none => req.settle env later token now'

/-- The request has a usable header and its client is not blocked. -/
def Admitted (table : LoginTable Key) (now : Time) : Prop := req.admission env table now = .ok none

/-- A password was submitted: the body holds one. -/
def Submitted (password : PyStr) : Prop := env.readPassword req.body = .ok password

/-- The contract of `login`. -/
structure Contract (table : LoginTable Key) (now : Time) (later : LoginState Key TokenKey)
    (token : TokenKey) (now' : Time) : Prop where
  responds : ∃ response, (req.login env table now later token now').1 = .ok response
  /-- A verified password gets a token, and the failures of its client are forgotten. -/
  verified : ∀ password, req.Admitted env table now → req.Submitted env password →
    env.verify password = .ok () →
    (req.login env table now later token now').2 =
      ⟨later.table.erase req.client, later.auth.issueToken token now'⟩
  /-- Another password costs its client exactly one failure. -/
  refused : ∀ password, req.Admitted env table now → req.Submitted env password →
    env.verify password ≠ .ok () →
    (req.login env table now later token now').2 =
      ⟨(later.table.push req.client ⟨nextFails later.table req.client now',
        now' + backoff (nextFails later.table req.client now')⟩).evict loginBucketLimit, later.auth⟩
  /-- Everything else changes nothing. -/
  otherwise : ¬(req.Admitted env table now ∧ ∃ password, req.Submitted env password) →
    (req.login env table now later token now').2 = later

/-- The requests that no uncaught exception ends. -/
structure Fits (table : LoginTable Key) (now : Time) (later : LoginState Key TokenKey)
    (now' : Time) : Prop where
  /-- What looks like a number is one, of at most 4300 digits. -/
  header : ∀ declared, req.contentLength = some declared → declared.isDigit = true →
    declared.isDecimal = true
  /-- The body is not nested too deeply. -/
  body : req.Admitted env table now → env.readPassword req.body ≠ .error .recursionError
  /-- The password has no lone surrogate. -/
  password : ∀ password, req.Admitted env table now → req.Submitted env password →
    PyStr.hasSurrogate password = false
  /-- A wrong password is not the 1029th in a row. -/
  count : ∀ password, req.Admitted env table now → req.Submitted env password →
    env.verify password ≠ .ok () → nextFails later.table req.client now' ≤ loginCountMax

/-! ## Exceptions -/

section Contract

variable {env : LoginEnv} {req : LoginRequest Key} {table : LoginTable Key} {now now' : Time}
  {later : LoginState Key TokenKey} {token : TokenKey} {password : PyStr}

/-- `request.json`, the item and `str` raise what is caught, or exceed the recursion limit. -/
theorem readPassword_error {body : List UInt8} {e : PyException}
    (hbody : body.length ≤ loginBodyLimit) (h : env.readPassword body = .error e) :
    bodyCatches e = true ∨ e = .recursionError := by
  unfold LoginEnv.readPassword at h
  split at h
  · next e' he =>
    cases h
    rcases loadsBytes_error he with rfl | rfl | rfl | ⟨-, hlong⟩
    · exact Or.inl rfl
    · exact Or.inl rfl
    · exact Or.inr rfl
    · -- A body within the limit has no integer of that length.
      exact absurd hbody (Nat.not_le.mpr (Nat.lt_trans (by decide) hlong))
  · next value _ =>
    split at h
    · next e' he =>
      cases h
      unfold passwordItem at he
      split at he
      · split at he
        · cases he
        · cases he
          exact Or.inl rfl
      · cases he
        exact Or.inl rfl
    · unfold LoginEnv.str at h
      split at h
      · cases h
      · split at h
        · cases h
        · cases h
          exact Or.inr rfl

/-- A password without lone surrogates is verified or refused. -/
theorem verify_cases (env : LoginEnv) (h : PyStr.hasSurrogate password = false) :
    env.verify password = .ok () ∨
      ∃ e, env.verify password = .error e ∧ verifyCatches e = true := by
  obtain ⟨bytes, hbytes⟩ := PyStr.exists_encode h
  simp only [LoginEnv.verify, hbytes]
  cases env.verdict bytes with
  | isMatch => exact Or.inl rfl
  | mismatch => exact Or.inr ⟨_, rfl, rfl⟩
  | invalidHash => exact Or.inr ⟨_, rfl, rfl⟩

/-- One with a lone surrogate raises past the `except` clause. -/
theorem verify_of_hasSurrogate (env : LoginEnv) (h : PyStr.hasSurrogate password = true) :
    env.verify password = .error .unicodeEncodeError := by
  have hencode := (PyStr.encode_eq_error_iff password .unicodeEncodeError).mpr ⟨h, rfl⟩
  unfold LoginEnv.verify
  rw [hencode]

/-- `_record_login_failure` returns if and only if the count that it records stays below the
overflow. -/
theorem recordResult_eq_ok_iff {key : Key} :
    recordResult table key now = .ok () ↔ nextFails table key now ≤ loginCountMax := by
  unfold recordResult
  rw [loginDelay_eq]
  split_ifs with h
  · exact ⟨fun _ => h, fun _ => rfl⟩
  · constructor
    · intro hok
      cases hok
    · exact fun hle => absurd hle h

/-- A failure that is no overflow is a new entry, counted one further. -/
theorem recordLoginFailure_eq {key : Key} (h : nextFails table key now ≤ loginCountMax) :
    recordLoginFailure table key now = (table.push key
      ⟨nextFails table key now, now + backoff (nextFails table key now)⟩).evict
      loginBucketLimit := by
  unfold recordLoginFailure
  rw [loginDelay_eq, if_pos h]
  rfl

/-! ## The ways through `login` -/

/-- A request that is not admitted has its answer, or the header raises. -/
theorem admission_cases (table : LoginTable Key) (now : Time)
    (horigin : req.originAllowed = true) (hhash : env.passwordHash = true) :
    (∃ declared, req.contentLength = some declared ∧ declared.isDigit = true ∧
        declared.isDecimal = false ∧ req.admission env table now = .error .valueError) ∨
      ((∀ declared, req.contentLength = some declared → declared.isDigit = true →
        declared.isDecimal = true) ∧ ∃ answer, req.admission env table now = .ok answer) := by
  have hadmission : req.admission env table now =
      match declaredLength req.contentLength with
      | .error e => .error e
      | .ok declared => .ok (earlyAnswer declared (loginBlockRemaining table req.client now)) := by
    simp [admission, horigin, hhash]
  rw [hadmission]
  cases hlength : req.contentLength with
  | none => exact Or.inr ⟨by simp, _, rfl⟩
  | some declared =>
    by_cases hdigit : declared.isDigit = true
    · cases hdecimal : declared.isDecimal with
      | true => exact Or.inr ⟨by simp [hdecimal], by simp [declaredLength, hdigit, hdecimal]⟩
      | false =>
        exact Or.inl ⟨declared, rfl, hdigit, hdecimal, by simp [declaredLength, hdigit, hdecimal]⟩
    · exact Or.inr ⟨by simp [hdigit], by simp [declaredLength, hdigit]⟩

/-- A request that is admitted ends with what `settle` makes of the submitted password. -/
theorem login_of_admitted (h : req.Admitted env table now) (later : LoginState Key TokenKey)
    (token : TokenKey) (now' : Time) :
    req.login env table now later token now' = req.settle env later token now' := by
  unfold login
  rw [h]

/-- A request that is rejected before the password is verified leaves the state as it is. -/
theorem login_of_not_admitted (h : ¬req.Admitted env table now)
    (later : LoginState Key TokenKey) (token : TokenKey) (now' : Time) :
    (req.login env table now later token now').2 = later := by
  unfold login
  split
  · rfl
  · rfl
  · next hnone => exact absurd hnone h

/-- A request without a password changes nothing, and raises what the reading of it raises past
the `except` clause. -/
theorem settle_of_error {e : PyException} (h : env.readPassword req.body = .error e) :
    req.settle env later token now' =
      (if bodyCatches e then .ok .badBody else .error e, later) := by
  rw [settle, h]

/-- A password that is verified logs the client in with a new token and forgets its failures. -/
theorem settle_of_verified (hsubmitted : req.Submitted env password)
    (h : env.verify password = .ok ()) :
    req.settle env later token now' = (.ok .ok, later.succeed req.client token now') := by
  rw [settle, show env.readPassword req.body = .ok password from hsubmitted]
  simp only [h]

/-- A password that is refused counts as a failure of the client if `argon2` raises one of the
caught exceptions, and otherwise the exception escapes. -/
theorem settle_of_refused {e : PyException} (hsubmitted : req.Submitted env password)
    (h : env.verify password = .error e) :
    req.settle env later token now' =
      if verifyCatches e then
        ((recordResult later.table req.client now').map fun _ => .wrong,
          later.fail req.client now')
      else (.error e, later) := by
  rw [settle, show env.readPassword req.body = .ok password from hsubmitted]
  simp only [h]

/-- A request that fits its contract keeps it. -/
theorem Fits.contract (horigin : req.originAllowed = true) (hhash : env.passwordHash = true)
    (hbody : req.body.length ≤ loginBodyLimit) (h : req.Fits env table now later now') :
    req.Contract env table now later token now' := by
  by_cases hadmitted : req.Admitted env table now
  · have hlogin := login_of_admitted hadmitted later token now'
    cases hread : env.readPassword req.body with
    | error e =>
      have hnone : ¬∃ password, req.Submitted env password := by
        rintro ⟨password, hsubmitted⟩
        rw [Submitted, hread] at hsubmitted
        cases hsubmitted
      have hcatches : bodyCatches e = true := by
        rcases readPassword_error hbody hread with hcatches | rfl
        · exact hcatches
        · exact absurd hread (h.body hadmitted)
      rw [settle_of_error hread, if_pos hcatches] at hlogin
      refine ⟨⟨.badBody, by rw [hlogin]⟩, ?_, ?_, fun _ => by rw [hlogin]⟩
      · exact fun password _ hsubmitted => absurd ⟨password, hsubmitted⟩ hnone
      · exact fun password _ hsubmitted => absurd ⟨password, hsubmitted⟩ hnone
    | ok password =>
      have hsame : ∀ other, req.Submitted env other → other = password := by
        intro other hother
        rw [Submitted, hread] at hother
        exact (Except.ok.inj hother).symm
      have hplain := h.password password hadmitted hread
      rcases verify_cases env hplain with hok | ⟨e, herror, hcatches⟩
      · rw [settle_of_verified hread hok] at hlogin
        refine ⟨⟨.ok, by rw [hlogin]⟩, fun _ _ _ _ => by rw [hlogin]; rfl, ?_, ?_⟩
        · intro other _ hother hne
          exact absurd (hsame other hother ▸ hok) hne
        · exact fun hnone => absurd ⟨hadmitted, password, hread⟩ hnone
      · have hne : env.verify password ≠ .ok () := by simp [herror]
        have hcount := h.count password hadmitted hread hne
        rw [settle_of_refused hread herror, if_pos hcatches,
          recordResult_eq_ok_iff.mpr hcount] at hlogin
        refine ⟨⟨.wrong, by rw [hlogin]; rfl⟩, ?_, fun _ _ _ _ => ?_, ?_⟩
        · intro other _ hother hok
          exact absurd (hsame other hother ▸ hok) hne
        · rw [hlogin, LoginState.fail, recordLoginFailure_eq hcount]
        · exact fun hnone => absurd ⟨hadmitted, password, hread⟩ hnone
  · have hunchanged := login_of_not_admitted hadmitted later token now'
    refine ⟨?_, fun _ h => absurd h hadmitted, fun _ h => absurd h hadmitted, fun _ => hunchanged⟩
    rcases admission_cases table now horigin hhash with
      ⟨declared, hlength, hdigit, hdecimal, -⟩ | ⟨-, answer, hanswer⟩
    · simp [h.header declared hlength hdigit] at hdecimal
    · cases answer with
      | none => exact absurd hanswer hadmitted
      | some response => exact ⟨response, by rw [login, hanswer]⟩

/-- A request that gets a response without an exception fits. -/
theorem Contract.fits (horigin : req.originAllowed = true) (hhash : env.passwordHash = true)
    (h : req.Contract env table now later token now') : req.Fits env table now later now' := by
  obtain ⟨response, hresponse⟩ := h.responds
  have hplain : ∀ password, req.Admitted env table now → req.Submitted env password →
      PyStr.hasSurrogate password = false := by
    intro password hadmitted hsubmitted
    by_contra hsurrogate
    have hverify := verify_of_hasSurrogate env (by simpa using hsurrogate)
    rw [login_of_admitted hadmitted, settle_of_refused hsubmitted hverify] at hresponse
    cases hresponse
  refine ⟨?_, ?_, hplain, ?_⟩
  · rcases admission_cases table now horigin hhash with
      ⟨declared, -, -, -, hadmission⟩ | ⟨hheader, -⟩
    · rw [login, hadmission] at hresponse
      cases hresponse
    · exact hheader
  · intro hadmitted hread
    rw [login_of_admitted hadmitted, settle_of_error hread] at hresponse
    cases hresponse
  · intro password hadmitted hsubmitted hne
    rcases verify_cases env (hplain password hadmitted hsubmitted) with
      hok | ⟨e, herror, hcatches⟩
    · exact absurd hok hne
    · rw [login_of_admitted hadmitted, settle_of_refused hsubmitted herror,
        if_pos hcatches] at hresponse
      refine recordResult_eq_ok_iff.mp ?_
      cases hrecord : recordResult later.table req.client now' with
      | ok u => rfl
      | error e =>
        rw [hrecord] at hresponse
        cases hresponse

/-- `login` keeps its contract if and only if the header is a number that `int` converts when it
looks like one, the body is not nested too deeply, the password has no lone surrogate and is not
the 1029th wrong one in a row. -/
theorem login_contract_iff (env : LoginEnv) (req : LoginRequest Key) (table : LoginTable Key)
    (now : Time) (later : LoginState Key TokenKey) (token : TokenKey) (now' : Time)
    (horigin : req.originAllowed = true) (hhash : env.passwordHash = true)
    (hbody : req.body.length ≤ loginBodyLimit) :
    req.Contract env table now later token now' ↔ req.Fits env table now later now' :=
  ⟨Contract.fits horigin hhash, Fits.contract horigin hhash hbody⟩

end Contract

/-- An `argon2` that accepts one password. -/
def demoEnv : LoginEnv where
  passwordHash := true
  depth := 1000
  repr := fun _ => none
  verdict := fun bytes => if bytes = [0x61] then .isMatch else .mismatch

/-- A request with a body in ASCII. -/
def demoRequest (contentLength body : PyStr) : LoginRequest ℕ where
  client := 1
  originAllowed := true
  contentLength := some contentLength
  body := body.map Nat.toUInt8

/-- An empty limiter and an empty token store. -/
def demoState : LoginState ℕ ℕ where
  table := .empty
  auth := {}

/-- A wrong password. -/
def wrongBody : PyStr :=
  py ['{', '"', 'p', 'a', 's', 's', 'w', 'o', 'r', 'd', '"', ':', '"', 'b', '"', '}']

/-- The request of a client with a wrong password keeps the contract if and only if it fits. -/
theorem login_contract_iff_wrong :
    (demoRequest (py ['1', '6']) wrongBody).Contract demoEnv .empty 0 demoState 7 0 ↔
      (demoRequest (py ['1', '6']) wrongBody).Fits demoEnv .empty 0 demoState 0 :=
  login_contract_iff _ _ _ _ _ _ _ rfl rfl (by decide)

/-- A password with an escaped lone surrogate. -/
def surrogateBody : PyStr :=
  py ['{', '"', 'p', 'a', 's', 's', 'w', 'o', 'r', 'd', '"', ':', '"', '\\', 'u', 'd', '8', '0',
    '0', '"', '}']

/-- `json.loads` reads the escape of a lone surrogate as the surrogate itself. -/
theorem readPassword_surrogateBody :
    demoEnv.readPassword (surrogateBody.map Nat.toUInt8) = .ok [0xD800] := by
  have htext : decodeAs (detectEncoding (surrogateBody.map Nat.toUInt8)).1
      (detectEncoding (surrogateBody.map Nat.toUInt8)).2 = some surrogateBody := by decide
  have hloads : loadsBytes 1000 (surrogateBody.map Nat.toUInt8) =
      .ok (.obj [(passwordKey, .str [0xD800])]) := by
    rw [loadsBytes, htext]
    rfl
  rw [LoginEnv.readPassword, show demoEnv.depth = 1000 from rfl, hloads]
  rfl

/-- A password with a lone surrogate gets no response: the exception that it raises is caught
nowhere. -/
theorem login_surrogate_raises :
    ¬(demoRequest (py ['2', '1']) surrogateBody).Contract demoEnv .empty 0 demoState 7 0 := by
  intro hcontract
  have hadmitted : (demoRequest (py ['2', '1']) surrogateBody).Admitted demoEnv .empty 0 := rfl
  have hplain := (Contract.fits rfl rfl hcontract).password [0xD800] hadmitted
    readPassword_surrogateBody
  exact absurd hplain (by decide)

end LoginRequest

/-! ## The requests of all clients -/

namespace Logins

variable {l : Logins Key} {r : ℕ} {key : Key}

/-- The step of a request up to its body is its admission. -/
theorem login_eq_admission (l : Logins Key) (r : ℕ) (env : LoginEnv) (req : LoginRequest Key)
    {declared : Option ℕ} (h : declaredLength req.contentLength = .ok declared) :
    l.login env.passwordHash r req.client req.originAllowed declared =
      l.setRequest r
        (match req.admission env l.table l.now with
          | .ok (some response) => .finished (some response)
          | .ok none => .reading req.client
          | .error _ => .finished none) := by
  unfold Logins.login LoginRequest.admission
  congr 1
  rw [h]
  cases req.originAllowed with
  | false => rfl
  | true =>
    cases env.passwordHash with
    | false => rfl
    | true =>
      cases declared with
      | none => rfl
      | some length =>
        simp only [earlyAnswer, Bool.not_true, Bool.false_eq_true, if_false]
        split_ifs <;> rfl

/-- The end of a verification settles its request. -/
theorem verified_table (hverifying : l.requests r = .verifying key) (isMatch : Bool)
    (auth : Auth TokenKey) (token : TokenKey) :
    (l.verified r isMatch).table =
      if isMatch then (LoginState.succeed ⟨l.table, auth⟩ key token l.now).table
      else (LoginState.fail ⟨l.table, auth⟩ key l.now).table := by
  obtain ⟨htable, hnow⟩ := l.releaseSlot_table
  unfold Logins.verified
  rw [hverifying]
  cases isMatch with
  | true => simp [setRequest, LoginState.succeed, htable]
  | false => simp [setRequest, LoginState.fail, htable, hnow]

end Logins

end WTerm
