import WTerm.Python.Text

/-!
# `urllib.parse.urlsplit`

The parts of a URL. Two checks of the netloc depend on the version of Python and on Unicode
tables: the one of a bracketed host and the one of characters that normalise to a delimiter.
They are a parameter here.
-/

namespace WTerm

namespace PyStr

/-- `str.lower`, on the code points of a header: those of Latin-1. -/
def lower (s : PyStr) : PyStr :=
  s.map fun c =>
    if (65 ≤ c ∧ c ≤ 90) ∨ (0xC0 ≤ c ∧ c ≤ 0xDE ∧ c ≠ 0xD7) then c + 32 else c

/-- `str.rstrip("/")`. -/
def rstripSlash (s : PyStr) : PyStr := (s.reverse.dropWhile (· = 47)).reverse

/-- An ASCII letter. -/
def isAsciiAlpha (c : ℕ) : Bool := (65 ≤ c && c ≤ 90) || (97 ≤ c && c ≤ 122)

/-- An ASCII digit. -/
def isAsciiDigit (c : ℕ) : Bool := 48 ≤ c && c ≤ 57

/-- `str.split(c, 1)`: what comes before a character and what comes after it. -/
def splitOnce (c : ℕ) (s : PyStr) : PyStr × Option PyStr :=
  match s.dropWhile (· ≠ c) with
  | [] => (s, none)
  | _ :: rest => (s.takeWhile (· ≠ c), some rest)

end PyStr

open PyStr

/-- What `urlsplit` returns. -/
structure SplitResult where
  scheme : PyStr
  netloc : PyStr
  path : PyStr
  query : PyStr
  fragment : PyStr
  deriving DecidableEq

/-- A character of a scheme. -/
def isSchemeChar (c : ℕ) : Bool :=
  isAsciiAlpha c || isAsciiDigit c || c = 43 || c = 45 || c = 46

/-- The scheme in front of a URL and what follows its colon. -/
def splitScheme (url : PyStr) : PyStr × PyStr :=
  match splitOnce 58 url with
  | (scheme, some rest) =>
    if scheme.head?.any isAsciiAlpha && scheme.all isSchemeChar then (scheme.lower, rest)
    else ([], url)
  | (_, none) => ([], url)

/-- A character that ends a netloc. -/
def endsNetloc (c : ℕ) : Bool := c = 47 || c = 63 || c = 35

/-- The netloc after two slashes and what follows it. -/
def splitNetloc (url : PyStr) : PyStr × PyStr :=
  if url.take 2 = [47, 47] then
    ((url.drop 2).takeWhile fun c => !endsNetloc c, (url.drop 2).dropWhile fun c => !endsNetloc c)
  else ([], url)

/-- `urlsplit`. `accepts` is the check of a netloc. -/
def urlsplit (accepts : PyStr → Bool) (url : PyStr) : Except PyException SplitResult :=
  -- Control characters and blanks in front, and tabs and newlines everywhere, are dropped.
  let url := (url.dropWhile (· ≤ 32)).filter fun c => c ≠ 9 && c ≠ 10 && c ≠ 13
  let (scheme, url) := splitScheme url
  let (netloc, url) := splitNetloc url
  let (url, fragment) := splitOnce 35 url
  let (path, query) := splitOnce 63 url
  if decide (91 ∈ netloc) ≠ decide (93 ∈ netloc) ∨ netloc ≠ [] ∧ accepts netloc = false then
    .error .valueError
  else .ok ⟨scheme, netloc, path, query.getD [], fragment.getD []⟩

/-- An origin with a port. -/
example : urlsplit (fun _ => true)
    (py ['H', 't', 't', 'p', 's', ':', '/', '/', 'a', '.', 'b', ':', '8', '/', 'c', '#', 'd']) =
    .ok ⟨py ['h', 't', 't', 'p', 's'], py ['a', '.', 'b', ':', '8'], py ['/', 'c'], [],
      py ['d']⟩ := by
  decide

end WTerm
