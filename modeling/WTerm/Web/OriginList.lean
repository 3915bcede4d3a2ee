import Mathlib.Data.Nat.Digits.Defs
import WTerm.Config.Accepted
import WTerm.Web.Origin
import WTerm.Web.Path

/-!
# The list of allowed origins

`_allowed_origins` normalises each configured origin at startup, and `origin_allowed` the one of
a request. An origin is a scheme, a host and an effective port. A browser writes the port only
when it is not the default of the scheme. The list keeps it as it was written.
-/

namespace WTerm

open PyStr

/-- The host of an origin: a name, or an address between brackets. -/
inductive Host where
  | name (text : PyStr)
  | literal (text : PyStr)
  deriving DecidableEq

/-- What an origin denotes. The port is the effective one. -/
structure Origin where
  scheme : PyStr
  host : Host
  port : Option ℕ
  deriving DecidableEq

/-- The port that a scheme implies. -/
def defaultPort (scheme : PyStr) : Option ℕ :=
  if scheme = py "http".toList then some 80
  else if scheme = py "https".toList then some 443
  else none

/-- A number in decimal, without leading zeros. -/
def decimal (n : ℕ) : PyStr :=
  if n = 0 then [48] else ((Nat.digits 10 n).map (48 + ·)).reverse

/-- A host as it stands in a URL. -/
def Host.text : Host → PyStr
  | .name text => text
  | .literal text => 91 :: (text ++ [93])

namespace Origin

/-- The digits of a port that is not the default of the scheme. -/
def portDigits (o : Origin) : Option PyStr :=
  if o.port = defaultPort o.scheme then none else o.port.map decimal

/-- The port with its colon, as browsers write it. -/
def portText (o : Origin) : PyStr :=
  match o.portDigits with
  | none => []
  | some digits => 58 :: digits

/-- Host and port, as browsers write them. -/
def authority (o : Origin) : PyStr := o.host.text ++ o.portText

/-- The header that browsers send. -/
def serialize (o : Origin) : PyStr := o.scheme ++ py "://".toList ++ o.authority

end Origin

/-- A code point of a scheme in lower case. -/
def isLowerSchemeChar (c : ℕ) : Bool := isSchemeChar c && !(65 ≤ c && c ≤ 90)

/-- A code point of a domain in a browser: ASCII without capitals, controls and the code points
that are forbidden in a domain. -/
def isDomainChar (c : ℕ) : Bool :=
  33 ≤ c && c ≤ 126 && !(65 ≤ c && c ≤ 90) &&
    c ∉ [35, 37, 47, 58, 60, 62, 63, 64, 91, 92, 93, 94, 124]

/-- A code point of an IPv6 address in a browser. -/
def isAddressChar (c : ℕ) : Bool := isAsciiDigit c || (97 ≤ c && c ≤ 102) || c = 58

/-- A host that a browser writes. -/
def Host.Written : Host → Prop
  | .name text => text ≠ [] ∧ ∀ c ∈ text, isDomainChar c = true
  | .literal text => text ≠ [] ∧ ∀ c ∈ text, isAddressChar c = true

instance : (host : Host) → Decidable host.Written
  | .name _ | .literal _ => inferInstanceAs (Decidable (_ ∧ _))

/-- The origin of a page, for which a browser sends the header. -/
structure BrowserOrigin extends Origin where
  scheme_lower : ∀ c ∈ scheme, isLowerSchemeChar c = true
  host_written : host.Written
  /-- A scheme with a default has a port. -/
  port_known : port = none → defaultPort scheme = none
  port_le : ∀ p ∈ port, p ≤ 65535

/-- What a split URL denotes. -/
def SplitResult.origin (parts : SplitResult) : Origin where
  scheme := parts.scheme
  host :=
    if 91 ∈ parts.userInfo.2 then .literal parts.hostInfo.1.lower
    else .name parts.hostInfo.1.lower
  port := (parts.hostInfo.2.map Json.ofDigits).or (defaultPort parts.scheme)

/-- The parts of a configured origin. -/
def entryParts (env : LoadEnv) : Json → Option SplitResult
  | .str value => (urlsplit env.acceptsNetloc value.strip).toOption
  | _ => none

/-- A configured entry denotes an origin. -/
def Denotes (env : LoadEnv) (entry : Json) (o : Origin) : Prop :=
  ∃ parts ∈ entryParts env entry, parts.origin = o

/-- A configured entry has its host and port as a browser writes them, up to case. -/
def BrowserSpelling (env : LoadEnv) (entry : Json) : Prop :=
  ∃ parts ∈ entryParts env entry, parts.netloc.lower = parts.origin.authority

/-! ## Text -/

/-- `str.lower` of one code point. -/
def lowerChar (c : ℕ) : ℕ :=
  if (65 ≤ c ∧ c ≤ 90) ∨ (0xC0 ≤ c ∧ c ≤ 0xDE ∧ c ≠ 0xD7) then c + 32 else c

/-- `str.lower` goes code point by code point. -/
theorem lower_eq (s : PyStr) : s.lower = s.map lowerChar := rfl

/-- A text of code points that have no capital is in lower case. -/
theorem lower_of_fixed {s : PyStr} (h : ∀ c ∈ s, lowerChar c = c) : s.lower = s := by
  rw [lower_eq]
  exact (List.map_congr_left h).trans (List.map_id s)

/-- A text without a character is not split at it. -/
theorem splitOnce_of_notMem {c : ℕ} {s : PyStr} (h : c ∉ s) : splitOnce c s = (s, none) := by
  have hall : ∀ d ∈ s, decide (d ≠ c) = true := by
    intro d hd
    simpa using fun heq : d = c => h (heq ▸ hd)
  have hdrop : (s ++ []).dropWhile (fun d => d ≠ c) = [] := List.dropWhile_append_of_pos hall
  rw [List.append_nil] at hdrop
  simp only [splitOnce]
  rw [hdrop]

/-- A text is split at the first place of the character. -/
theorem splitOnce_append {c : ℕ} {s : PyStr} (h : c ∉ s) (t : PyStr) :
    splitOnce c (s ++ c :: t) = (s, some t) := by
  have hall : ∀ d ∈ s, decide (d ≠ c) = true := by
    intro d hd
    simpa using fun heq : d = c => h (heq ▸ hd)
  simp only [splitOnce]
  rw [List.dropWhile_append_of_pos hall, List.takeWhile_append_of_pos hall]
  simp

/-- Lower case and a split at a character without case can be exchanged. -/
theorem splitOnce_lower {c : ℕ} (hc : ∀ d, lowerChar d = c ↔ d = c) (s : PyStr) :
    splitOnce c s.lower = ((splitOnce c s).1.lower, (splitOnce c s).2.map PyStr.lower) := by
  have hmem : ∀ t : PyStr, c ∈ t.lower ↔ c ∈ t := by
    intro t
    simp [lower_eq, hc]
  by_cases h : c ∈ s
  · obtain ⟨before, after, rfl, hbefore⟩ := List.eq_append_cons_of_mem h
    have hlower : PyStr.lower (before ++ c :: after) =
        PyStr.lower before ++ c :: PyStr.lower after := by
      simp [lower_eq, (hc c).mpr rfl]
    rw [hlower, splitOnce_append ((hmem before).not.mpr hbefore), splitOnce_append hbefore]
    rfl
  · rw [splitOnce_of_notMem ((hmem s).not.mpr h), splitOnce_of_notMem h]
    rfl

/-- The delimiters of a netloc have no case. -/
theorem lowerChar_eq_iff {c : ℕ} (hc : c ≤ 64 ∨ c = 91 ∨ c = 93) (d : ℕ) :
    lowerChar d = c ↔ d = c := by
  unfold lowerChar
  split_ifs <;> omega

/-- Nothing is stripped from a text that ends in one without slashes. -/
theorem rstripSlash_append {t : PyStr} (hne : t ≠ []) (hslash : 47 ∉ t) (s : PyStr) :
    (s ++ t).rstripSlash = s ++ t := by
  obtain ⟨last, before, hrev⟩ : ∃ last before, t.reverse = last :: before :=
    List.exists_cons_of_ne_nil (by simpa using hne)
  have hlast : last ≠ 47 := by
    rintro rfl
    exact hslash (List.mem_reverse.mp (hrev ▸ List.mem_cons_self))
  have hdrop : (s ++ t).reverse.dropWhile (· = 47) = (s ++ t).reverse := by
    rw [List.reverse_append, hrev]
    simp [hlast]
  rw [rstripSlash, hdrop, List.reverse_reverse]

/-! ## Ports -/

/-- The decimal digits of a number denote it. -/
theorem ofDigits_decimal (n : ℕ) : Json.ofDigits (decimal n) = n := by
  unfold decimal
  split_ifs with h
  · subst h
    rfl
  · rw [Json.ofDigits, List.foldl_reverse, List.foldr_map]
    calc
      _ = (Nat.digits 10 n).foldr (fun d n => d + 10 * n) 0 := by
        congr 1
        funext d n
        omega
      _ = n := by
        have hdigits := Nat.ofDigits_digits 10 n
        rw [Nat.ofDigits_eq_foldr] at hdigits
        simpa using hdigits

/-- The decimal form of a number consists of ASCII digits. -/
theorem decimal_digit {n c : ℕ} (hc : c ∈ decimal n) : isAsciiDigit c = true := by
  unfold decimal at hc
  split_ifs at hc
  · rw [List.mem_singleton.mp hc]
    rfl
  · obtain ⟨d, hd, rfl⟩ := List.mem_map.mp (List.mem_reverse.mp hc)
    have hlt := Nat.digits_lt_base (by decide) hd
    simp only [isAsciiDigit, Bool.and_eq_true, decide_eq_true_eq]
    omega

/-- The decimal form of a number has at least one digit. -/
theorem decimal_ne_nil (n : ℕ) : decimal n ≠ [] := by
  unfold decimal
  split_ifs with h
  · simp
  · simpa [Nat.digits_ne_nil_iff_ne_zero] using h

/-! ## What browsers write -/

namespace Origin

variable (o : Origin)

/-- A port starts with a colon, after a text without colons. -/
theorem splitOnce_portText {text : PyStr} (h : 58 ∉ text) :
    splitOnce 58 (text ++ o.portText) = (text, o.portDigits) := by
  unfold portText
  cases o.portDigits with
  | none => rw [List.append_nil, splitOnce_of_notMem h]
  | some digits => exact splitOnce_append h digits

/-- The digits of a port are those of a number. -/
theorem portDigits_eq_some {digits : PyStr} (h : o.portDigits = some digits) :
    ∃ p, o.port = some p ∧ digits = decimal p := by
  unfold portDigits at h
  split_ifs at h
  obtain ⟨p, hp, rfl⟩ := Option.map_eq_some_iff.mp h
  exact ⟨p, hp, rfl⟩

/-- A port consists of digits and a colon. -/
theorem portText_char {c : ℕ} (hc : c ∈ o.portText) : c = 58 ∨ isAsciiDigit c = true := by
  unfold portText at hc
  cases hdigits : o.portDigits with
  | none => simp [hdigits] at hc
  | some digits =>
    obtain ⟨p, -, rfl⟩ := o.portDigits_eq_some hdigits
    rw [hdigits] at hc
    rcases List.mem_cons.mp hc with rfl | hmem
    · exact Or.inl rfl
    · exact Or.inr (decimal_digit hmem)

end Origin

namespace BrowserOrigin

variable (o : BrowserOrigin)

/-- No code point of an authority is a slash, an at sign or a capital. -/
theorem authority_char {c : ℕ} (hc : c ∈ o.authority) : c ≠ 47 ∧ c ≠ 64 ∧ lowerChar c = c := by
  have hplain : ∀ d, d ≤ 126 → ¬(65 ≤ d ∧ d ≤ 90) → lowerChar d = d := by
    intro d hle hcapital
    unfold lowerChar
    split_ifs <;> omega
  have hport : c ∈ o.portText → c ≠ 47 ∧ c ≠ 64 ∧ lowerChar c = c := by
    intro hmem
    have hchar := o.portText_char hmem
    simp only [isAsciiDigit, Bool.and_eq_true, decide_eq_true_eq] at hchar
    exact ⟨by omega, by omega, hplain c (by omega) (by omega)⟩
  have hwritten := o.host_written
  rcases List.mem_append.mp hc with hhost | hmem
  · cases hh : o.host with
    | name text =>
      rw [hh] at hhost hwritten
      have hchar := hwritten.2 c hhost
      simp only [isDomainChar, Bool.and_eq_true, Bool.not_eq_true', decide_eq_true_eq,
        Bool.and_eq_false_iff, decide_eq_false_iff_not, List.mem_cons, List.not_mem_nil,
        or_false, not_or] at hchar
      exact ⟨by omega, by omega, hplain c (by omega) (by omega)⟩
    | literal text =>
      rw [hh] at hhost hwritten
      have hchar : c = 91 ∨ c = 93 ∨ isAddressChar c = true := by
        rcases List.mem_cons.mp hhost with rfl | hrest
        · exact Or.inl rfl
        · rcases List.mem_append.mp hrest with htext | hclose
          · exact Or.inr (Or.inr (hwritten.2 c htext))
          · exact Or.inr (Or.inl (List.mem_singleton.mp hclose))
      simp only [isAddressChar, isAsciiDigit, Bool.or_eq_true, Bool.and_eq_true,
        decide_eq_true_eq] at hchar
      exact ⟨by omega, by omega, hplain c (by omega) (by omega)⟩
  · exact hport hmem

/-- The authority of an origin, its host and port, is not empty. -/
theorem authority_ne_nil : o.authority ≠ [] := by
  have hwritten := o.host_written
  unfold Origin.authority
  cases hh : o.host with
  | name text =>
    rw [hh] at hwritten
    simp [Host.text, hwritten.1]
  | literal text => simp [Host.text]

/-- `origin_allowed` takes the header of a browser as it is. -/
theorem serialize_normal : o.serialize.rstripSlash.lower = o.serialize := by
  have hslash : 47 ∉ o.authority := fun hmem => (o.authority_char hmem).1 rfl
  have hstrip : o.serialize.rstripSlash = o.serialize :=
    rstripSlash_append o.authority_ne_nil hslash _
  have hseparator : ∀ c ∈ py "://".toList, lowerChar c = c := by decide
  rw [hstrip]
  refine lower_of_fixed fun c hc => ?_
  rcases List.mem_append.mp hc with hfront | hauthority
  · rcases List.mem_append.mp hfront with hscheme | hslashes
    · have hchar := o.scheme_lower c hscheme
      simp only [isLowerSchemeChar, isSchemeChar, isAsciiAlpha, isAsciiDigit, Bool.and_eq_true,
        Bool.or_eq_true, Bool.not_eq_true', decide_eq_true_eq, Bool.and_eq_false_iff,
        decide_eq_false_iff_not] at hchar
      unfold lowerChar
      split_ifs <;> omega
    · exact hseparator c hslashes
  · exact (o.authority_char hauthority).2.2

/-- An authority that starts with a bracket is an address and its port. -/
theorem bracket_mem_iff : 91 ∈ o.authority ↔ ∃ text, o.host = .literal text := by
  have hport : 91 ∉ o.portText := by
    intro hmem
    have hchar := o.portText_char hmem
    simp [isAsciiDigit] at hchar
  have hwritten := o.host_written
  unfold Origin.authority
  cases hh : o.host with
  | name text =>
    rw [hh] at hwritten
    have htext : 91 ∉ text := fun hmem => by simpa [isDomainChar] using hwritten.2 91 hmem
    simp [Host.text, htext, hport]
  | literal text => simp [Host.text]

end BrowserOrigin

/-! ## What an entry denotes -/

section Parts

variable {parts : SplitResult} {o : BrowserOrigin}

/-- Without user information the netloc is host and port. -/
theorem SplitResult.userInfo_snd (h : parts.userInfo.1 = none) :
    parts.userInfo.2 = parts.netloc := by
  unfold SplitResult.userInfo at h ⊢
  split
  · rfl
  · next hdrop =>
    rw [hdrop] at h
    cases h

/-- Host and port of a netloc that is an authority up to case. -/
theorem hostInfo_of_authority (hinfo : parts.userInfo.1 = none)
    (hnetloc : parts.netloc.lower = o.authority) :
    parts.hostInfo.2.map PyStr.lower = o.portDigits ∧
      (o.host = .name parts.hostInfo.1.lower ∨ o.host = .literal parts.hostInfo.1.lower) := by
  have hfilter : ∀ port : Option PyStr, port.map PyStr.lower = o.portDigits →
      (port.filter fun port => port ≠ []).map PyStr.lower = o.portDigits := by
    intro port hport
    cases port with
    | none => exact hport
    | some digits =>
      obtain ⟨p, -, hp⟩ := o.portDigits_eq_some hport.symm
      have hne : digits ≠ [] := by
        rintro rfl
        exact decimal_ne_nil p hp.symm
      simpa [Option.filter_some, hne] using hport
  have hcase : ∀ c, c ≤ 64 ∨ c = 91 ∨ c = 93 → ∀ t : PyStr,
      splitOnce c t.lower = ((splitOnce c t).1.lower, (splitOnce c t).2.map PyStr.lower) :=
    fun c hc => splitOnce_lower (lowerChar_eq_iff hc)
  have hopen := hcase 91 (by decide) parts.netloc
  have hwritten := o.host_written
  simp only [SplitResult.hostInfo, SplitResult.userInfo_snd hinfo]
  cases hh : o.host with
  | name text =>
    rw [hh] at hwritten
    have hname : ∀ c, isDomainChar c = false → c ∉ text := by
      intro c hc hmem
      simp [hwritten.2 c hmem] at hc
    have hnone : 91 ∉ o.authority := by
      simp [o.bracket_mem_iff, hh]
    rw [hnetloc, splitOnce_of_notMem hnone] at hopen
    have hsplit : (splitOnce 91 parts.netloc).2 = none := by
      simpa using (congrArg Prod.snd hopen).symm
    have hcolon := hcase 58 (by decide) parts.netloc
    have hauthority : o.authority = text ++ o.portText := by simp [Origin.authority, hh, Host.text]
    rw [hnetloc, hauthority, o.splitOnce_portText (hname 58 (by decide))] at hcolon
    obtain ⟨hhost, hport⟩ := Prod.mk.inj hcolon
    have hmatch : splitOnce 91 parts.netloc = ((splitOnce 91 parts.netloc).1, none) :=
      Prod.ext rfl hsplit
    rw [hmatch]
    exact ⟨hfilter _ hport.symm, Or.inl (by rw [hhost])⟩
  | literal text =>
    rw [hh] at hwritten
    have haddress : ∀ c, isAddressChar c = false → c ∉ text := by
      intro c hc hmem
      simp [hwritten.2 c hmem] at hc
    have hauthority : o.authority = [] ++ 91 :: (text ++ 93 :: o.portText) := by
      simp [Origin.authority, hh, Host.text]
    rw [hnetloc, hauthority, splitOnce_append (by simp)] at hopen
    obtain ⟨bracketed, hbracketed, hlower⟩ :=
      Option.map_eq_some_iff.mp (congrArg Prod.snd hopen).symm
    have hclose := hcase 93 (by decide) bracketed
    rw [hlower, splitOnce_append (haddress 93 (by decide))] at hclose
    obtain ⟨hhost, hrest⟩ := Prod.mk.inj hclose
    obtain ⟨rest, hrest, hlower'⟩ := Option.map_eq_some_iff.mp hrest.symm
    have hcolon := hcase 58 (by decide) rest
    rw [hlower', ← List.nil_append o.portText, o.splitOnce_portText (by simp)] at hcolon
    have hmatch : splitOnce 91 parts.netloc = ((splitOnce 91 parts.netloc).1, some bracketed) :=
      Prod.ext rfl hbracketed
    rw [hmatch]
    simp only [hrest, Option.getD_some]
    exact ⟨hfilter _ (congrArg Prod.snd hcolon).symm, Or.inr (by rw [hhost])⟩

/-- An accepted netloc that is an authority up to case denotes its origin. -/
theorem origin_of_authority (hscheme : parts.scheme = o.scheme) (hinfo : parts.userInfo.1 = none)
    (hvalid : parts.portValid = true) (hnetloc : parts.netloc.lower = o.authority) :
    parts.origin = o.toOrigin := by
  obtain ⟨hdigits, hhost⟩ := hostInfo_of_authority hinfo hnetloc
  have hbracket : 91 ∈ parts.userInfo.2 ↔ ∃ text, o.host = .literal text := by
    rw [SplitResult.userInfo_snd hinfo, ← o.bracket_mem_iff, ← hnetloc, lower_eq]
    simp [lowerChar_eq_iff (c := 91) (by decide)]
  have hport : parts.hostInfo.2 = o.portDigits := by
    unfold SplitResult.portValid at hvalid
    cases hp : parts.hostInfo.2 with
    | none => rw [hp] at hdigits; exact hdigits
    | some port =>
      rw [hp] at hdigits hvalid
      simp only [Bool.and_eq_true, List.all_eq_true] at hvalid
      have hlower : port.lower = port := by
        refine lower_of_fixed fun c hc => ?_
        have hdigit := hvalid.1.1 c hc
        simp only [isAsciiDigit, Bool.and_eq_true, decide_eq_true_eq] at hdigit
        unfold lowerChar
        split_ifs <;> omega
      rw [← hdigits, Option.map_some, hlower]
  have heffective : (o.portDigits.map Json.ofDigits).or (defaultPort o.scheme) = o.port := by
    unfold Origin.portDigits
    split_ifs with hdefault
    · simp [hdefault]
    · cases hp : o.port with
      | none => exact absurd (hp.trans (o.port_known hp).symm) hdefault
      | some p => simp [ofDigits_decimal]
  have hsame : parts.origin.host = o.host := by
    unfold SplitResult.origin
    rcases hhost with hname | hliteral
    · have hno : ¬91 ∈ parts.userInfo.2 := by simp [hbracket, hname]
      simp only [if_neg hno, hname]
    · simp only [if_pos (hbracket.mpr ⟨_, hliteral⟩), hliteral]
  have hpart : parts.origin.port = o.port := by
    rw [← heffective, ← hport, ← hscheme]
    rfl
  calc
    parts.origin = ⟨parts.scheme, parts.origin.host, parts.origin.port⟩ := rfl
    _ = ⟨o.scheme, o.host, o.port⟩ := by rw [hscheme, hsame, hpart]
    _ = o.toOrigin := rfl

end Parts

/-! ## The list -/

variable {env : LoadEnv}

/-- What an accepted entry is made of. -/
theorem normalOrigin_eq_ok {entry : Json} {text : PyStr} (h : normalOrigin env entry = .ok text) :
    ∃ parts ∈ entryParts env entry, parts.portValid = true ∧ parts.userInfo.1 = none ∧
      (parts.scheme = py "http".toList ∨ parts.scheme = py "https".toList) ∧
      text = parts.scheme ++ py "://".toList ++ parts.netloc.lower := by
  unfold normalOrigin at h
  split at h
  · next value =>
    split_ifs at h
    split at h
    · cases h
    · next parts hparts =>
      split_ifs at h with hvalid hbad
      obtain ⟨hscheme, hrest⟩ := not_or.mp hbad
      obtain ⟨-, hrest⟩ := not_or.mp hrest
      obtain ⟨huser, -⟩ := not_or.mp hrest
      refine ⟨parts, by simp [entryParts, hparts, Except.toOption], by simpa using hvalid,
        by simpa using huser, ?_, (Except.ok.inj h).symm⟩
      by_cases hhttp : parts.scheme = py "http".toList
      · exact Or.inl hhttp
      · exact Or.inr (not_not.mp fun hhttps => hscheme ⟨hhttp, hhttps⟩)
  · cases h

/-- The normal form of an accepted entry is the header of a browser exactly when the entry denotes
its origin, and has its host and port as browsers write them. -/
theorem normalOrigin_eq_serialize_iff (o : BrowserOrigin) {entry : Json} {text : PyStr}
    (h : normalOrigin env entry = .ok text) :
    text = o.serialize ↔ Denotes env entry o.toOrigin ∧ BrowserSpelling env entry := by
  obtain ⟨parts, hparts, hvalid, hinfo, hscheme, rfl⟩ := normalOrigin_eq_ok h
  constructor
  · intro heq
    have hcolon : 58 ∉ parts.scheme := by rcases hscheme with h | h <;> rw [h] <;> decide
    have hcolon' : 58 ∉ o.scheme := fun hmem => by
      simpa [isLowerSchemeChar, isSchemeChar, isAsciiAlpha, isAsciiDigit] using
        o.scheme_lower 58 hmem
    have hsplit := splitOnce_append hcolon ([47, 47] ++ parts.netloc.lower)
    have hsplit' := splitOnce_append hcolon' ([47, 47] ++ o.authority)
    have htext : parts.scheme ++ 58 :: ([47, 47] ++ parts.netloc.lower) =
        o.scheme ++ 58 :: ([47, 47] ++ o.authority) := by
      simpa [Origin.serialize, py] using heq
    rw [htext, hsplit'] at hsplit
    obtain ⟨hsame, hrest⟩ := Prod.mk.inj hsplit
    have hnetloc : parts.netloc.lower = o.authority :=
      (List.append_cancel_left (Option.some.inj hrest)).symm
    have horigin := origin_of_authority hsame.symm hinfo hvalid hnetloc
    exact ⟨⟨parts, hparts, horigin⟩, parts, hparts, by rw [hnetloc, horigin]⟩
  · rintro ⟨⟨parts', hparts', horigin⟩, parts'', hparts'', hspelling⟩
    obtain rfl : parts' = parts := Option.mem_unique hparts' hparts
    obtain rfl : parts'' = parts' := Option.mem_unique hparts'' hparts
    rw [horigin] at hspelling
    have hsame : parts''.scheme = o.scheme := congrArg Origin.scheme horigin
    rw [hsame, hspelling]
    rfl

/-- An accepted list holds the normal forms of its entries. -/
theorem mem_normalOrigins {entries : List Json} :
    ∀ {result origins : List PyStr}, normalOrigins env result entries = .ok origins →
      (∀ entry ∈ entries, ∃ text, normalOrigin env entry = .ok text) ∧
        ∀ text, text ∈ origins ↔
          text ∈ result ∨ ∃ entry ∈ entries, normalOrigin env entry = .ok text := by
  induction entries with
  | nil =>
    intro result origins h
    cases h
    simp
  | cons entry rest ih =>
    intro result origins h
    rw [normalOrigins] at h
    obtain ⟨origin, horigin, h⟩ := bind_eq_ok.mp h
    obtain ⟨hrest, hmem⟩ := ih h
    refine ⟨List.forall_mem_cons.mpr ⟨⟨origin, horigin⟩, hrest⟩, fun text => ?_⟩
    have hadded : text ∈ (if origin ∈ result then result else result ++ [origin]) ↔
        text ∈ result ∨ text = origin := by
      split_ifs with hold
      · exact ⟨Or.inl, fun h => h.elim id fun heq => heq ▸ hold⟩
      · simp
    rw [hmem, hadded, List.exists_mem_cons_iff, horigin, or_assoc, Except.ok.injEq,
      eq_comm (a := text)]

/-- With a list, `origin_allowed` looks for the header of a browser in it. -/
theorem originAllowed_of_list (accepts : PyStr → Bool) {config : Config} {conn : Conn}
    (o : BrowserOrigin) (hlist : config.allowedOrigins ≠ [])
    (hheader : conn.headers "origin" = some o.serialize) :
    originAllowed accepts config conn = .ok (decide (o.serialize ∈ config.allowedOrigins)) := by
  have hne : o.serialize ≠ [] := by simp [Origin.serialize, py]
  obtain ⟨c, rest, hcons⟩ := List.exists_cons_of_ne_nil hne
  have hnormal := o.serialize_normal
  unfold originAllowed
  rw [hheader]
  rw [hcons] at hnormal ⊢
  simp only [hnormal, if_pos hlist]

/-- The list and the check mean the same origin if and only if, when an entry denotes the origin,
one of those that do has its host and port as browsers write them. -/
theorem originAllowed_iff_denotes_iff (accepts : PyStr → Bool) (o : BrowserOrigin)
    {raw : List (PyStr × Json)} {entries : List Json} {config : Config} {conn : Conn}
    (hload : loadConfig env (.obj raw) = .ok config)
    (hentries : field raw "allowed_origins" = some (.arr entries)) (hne : entries ≠ [])
    (hheader : conn.headers "origin" = some o.serialize) :
    (originAllowed accepts config conn = .ok true ↔
      ∃ entry ∈ entries, Denotes env entry o.toOrigin) ↔
      ((∃ entry ∈ entries, Denotes env entry o.toOrigin) →
        ∃ entry ∈ entries, Denotes env entry o.toOrigin ∧ BrowserSpelling env entry) := by
  have horigins := (loadConfig_passed hload).allowedOrigins
  simp only [allowedOrigins, hentries] at horigins
  obtain ⟨haccepted, hmem⟩ := mem_normalOrigins horigins
  have hlist : config.allowedOrigins ≠ [] := by
    obtain ⟨first, rest, rfl⟩ := List.exists_cons_of_ne_nil hne
    obtain ⟨text, htext⟩ := haccepted first List.mem_cons_self
    exact List.ne_nil_of_mem ((hmem text).mpr (Or.inr ⟨first, List.mem_cons_self, htext⟩))
  have hallowed : originAllowed accepts config conn = .ok true ↔
      ∃ entry ∈ entries, Denotes env entry o.toOrigin ∧ BrowserSpelling env entry := by
    rw [originAllowed_of_list accepts o hlist hheader, Except.ok.injEq, decide_eq_true_iff, hmem]
    constructor
    · rintro (hnil | ⟨entry, hentry, htext⟩)
      · simp at hnil
      · exact ⟨entry, hentry, (normalOrigin_eq_serialize_iff o htext).mp rfl⟩
    · rintro ⟨entry, hentry, hboth⟩
      obtain ⟨text, htext⟩ := haccepted entry hentry
      obtain rfl := (normalOrigin_eq_serialize_iff o htext).mpr hboth
      exact Or.inr ⟨entry, hentry, htext⟩
  rw [hallowed]
  constructor
  · exact fun hsame hdenotes => hsame.mpr hdenotes
  · rintro hspelled
    exact ⟨fun ⟨entry, hentry, hdenotes, _⟩ => ⟨entry, hentry, hdenotes⟩, hspelled⟩

/-- A configuration with one allowed origin. -/
def originConfig (entry : PyStr) : List (PyStr × Json) :=
  [(py "allowed_origins".toList, .arr [.str entry])]

/-- A request that names an origin. -/
def originConn (origin : PyStr) : Conn where
  scheme := https
  headers := fun name => if name = "origin" then some origin else none
  cookies := fun _ => none
  query := fun _ => none

/-- The origin of a host on a port, over TLS. -/
def pageOrigin (port : ℕ) (h : port ≤ 65535) : BrowserOrigin where
  scheme := https
  host := .name (py "a.com".toList)
  port := some port
  scheme_lower := by decide
  host_written := by decide
  port_known := by simp
  port_le := by simpa using h

/-- With a port that is not the default both mean the same. -/
theorem originAllowed_iff_denotes_iff_port :
    (originAllowed (fun _ => true) { allowedOrigins := [py "https://a.com:8443".toList] }
          (originConn (pageOrigin 8443 (by decide)).serialize) = .ok true ↔
        ∃ entry ∈ [Json.str (py " https://A.com:8443".toList)],
          Denotes plainEnv entry (pageOrigin 8443 (by decide)).toOrigin) ↔
      ((∃ entry ∈ [Json.str (py " https://A.com:8443".toList)],
          Denotes plainEnv entry (pageOrigin 8443 (by decide)).toOrigin) →
        ∃ entry ∈ [Json.str (py " https://A.com:8443".toList)],
          Denotes plainEnv entry (pageOrigin 8443 (by decide)).toOrigin ∧
            BrowserSpelling plainEnv entry) := by
  have hload : loadConfig plainEnv (.obj (originConfig (py " https://A.com:8443".toList))) =
      .ok { allowedOrigins := [py "https://a.com:8443".toList] } := rfl
  exact originAllowed_iff_denotes_iff _ _ hload rfl (by simp) rfl

/-- An entry with the default port of its scheme locks its own origin out. -/
theorem default_port_locked_out :
    ∃ config, loadConfig plainEnv (.obj (originConfig (py "https://a.com:443".toList))) =
        .ok config ∧
      (pageOrigin 443 (by decide)).serialize = py "https://a.com".toList ∧
      ¬(originAllowed (fun _ => true) config (originConn (py "https://a.com".toList)) = .ok true ↔
        ∃ entry ∈ [Json.str (py "https://a.com:443".toList)],
          Denotes plainEnv entry (pageOrigin 443 (by decide)).toOrigin) := by
  refine ⟨_, rfl, by decide, ?_⟩
  intro hsame
  have hdenotes : Denotes plainEnv (.str (py "https://a.com:443".toList))
      (pageOrigin 443 (by decide)).toOrigin := ⟨_, rfl, by decide⟩
  have hallowed := hsame.mpr ⟨_, List.mem_singleton_self _, hdenotes⟩
  revert hallowed
  decide

end WTerm
