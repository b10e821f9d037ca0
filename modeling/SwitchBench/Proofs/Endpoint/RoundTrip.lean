import Mathlib.Data.List.TakeWhile
import SwitchBench.Endpoint.Endpoint
import SwitchBench.Proofs.Endpoint.Ipv6
import SwitchBench.Proofs.Text.Numerals
import SwitchBench.Proofs.Text.Order
import SwitchBench.Settings.Flags

/-! The text of an endpoint is read back.

The host of an endpoint that was read is an IPv6 address without its brackets, or a text of printable characters
that may stand in a host as they are: whatever else was written has been percent-encoded (`Url.isHost_of_ofText`).
Between the scheme and the port such a host is found again and left as it is (`Url.ofText_written`). So reading an
endpoint, writing it and reading it again is reading it once (**`Endpoint.ofText_display`**), whatever user, path,
letter case and spelling of an address the first text had. -/
namespace SwitchBench

namespace Url

/-! ### Hosts -/

/-- A character that stands in a host as it is. -/
def isPlain (c : Char) : Bool := 32 < c.toNat && c.toNat < 127 && !isForbidden c

/-- A host that is no address. -/
structure Opaque (cs : List Char) : Prop where
  ne_nil : cs ≠ []
  plain : ∀ c ∈ cs, isPlain c = true

/-- What is found for the host of a scheme that takes it as it is. -/
def IsHost (host : List Char) : Prop := (∃ a : Ipv6, host = '[' :: a.text ++ [']']) ∨ Opaque host

theorem isPlain_iff {c : Char} : isPlain c = true ↔ 32 < c.toNat ∧ c.toNat < 127 ∧ isForbidden c = false := by
  simp [isPlain, and_assoc]

theorem isPlain_upperHex : ∀ n < 16, isPlain (upperHex n) = true := by decide

theorem isPlain_of_mem_percentEncoded {b : UInt8} {c : Char} (h : c ∈ percentEncoded b) : isPlain c = true := by
  have hb := b.toNat_lt
  simp only [percentEncoded, List.mem_cons, List.not_mem_nil, or_false] at h
  rcases h with rfl | rfl | rfl
  · decide
  · exact isPlain_upperHex _ (by omega)
  · exact isPlain_upperHex _ (by omega)

/-- **Percent-encoding leaves plain characters**, if nothing is forbidden. -/
theorem opaque_encoded {cs : List Char} (hne : cs ≠ []) (h : cs.any isForbidden = false) : Opaque (encoded cs) := by
  have hallowed : ∀ c ∈ cs, isForbidden c = false := by simpa using h
  constructor
  · obtain ⟨c, cs, rfl⟩ := List.exists_cons_of_ne_nil hne
    rw [encoded, List.flatMap_cons]
    split
    · obtain ⟨b, bytes, hbytes⟩ := List.exists_cons_of_ne_nil (utf8EncodeChar_ne_nil c)
      simp [hbytes, percentEncoded]
    · simp
  · intro d hd
    obtain ⟨c, hc, hd⟩ := List.mem_flatMap.mp hd
    split at hd
    next =>
      obtain ⟨b, -, hd⟩ := List.mem_flatMap.mp hd
      exact isPlain_of_mem_percentEncoded hd
    next hprintable =>
      rw [List.mem_singleton.mp hd]
      have hspace : c.toNat ≠ 32 := by
        intro hc32
        have hc' : c = ' ' := Char.toNat_inj.mp hc32
        have := hallowed c hc
        rw [hc'] at this
        exact absurd this (by decide)
      simp only [Bool.or_eq_true, decide_eq_true_eq, not_or] at hprintable
      exact isPlain_iff.mpr ⟨by omega, by omega, hallowed c hc⟩

/-- Plain characters are not encoded again. -/
theorem Opaque.encoded_eq {cs : List Char} (h : Opaque cs) : encoded cs = cs := by
  have hplain := h.plain
  clear h
  induction cs with
  | nil => rfl
  | cons c cs ih =>
    obtain ⟨hc, hcs⟩ := List.forall_mem_cons.mp hplain
    obtain ⟨hlow, hhigh, -⟩ := isPlain_iff.mp hc
    have hkept : (decide (c.toNat < 32) || decide (127 ≤ c.toNat)) = false := by
      simp only [Bool.or_eq_false_iff, decide_eq_false_iff_not]
      omega
    have ih := ih hcs
    rw [encoded] at ih ⊢
    rw [List.flatMap_cons, ih, hkept]
    rfl

theorem Opaque.not_mem {cs : List Char} (h : Opaque cs) {c : Char} (hc : isForbidden c = true) : c ∉ cs := by
  intro hmem
  obtain ⟨-, -, hallowed⟩ := isPlain_iff.mp (h.plain c hmem)
  rw [hc] at hallowed
  cases hallowed

theorem Opaque.plainHost_eq {cs : List Char} (h : Opaque cs) : plainHost cs = .ok cs := by
  have hbracket : cs.head? ≠ some '[' := fun hhead =>
    h.not_mem (c := '[') (by decide) (List.mem_of_mem_head? hhead)
  have hallowed : ¬ cs.any isForbidden = true := by
    simpa using fun c hc => (isPlain_iff.mp (h.plain c hc)).2.2
  rw [plainHost, if_neg hbracket, if_neg hallowed, h.encoded_eq]

theorem bracketed_text (a : Ipv6) : plainHost ('[' :: a.text ++ [']']) = .ok ('[' :: a.text ++ [']']) := by
  have hlast : ('[' :: a.text ++ [']']).getLast? = some ']' := List.getLast?_concat
  have hhead : ('[' :: a.text ++ [']']).head? = some '[' := rfl
  have hinside : (('[' :: a.text ++ [']']).drop 1).dropLast = a.text := by simp
  rw [plainHost, if_pos hhead, bracketed, if_pos hlast, hinside, a.ofText?_text]

/-- **A host that was found is found again.** -/
theorem IsHost.plainHost_eq {host : List Char} (h : IsHost host) : plainHost host = .ok host := by
  rcases h with ⟨a, rfl⟩ | h
  · exact bracketed_text a
  · exact h.plainHost_eq

theorem isHost_of_plainHost {name host : List Char} (hne : name ≠ []) (h : plainHost name = .ok host) :
    IsHost host := by
  unfold plainHost at h
  split at h
  next =>
    unfold bracketed at h
    split at h
    · split at h
      next a _ =>
        cases h
        exact .inl ⟨a, rfl⟩
      next => cases h
    · cases h
  next =>
    split at h
    next => cases h
    next hallowed =>
      cases h
      exact .inr (opaque_encoded hne (Bool.eq_false_iff.mpr hallowed))

/-! ### Between the scheme and the port -/

/-- A character that is none of the marks and blanks around a host. -/
def isInner (c : Char) : Bool := 32 < c.toNat && !"/?#@".toList.contains c

theorem isInner_iff {c : Char} : isInner c = true ↔ 32 < c.toNat ∧ c ∉ "/?#@".toList := by simp [isInner]

theorem isInner_of_isPlain {c : Char} (h : isPlain c = true) : isInner c = true := by
  obtain ⟨hlow, -, hallowed⟩ := isPlain_iff.mp h
  have hmarks : ∀ d ∈ "/?#@".toList, isForbidden d = true := List.all_eq_true.mp rfl
  exact isInner_iff.mpr ⟨hlow, fun hc => Bool.false_ne_true (hallowed.symm.trans (hmarks c hc))⟩

theorem isInner_of_isDigit {c : Char} (h : c.isDigit = true) : isInner c = true := by
  have hmarks : ∀ d ∈ "/?#@".toList, d.isDigit = false := by simp
  obtain ⟨hlow, -⟩ := Text.toNat_of_isDigit h
  exact isInner_iff.mpr ⟨by omega, fun hc => Bool.false_ne_true ((hmarks c hc).symm.trans h)⟩

theorem isDelimiter_of_isInner {c : Char} (h : isInner c = true) : isDelimiter .plain c = false := by
  have hmarks : c ≠ '/' ∧ c ≠ '?' ∧ c ≠ '#' ∧ c ≠ '@' := by simpa using (isInner_iff.mp h).2
  simp [isDelimiter, hmarks]

theorem IsHost.inner {host : List Char} (h : IsHost host) : ∀ c ∈ host, isInner c = true := by
  rcases h with ⟨a, rfl⟩ | h
  · have haddress : ∀ c ∈ '[' :: ']' :: ':' :: Ipv6.digits, isInner c = true := List.all_eq_true.mp rfl
    intro c hc
    apply haddress
    simp only [List.cons_append, List.mem_cons, List.mem_append, List.not_mem_nil, or_false] at hc ⊢
    rcases hc with hc | hc | hc
    · exact .inl hc
    · exact .inr (.inr (Ipv6.mem_text hc))
    · exact .inr (.inl hc)
  · exact fun c hc => isInner_of_isPlain (h.plain c hc)

theorem IsHost.ne_nil {host : List Char} (h : IsHost host) : host ≠ [] := by
  rcases h with ⟨a, rfl⟩ | h
  · exact List.cons_ne_nil _ _
  · exact h.ne_nil

theorem hostPart_outside {w : List Char} (rest : List Char) (hcolon : ':' ∉ w) (hbracket : '[' ∉ w) :
    hostPart false (w ++ ':' :: rest) = (w, ':' :: rest) := by
  induction w with
  | nil => simp [hostPart]
  | cons c w ih =>
    obtain ⟨hc, hw⟩ := List.ne_and_not_mem_of_not_mem_cons hcolon
    obtain ⟨hc', hw'⟩ := List.ne_and_not_mem_of_not_mem_cons hbracket
    simp [hostPart, hc.symm, hc'.symm, ih hw hw']

theorem hostPart_inside {w : List Char} (rest : List Char) (h : ']' ∉ w) :
    hostPart true (w ++ ']' :: ':' :: rest) = (w ++ [']'], ':' :: rest) := by
  induction w with
  | nil => simp [hostPart]
  | cons c w ih =>
    obtain ⟨hc, hw⟩ := List.ne_and_not_mem_of_not_mem_cons h
    simp [hostPart, hc.symm, ih hw]

/-- The colon behind a host ends it. -/
theorem IsHost.hostPart_eq {host : List Char} (h : IsHost host) (rest : List Char) :
    hostPart false (host ++ ':' :: rest) = (host, ':' :: rest) := by
  rcases h with ⟨a, rfl⟩ | h
  · have hclosing : ']' ∉ a.text := fun hmem => absurd (Ipv6.mem_text hmem) (by decide)
    simp [hostPart, hostPart_inside rest hclosing]
  · exact hostPart_outside rest (h.not_mem (by decide)) (h.not_mem (by decide))

theorem port?_decimal (p : UInt16) : port? (Text.decimal p.toNat) = .ok (some p) := by
  have hdigits : ∀ c ∈ Text.decimal p.toNat, c.isDigit = true := fun c hc => Text.isDigit_of_mem_decimal hc
  have htake : (Text.decimal p.toNat).takeWhile Char.isDigit = Text.decimal p.toNat :=
    List.takeWhile_eq_self_iff.mpr hdigits
  have hdrop : (Text.decimal p.toNat).dropWhile Char.isDigit = [] := List.dropWhile_eq_nil_iff.mpr hdigits
  have hvalue : Nat.ofDigitChars 10 (Text.decimal p.toNat) 0 = p.toNat := Nat.ofDigitChars_ten_toDigits
  have hbound := p.toNat_lt
  have hne : (Text.decimal p.toNat).isEmpty = false := by simpa using Text.decimal_ne_nil p.toNat
  simp only [port?, htake, hdrop, hvalue, hne]
  rw [if_neg (by omega), if_neg (by simp)]
  simp

/-- A host and its port hold none of the marks around them. -/
theorem IsHost.inner_port {host : List Char} (h : IsHost host) (n : Nat) :
    ∀ c ∈ host ++ ':' :: Text.decimal n, isInner c = true := by
  intro c hc
  simp only [List.mem_append, List.mem_cons] at hc
  rcases hc with hc | rfl | hc
  · exact h.inner c hc
  · rfl
  · exact isInner_of_isDigit (Text.isDigit_of_mem_decimal hc)

theorem authority_written {host : List Char} (h : IsHost host) (scheme : List Char) (p : UInt16) :
    authority .plain scheme (host ++ ':' :: Text.decimal p.toNat) = .ok ⟨scheme, some host, some p⟩ := by
  have hinner := h.inner_port p.toNat
  have htake : (host ++ ':' :: Text.decimal p.toNat).takeWhile (fun c => !isDelimiter .plain c) =
      host ++ ':' :: Text.decimal p.toNat :=
    List.takeWhile_eq_self_iff.mpr fun c hc => by rw [isDelimiter_of_isInner (hinner c hc)]; rfl
  have huser : userAndHost (host ++ ':' :: Text.decimal p.toNat) = (none, host ++ ':' :: Text.decimal p.toNat) := by
    rw [userAndHost, Text.cutLast?_eq_none fun hmem => Bool.false_ne_true (hinner '@' hmem)]
  simp [authority, htake, huser, h.hostPart_eq, h.ne_nil, h.plainHost_eq, port?_decimal, bind, Except.bind, pure,
    Except.pure]

theorem cleaned_eq {cs : List Char} (h : ∀ c ∈ cs, 32 < c.toNat) : cleaned cs = cs := by
  have hedge : ∀ ds : List Char, (∀ c ∈ ds, 32 < c.toNat) → ds.dropWhile isEdge = ds := by
    intro ds hds
    refine List.dropWhile_eq_self_iff.mpr fun hne => ?_
    simpa [isEdge] using hds ds[0] (List.getElem_mem hne)
  have hreverse : ∀ c ∈ cs.reverse, 32 < c.toNat := fun c hc => h c (List.mem_reverse.mp hc)
  rw [cleaned, hedge cs h, hedge _ hreverse, List.reverse_reverse]
  refine List.filter_eq_self.mpr fun c hc => ?_
  have hkept : c ≠ '\t' ∧ c ≠ '\n' ∧ c ≠ '\r' := by
    refine ⟨?_, ?_, ?_⟩ <;> rintro rfl <;> exact absurd (h _ hc) (by decide)
  simp [isIgnored, hkept]

/-- **Between a scheme and a port a host is found as it is.** -/
theorem ofText_written {host : List Char} (h : IsHost host) (p : UInt16) :
    ofText ("tcp://".toList ++ host ++ ':' :: Text.decimal p.toNat) = .ok ⟨"tcp".toList, some host, some p⟩ := by
  have htext : "tcp://".toList ++ host ++ ':' :: Text.decimal p.toNat =
      "tcp".toList ++ ':' :: '/' :: '/' :: (host ++ ':' :: Text.decimal p.toNat) := by simp
  have hfront : ∀ c ∈ "tcp://".toList, 32 < c.toNat := by simp
  have hcleaned : cleaned ("tcp://".toList ++ host ++ ':' :: Text.decimal p.toNat) =
      "tcp://".toList ++ host ++ ':' :: Text.decimal p.toNat := by
    refine cleaned_eq fun c hc => ?_
    rw [List.append_assoc] at hc
    exact (List.mem_append.mp hc).elim (hfront c) fun hc => (isInner_iff.mp (h.inner_port _ c hc)).1
  have hscheme : ∀ c ∈ "tcp".toList, isSchemeChar c = true := List.all_eq_true.mp rfl
  rw [ofText, hcleaned, htext, List.dropWhile_append_of_pos hscheme, List.takeWhile_append_of_pos hscheme,
    List.dropWhile_cons_of_neg (by decide), List.takeWhile_cons_of_neg (by decide)]
  have hlower : Text.lower ("tcp".toList ++ []) = "tcp".toList := by decide
  have hkind : kindOf "tcp".toList = .plain := by decide
  have halpha (rest : List Char) : ("tcp".toList ++ rest).head?.any Char.isAlpha = true := by simp
  show (if ("tcp".toList ++ _).head?.any Char.isAlpha then _ else _) = _
  rw [if_pos (halpha _), hlower, afterScheme, hkind]
  exact authority_written h _ p

/-! ### What is found -/

/-- A URL that was read holds the scheme, and the host that was found for a name. -/
theorem exists_of_authority {kind : SchemeKind} {scheme cs : List Char} {url : Url}
    (h : authority kind scheme cs = .ok url) :
    ∃ name host port, (if kind = .web then specialHost name else plainHost name) = .ok host ∧
      url = ⟨scheme, if name = [] then none else some host, port⟩ := by
  simp only [authority, bind, Except.bind, throw, throwThe, MonadExceptOf.throw, pure, Except.pure] at h
  generalize userAndHost (cs.takeWhile fun c => !isDelimiter kind c) = parts at h
  obtain ⟨user, rest⟩ := parts
  generalize hostPart false rest = parts at h
  obtain ⟨name, after⟩ := parts
  dsimp only at h
  split at h
  next => cases h
  split at h
  next => cases h
  refine ⟨name, ?_⟩
  -- The host goes into the URL as it was found, whatever comes of the port and the user.
  by_cases hweb : kind = .web
  all_goals
    simp only [hweb, if_true, if_false] at h ⊢
    split at h
    next => cases h
    next host hhost =>
      split at h
      next =>
        split at h
        next => cases h
        next port _ =>
          split at h
          next => cases h
          next =>
            cases h
            exact ⟨host, port, hhost, rfl⟩
      next =>
        split at h
        next => cases h
        next =>
          cases h
          exact ⟨host, none, hhost, rfl⟩

theorem scheme_of_fileHost {scheme cs : List Char} {url : Url} (h : fileHost scheme cs = .ok url) :
    url.scheme = scheme := by
  simp only [fileHost, Except.map] at h
  -- A drive, no host and every host that is found leave the scheme alone.
  repeat' split at h
  all_goals cases h
  all_goals rfl

theorem eq_of_afterScheme {scheme cs : List Char} {url : Url} (h : afterScheme scheme cs = .ok url) :
    url.scheme = scheme ∧ (kindOf scheme = .plain → ∀ host ∈ url.host, IsHost host) := by
  unfold afterScheme at h
  split at h
  next hkind => exact ⟨scheme_of_fileHost h, fun hplain => nomatch hkind.symm.trans hplain⟩
  next hkind =>
    obtain ⟨name, found, port, -, rfl⟩ := exists_of_authority h
    exact ⟨rfl, fun hplain => nomatch hkind.symm.trans hplain⟩
  next =>
    split at h
    next rest =>
      obtain ⟨name, found, port, hfound, rfl⟩ := exists_of_authority h
      refine ⟨rfl, fun _ host hmem => ?_⟩
      dsimp only at hmem
      split at hmem
      next => cases hmem
      next hname =>
        cases hmem
        exact isHost_of_plainHost hname hfound
    next =>
      cases h
      exact ⟨rfl, fun _ host hmem => nomatch hmem⟩

/-- **What is found is a host**, if the scheme takes it as it is. -/
theorem isHost_of_ofText {text : List Char} {url : Url} (h : ofText text = .ok url)
    (hkind : kindOf url.scheme = .plain) : ∀ host ∈ url.host, IsHost host := by
  unfold ofText at h
  dsimp only at h
  split at h
  next =>
    split at h
    next =>
      obtain ⟨hscheme, hhost⟩ := eq_of_afterScheme h
      exact hhost (hscheme ▸ hkind)
    next => cases h
  next => cases h

end Url

namespace Endpoint

/-! ### Brackets -/

theorem dropWhile_of_not_mem {c : Char} {w : List Char} (h : c ∉ w) : w.dropWhile (· == c) = w := by
  refine List.dropWhile_eq_self_iff.mpr fun hne hhead => h ?_
  rw [← beq_iff_eq.mp hhead]
  exact List.getElem_mem hne

theorem unbracketed_eq {w : List Char} (hopen : '[' ∉ w) (hclose : ']' ∉ w) : unbracketed w = w := by
  rw [unbracketed, dropWhile_of_not_mem hopen, dropWhile_of_not_mem (mt List.mem_reverse.mp hclose),
    List.reverse_reverse]

theorem unbracketed_brackets {w : List Char} (hopen : '[' ∉ w) (hclose : ']' ∉ w) :
    unbracketed ('[' :: w ++ [']']) = w := by
  have hfront : '[' ∉ w ++ [']'] := by simp [hopen]
  have hback : (w ++ [']']).reverse = ']' :: w.reverse := by simp
  rw [unbracketed, List.cons_append, List.dropWhile_cons_of_pos rfl, dropWhile_of_not_mem hfront, hback,
    List.dropWhile_cons_of_pos rfl, dropWhile_of_not_mem (mt List.mem_reverse.mp hclose), List.reverse_reverse]

/-- **Brackets that are taken off a host are put back**, and no others. -/
theorem rebracketed {host : List Char} (h : Url.IsHost host) :
    (if ':' ∈ unbracketed host then '[' :: unbracketed host ++ [']'] else unbracketed host) = host := by
  rcases h with ⟨a, rfl⟩ | h
  · have hopen : '[' ∉ a.text := fun hmem => absurd (Ipv6.mem_text hmem) (by decide)
    have hclose : ']' ∉ a.text := fun hmem => absurd (Ipv6.mem_text hmem) (by decide)
    rw [unbracketed_brackets hopen hclose, if_pos a.colon_mem_text]
  · rw [unbracketed_eq (h.not_mem (by decide)) (h.not_mem (by decide)), if_neg (h.not_mem (by decide))]

/-! ### Reading again -/

/-- What is read is the host of a URL, without brackets, and its port. -/
theorem ofText_eq_ok_iff {text : List Char} {e : Endpoint} :
    ofText text = .ok e ↔ ∃ host, Url.ofText text = .ok ⟨"tcp".toList, some host, some e.port⟩ ∧
      e.host = .ofList (unbracketed host) := by
  constructor
  · intro h
    unfold ofText at h
    split at h
    next => cases h
    next url hurl =>
      obtain ⟨scheme, host?, port?⟩ := url
      split at h
      next => cases h
      next hscheme =>
        obtain rfl := Decidable.not_not.mp hscheme
        split at h
        next => cases h
        next => cases h
        next host port hhost hport =>
          cases h
          obtain rfl : host? = some host := hhost
          obtain rfl : port? = some port := hport
          exact ⟨host, hurl, rfl⟩
  · rintro ⟨host, hurl, hhost⟩
    simp [ofText, hurl, ← hhost]

theorem toList_display {host : List Char} {e : Endpoint} (h : Url.IsHost host)
    (hhost : e.host = .ofList (unbracketed host)) :
    e.display.toList = "tcp://".toList ++ host ++ ':' :: Text.decimal e.port.toNat := by
  have hchars : e.host.toList = unbracketed host := by rw [hhost, String.toList_ofList]
  refine String.toList_ofList.trans ?_
  show "tcp://".toList ++ (if ':' ∈ e.host.toList then '[' :: e.host.toList ++ [']'] else e.host.toList) ++ _ = _
  rw [hchars, rebracketed h]

theorem exists_isHost {text : List Char} {e : Endpoint} (h : ofText text = .ok e) :
    ∃ host, Url.IsHost host ∧ e.host = .ofList (unbracketed host) := by
  obtain ⟨host, hurl, hhost⟩ := ofText_eq_ok_iff.mp h
  have hkind : Url.kindOf "tcp".toList = .plain := by decide
  exact ⟨host, Url.isHost_of_ofText hurl hkind host rfl, hhost⟩

/-- **An endpoint is read from its own text** exactly if its host is one that a URL may have. -/
theorem ofText_display_iff {e : Endpoint} :
    ofText e.display.toList = .ok e ↔ ∃ host, Url.IsHost host ∧ e.host = .ofList (unbracketed host) := by
  refine ⟨exists_isHost, ?_⟩
  rintro ⟨host, hfound, hhost⟩
  rw [toList_display hfound hhost]
  exact ofText_eq_ok_iff.mpr ⟨host, Url.ofText_written hfound e.port, hhost⟩

/-- **An endpoint that was read is read again from its text**, so a setting keeps its host and its port on the way
from a flag. -/
theorem ofText_display {text : List Char} {e : Endpoint} (h : ofText text = .ok e) :
    ofText e.display.toList = .ok e ∧ ∀ k, k = .controlEndpoint ∨ k = .listenEndpoint →
      ((Flag.setting k).datum? text).bind Settings.endpoint? = some e := by
  have hagain := ofText_display_iff.mpr (exists_isHost h)
  refine ⟨hagain, fun k hk => ?_⟩
  have hdatum : (Flag.setting k).datum? text = (ofText text).toOption.map fun e => .text e.display := by
    rcases hk with rfl | rfl <;> rfl
  rw [hdatum, h]
  simp only [Except.toOption, Option.map_some, Option.bind_some, Settings.endpoint?, Datum.text?, hagain]

theorem ofText_display_address :
    let text := "TCP://u:p@[0:0::FFFF:1.2.3.4]:007/x?y#z".toList
    let e : Endpoint := ⟨"::ffff:102:304", 7⟩
    ofText text = .ok e ∧ ofText "tcp://[::ffff:102:304]:7".toList = .ok e ∧
      ((Flag.setting .listenEndpoint).datum? text).bind Settings.endpoint? = some e := by
  intro text e
  have hread : ofText text = .ok e := by decide +kernel
  have htext : e.display.toList = "tcp://[::ffff:102:304]:7".toList := by decide +kernel
  obtain ⟨hagain, hsetting⟩ := ofText_display hread
  rw [htext] at hagain
  exact ⟨hread, hagain, hsetting .listenEndpoint (.inr rfl)⟩

/-- A host in another script is percent-encoded once. -/
example : (ofText "tcp://Zürich:80".toList).toOption.map display = some "tcp://Z%C3%BCrich:80" := by decide +kernel

end Endpoint

end SwitchBench
