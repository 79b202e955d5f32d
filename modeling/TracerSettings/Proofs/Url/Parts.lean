import Mathlib.Data.List.TakeWhile
import TracerSettings.Proofs.Url.Host
import TracerSettings.Url

namespace TracerSettings.Url

open Text (takeWhile_append_stop dropWhile_append_stop)

/-- What is written in a URL, part by part. -/
structure Parts where
  scheme : List Char
  slashes : List Char
  user : Option (List Char)
  host : List Char
  port : Option (List Char)
  rest : List Char

namespace Parts

def schemeName (p : Parts) : String := String.ofList (p.scheme.map Char.toLower)

def web (p : Parts) : Bool := p.schemeName == "file" || isWeb p.schemeName

def userText (p : Parts) : List Char := (p.user.map (· ++ ['@'])).getD []

def portText (p : Parts) : List Char := (p.port.map (':' :: ·)).getD []

def authority (p : Parts) : List Char := p.userText ++ (p.host ++ p.portText)

def text (p : Parts) : List Char := p.scheme ++ ':' :: (p.slashes ++ (p.authority ++ p.rest))

end Parts

/-- The slashes in front of an authority: two of them, and on the web any number. -/
inductive Slashes (scheme : String) : List Char → Prop
  | file {a b : Char} (hfile : scheme = "file") (ha : Path.isSlash true a = true)
      (hb : Path.isSlash true b = true) : Slashes scheme [a, b]
  | web {cs : List Char} (hweb : isWeb scheme = true) (h : ∀ c ∈ cs, Path.isSlash true c = true) :
      Slashes scheme cs
  | two (hfile : scheme ≠ "file") (hweb : isWeb scheme = false) : Slashes scheme ['/', '/']

theorem Slashes.of_web {scheme : String} {cs : List Char} (h : Slashes scheme cs)
    (hweb : isWeb scheme = true) : ∀ c ∈ cs, Path.isSlash true c = true := by
  cases h with
  | file hfile ha hb => simp [ha, hb]
  | web _ h => exact h
  | two _ hweb' => rw [hweb] at hweb'; cases hweb'

theorem Slashes.eq_pair {scheme : String} {cs : List Char} (h : Slashes scheme cs)
    (hfile : scheme = "file") : ∃ a b, cs = [a, b] := by
  cases h with
  | file _ _ _ => exact ⟨_, _, rfl⟩
  | web hweb _ => rw [hfile] at hweb; cases hweb
  | two hfile' _ => exact absurd hfile hfile'

theorem Slashes.eq_two {scheme : String} {cs : List Char} (h : Slashes scheme cs)
    (hfile : scheme ≠ "file") (hweb : isWeb scheme = false) : cs = ['/', '/'] := by
  cases h with
  | file hfile' _ _ => exact absurd hfile' hfile
  | web hweb' _ => rw [hweb] at hweb'; cases hweb'
  | two _ _ => rfl

/-- The parts are cut where a reader cuts. -/
structure Parts.Delimited (p : Parts) : Prop where
  letter : p.scheme.head?.any Char.isAlpha = true
  scheme : ∀ c ∈ p.scheme, isSchemeCharacter c = true
  slashes : Slashes p.schemeName p.slashes
  user : ∀ user ∈ p.user, ∀ c ∈ user, endsAuthority p.web c = false
  host : Host.IsWritten p.host
  port : ∀ ds ∈ p.port, ∀ c ∈ ds, c.isDigit = true
  last : '@' ∉ (p.host ++ (p.portText ++ p.rest)).takeWhile (!endsAuthority p.web ·)
  rest : ∀ c ∈ p.rest.head?, endsAuthority (p.web || p.port.isSome) c = true

/-- The parts of a URL as it is written. -/
structure Parts.Writes (p : Parts) (raw : String) : Prop where
  delimited : p.Delimited
  text : stripped raw.toList = p.text

section Scheme

variable {cs rest : List Char} {scheme : String}

theorem colon_notMem {name : List Char} (h : ∀ c ∈ name, isSchemeCharacter c = true) :
    ':' ∉ name := fun hmem => absurd (h ':' hmem) (by decide)

theorem scheme?_eq_some_iff :
    scheme? cs = some (scheme, rest) ↔
      ∃ name, name.head?.any Char.isAlpha = true ∧ (∀ c ∈ name, isSchemeCharacter c = true) ∧
        String.ofList (name.map Char.toLower) = scheme ∧ cs = name ++ ':' :: rest := by
  constructor
  · intro h
    rw [scheme?] at h
    split at h
    · rename_i c name rest' hhead hcut
      obtain ⟨-, rfl⟩ := Text.cut_eq_some_iff.1 hcut
      rw [Option.ite_none_right_eq_some, Bool.and_eq_true] at h
      obtain ⟨⟨hletter, hall⟩, heq⟩ := h
      cases heq
      refine ⟨name, ?_, List.all_eq_true.1 hall, rfl, rfl⟩
      cases name with
      | nil =>
          cases hhead
          exact absurd hletter (by decide)
      | cons d name =>
          cases hhead
          exact hletter
    · cases h
  · rintro ⟨name, hletter, hall, rfl, rfl⟩
    cases name with
    | nil => cases hletter
    | cons c name =>
        have hletter' : c.isAlpha = true := hletter
        rw [scheme?, Text.cut_append (colon_notMem hall), List.cons_append, List.head?_cons]
        simp only [hletter', List.all_eq_true.2 hall, Bool.and_self, if_true]

end Scheme

section Host

variable {web : Bool} {cs : List Char}

theorem isDelimiter_of_endsAuthority {c : Char} (h : endsAuthority web c = true) :
    Host.isDelimiter c = true := by
  simp only [endsAuthority, Path.isSlash, Path.isQueryMark, Bool.or_eq_true, Bool.and_eq_true,
    beq_iff_eq] at h
  rcases h with (rfl | ⟨-, rfl⟩) | rfl | rfl <;> decide

theorem not_isDelimiter_of_isPlain {c : Char} (h : V6.IsPlain c) :
    c = ':' ∨ Host.isDelimiter c = false := by
  rcases h with hhex | rfl | rfl
  · refine .inr (Bool.eq_false_iff.2 fun hdelimiter => ?_)
    rw [(Host.isBarred_of_isDelimiter hdelimiter).2.2] at hhex
    cases hhex
  · exact .inl rfl
  · exact .inr (by decide)

theorem Host.IsWritten.mem {c : Char} (h : IsWritten cs) (hc : c ∈ cs) :
    c ∈ [':', '[', ']'] ∨ isDelimiter c = false := by
  cases h with
  | word _ h => exact .inr (h c hc)
  | bracketed h =>
      rcases List.mem_cons.1 hc with rfl | hc
      · exact .inl (by simp)
      · rcases List.mem_append.1 hc with hc | hc
        · exact (not_isDelimiter_of_isPlain (h c hc)).imp_left fun heq => by simp [heq]
        · rw [List.mem_singleton.1 hc]
          exact .inl (by simp)

theorem Host.IsWritten.ne_nil (h : IsWritten cs) : cs ≠ [] := by
  cases h with
  | word hne _ => exact hne
  | bracketed _ => exact List.cons_ne_nil _ _

theorem Host.IsWritten.endsAuthority_eq (h : IsWritten cs) {c : Char} (hc : c ∈ cs) :
    endsAuthority web c = false := by
  rw [Bool.eq_false_iff]
  intro hend
  rcases h.mem hc with hmem | hdelimiter
  · simp only [List.mem_cons, List.not_mem_nil, or_false] at hmem
    rcases hmem with rfl | rfl | rfl <;> revert hend <;> cases web <;> decide
  · rw [isDelimiter_of_endsAuthority hend] at hdelimiter
    cases hdelimiter

theorem Host.IsWritten.at_notMem (h : IsWritten cs) : '@' ∉ cs := by
  intro hmem
  exact absurd (h.mem hmem) (by decide)

theorem Host.IsWritten.closed (h : IsWritten cs) :
    (cs.head? != some '[' || cs.getLast? == some ']') = true := by
  cases h with
  | word hne h =>
      obtain ⟨c, cs, rfl⟩ := List.exists_cons_of_ne_nil hne
      have hc : c ≠ '[' := by
        rintro rfl
        exact absurd (h '[' List.mem_cons_self) (by decide)
      simp [hc]
  | @bracketed inner _ =>
      rw [← List.cons_append, List.getLast?_concat, beq_self_eq_true, Bool.or_true]

theorem cutHost_append {inBrackets : Bool} {w : List Char}
    (h : ∀ c ∈ w, endsAuthority web c = false ∧ c ≠ '[' ∧ c ≠ ']' ∧ (c = ':' → inBrackets = true))
    (cs : List Char) :
    cutHost web inBrackets (w ++ cs) =
      (w ++ (cutHost web inBrackets cs).1, (cutHost web inBrackets cs).2) := by
  induction w with
  | nil => rfl
  | cons c w ih =>
      obtain ⟨⟨hend, hopen, hclose, hcolon⟩, hw⟩ := List.forall_mem_cons.1 h
      have hstop : (endsAuthority web c || (c == ':' && !inBrackets)) = false := by
        rw [hend, Bool.false_or, Bool.and_eq_false_iff, beq_eq_false_iff_ne, Bool.not_eq_false']
        exact (em (c = ':')).symm.imp_right hcolon
      rw [List.cons_append, cutHost, hstop, beq_false_of_ne hopen, beq_false_of_ne hclose]
      simp only [Bool.false_eq_true, if_false, ih hw, List.cons_append]

theorem cutHost_stop {rest : List Char}
    (h : ∀ c ∈ rest.head?, endsAuthority web c = true ∨ c = ':') :
    cutHost web false rest = ([], rest) := by
  cases rest with
  | nil => rfl
  | cons c rest =>
      have hstop : (endsAuthority web c || (c == ':' && !false)) = true := by
        rw [Bool.not_false, Bool.and_true, Bool.or_eq_true, beq_iff_eq]
        exact h c rfl
      rw [cutHost, hstop, if_pos rfl]

theorem Host.IsWritten.cutHost_append (h : IsWritten cs) {rest : List Char}
    (hrest : ∀ c ∈ rest.head?, endsAuthority web c = true ∨ c = ':') :
    cutHost web false (cs ++ rest) = (cs, rest) := by
  cases h with
  | word hne hword =>
      have hplain : ∀ c ∈ cs, endsAuthority web c = false ∧ c ≠ '[' ∧ c ≠ ']' ∧
          (c = ':' → false = true) := by
        intro c hc
        refine ⟨(word hne hword).endsAuthority_eq hc, ?_, ?_, ?_⟩
        all_goals
          rintro rfl
          exact absurd (hword _ hc) (by decide)
      rw [Url.cutHost_append hplain, cutHost_stop hrest, List.append_nil]
  | @bracketed inner hinner =>
      have hplain : ∀ c ∈ inner, endsAuthority web c = false ∧ c ≠ '[' ∧ c ≠ ']' ∧
          (c = ':' → true = true) := by
        intro c hc
        have hmem : c ∈ '[' :: (inner ++ [']']) := by simp [hc]
        refine ⟨(bracketed hinner).endsAuthority_eq hmem, ?_, ?_, fun _ => rfl⟩
        all_goals
          rintro rfl
          exact absurd (not_isDelimiter_of_isPlain (hinner _ hc)) (by decide)
      have hopen : cutHost web false ('[' :: (inner ++ (']' :: rest))) =
          ('[' :: (cutHost web true (inner ++ (']' :: rest))).1,
            (cutHost web true (inner ++ (']' :: rest))).2) := by
        cases web <;> rfl
      have hclose : cutHost web true (']' :: rest) =
          (']' :: (cutHost web false rest).1, (cutHost web false rest).2) := by
        cases web <;> rfl
      rw [List.cons_append, List.append_assoc, List.singleton_append, hopen,
        Url.cutHost_append hplain, hclose, cutHost_stop hrest]

theorem cutHost_eq {inBrackets : Bool} {host rest : List Char}
    (h : cutHost web inBrackets cs = (host, rest)) :
    cs = host ++ rest ∧ ∀ c ∈ rest.head?, endsAuthority web c = true ∨ c = ':' := by
  induction cs generalizing inBrackets host with
  | nil =>
      cases h
      simp
  | cons c cs ih =>
      rw [cutHost] at h
      split at h
      · rename_i hstop
        cases h
        refine ⟨rfl, fun d hd => ?_⟩
        cases hd
        rw [Bool.or_eq_true, Bool.and_eq_true, beq_iff_eq] at hstop
        exact hstop.imp_right And.left
      · cases h
        obtain ⟨hcs, hrest⟩ := ih rfl
        exact ⟨congrArg (c :: ·) hcs, hrest⟩

end Host

theorem not_isWritten_append {front digits : List Char} (hdigits : ∀ c ∈ digits, c.isDigit = true) :
    ¬Host.IsWritten (front ++ ':' :: digits) := by
  intro h
  generalize hcs : front ++ ':' :: digits = cs at h
  cases h with
  | word _ h =>
      have hmem : ':' ∈ cs := hcs ▸ List.mem_append_right front List.mem_cons_self
      exact absurd (h ':' hmem) (by decide)
  | @bracketed inner _ =>
      have hlast := congrArg List.getLast? hcs
      rw [List.getLast?_append, List.getLast?_cons, Option.some_or, ← List.cons_append,
        List.getLast?_concat] at hlast
      have hmem := List.mem_of_getLast? (List.getLast?_cons.trans hlast)
      rcases List.mem_cons.1 hmem with heq | hmem
      · exact absurd heq (by decide)
      · exact absurd (hdigits _ hmem) (by decide)

section User

variable {web : Bool} {cs rest : List Char}

theorem skipUser_of_notMem (h : '@' ∉ cs.takeWhile (!endsAuthority web ·)) :
    skipUser web cs = .ok (false, cs) := by
  rw [skipUser]
  simp only [Text.cutLast_eq_none_iff.2 h]

theorem skipUser_append {user : List Char} (huser : ∀ c ∈ user, endsAuthority web c = false)
    (hlast : '@' ∉ rest.takeWhile (!endsAuthority web ·))
    (hne : rest.takeWhile (!endsAuthority web ·) ≠ []) :
    ∃ hasUser, skipUser web (user ++ '@' :: rest) = .ok (hasUser, rest) := by
  have hfront : ∀ c ∈ user ++ ['@'], (!endsAuthority web c) = true := by
    rw [List.forall_mem_append, List.forall_mem_singleton]
    refine ⟨fun c hc => by rw [huser c hc, Bool.not_false], ?_⟩
    cases web <;> decide
  have htake : (user ++ '@' :: rest).takeWhile (!endsAuthority web ·) =
      user ++ '@' :: rest.takeWhile (!endsAuthority web ·) := by
    rw [List.append_cons, List.takeWhile_append_of_pos hfront, ← List.append_cons]
  have hdrop : (user ++ '@' :: rest).dropWhile (!endsAuthority web ·) =
      rest.dropWhile (!endsAuthority web ·) := by
    rw [List.append_cons, List.dropWhile_append_of_pos hfront]
  rw [skipUser, htake, hdrop]
  simp only [Text.cutLast_append hlast, List.isEmpty_eq_false_iff.2 hne, Bool.and_false,
    Bool.false_and, Bool.false_eq_true, if_false, List.takeWhile_append_dropWhile]
  exact ⟨_, rfl⟩

theorem skipUser_eq_ok {hasUser : Bool} (h : skipUser web cs = .ok (hasUser, rest)) :
    '@' ∉ rest.takeWhile (!endsAuthority web ·) ∧ ∃ user : Option (List Char),
      cs = (user.map (· ++ ['@'])).getD [] ++ rest ∧
        ∀ cs ∈ user, ∀ c ∈ cs, endsAuthority web c = false := by
  rw [skipUser] at h
  split at h
  · rename_i hnone
    cases h
    exact ⟨Text.cutLast_eq_none_iff.1 hnone, none, rfl, by simp⟩
  · rename_i user host hcut
    obtain ⟨hhost, htake⟩ := Text.cutLast_eq_some_iff.1 hcut
    rw [Host.ite_error_eq_ok_iff] at h
    cases h.2
    have hends : ∀ c ∈ user ++ '@' :: host, (!endsAuthority web c) = true := by
      rw [← htake]
      exact fun c hc => List.mem_takeWhile_imp (p := (!endsAuthority web ·)) hc
    rw [List.forall_mem_append, List.forall_mem_cons] at hends
    constructor
    · rw [takeWhile_append_stop hends.2.2 fun c hc =>
        Text.false_of_mem_head?_dropWhile hc]
      exact hhost
    · refine ⟨some user, ?_, ?_⟩
      · calc cs = cs.takeWhile (!endsAuthority web ·) ++ cs.dropWhile (!endsAuthority web ·) :=
              List.takeWhile_append_dropWhile.symm
          _ = user ++ ['@'] ++ (host ++ cs.dropWhile (!endsAuthority web ·)) := by
              rw [htake, List.append_cons, List.append_assoc]
      · rintro cs ⟨⟩ c hc
        simpa using hends.1 c hc

end User

section Port

variable {scheme : String} {cs rest : List Char}

/-- A port of the scheme's own is not told from an absent one. -/
def keptPort (scheme : String) (digits : List Char) : Option Nat :=
  if digits.isEmpty || schemePort scheme = some (Nat.ofDigitChars 10 digits 0) then none
  else some (Nat.ofDigitChars 10 digits 0)

theorem not_isDigit_of_endsAuthority {web : Bool} {c : Char} (h : endsAuthority web c = true) :
    c.isDigit = false := by
  rw [Bool.eq_false_iff]
  intro hdigit
  have hhex : Text.isHex c = true := by rw [Text.isHex, hdigit]; rfl
  rw [(Host.isBarred_of_isDelimiter (isDelimiter_of_endsAuthority h)).2.2] at hhex
  cases hhex

theorem readPort_append (scheme : String) {digits : List Char} (hdigits : ∀ c ∈ digits, c.isDigit = true)
    (hrest : ∀ c ∈ rest.head?, endsAuthority true c = true) :
    readPort scheme (digits ++ rest) =
      if 65535 < Nat.ofDigitChars 10 digits 0 then .error .port
      else .ok (keptPort scheme digits, rest) := by
  have hstop : ∀ c ∈ rest.head?, c.isDigit = false :=
    fun c hc => not_isDigit_of_endsAuthority (hrest c hc)
  have hend : (rest.head?.any fun c => !endsAuthority true c) = false := by
    cases rest with
    | nil => rfl
    | cons c rest =>
        rw [List.head?_cons, Option.any_some, hrest c rfl, Bool.not_true]
  rw [readPort, takeWhile_append_stop hdigits hstop, dropWhile_append_stop hdigits hstop]
  have hvalue : digits.foldl (fun n c => 10 * n + digitValue c) 0 =
      Nat.ofDigitChars 10 digits 0 := rfl
  simp only [hend, Bool.or_false, decide_eq_true_eq, hvalue]
  congr 1
  rw [keptPort]
  split <;> rfl

theorem readPort_eq_ok {port : Option Nat} (h : readPort scheme cs = .ok (port, rest)) :
    ∃ digits, cs = digits ++ rest ∧ (∀ c ∈ digits, c.isDigit = true) ∧
      ∀ c ∈ rest.head?, endsAuthority true c = true := by
  simp only [readPort, Host.ite_error_eq_ok_iff] at h
  obtain ⟨hends, h⟩ := h
  rw [Bool.or_eq_true, not_or, Option.any_eq_true] at hends
  have hrest : rest = cs.dropWhile Char.isDigit := by
    split at h <;> cases h <;> rfl
  refine ⟨cs.takeWhile Char.isDigit, ?_, fun c => List.mem_takeWhile_imp, fun c hc => ?_⟩
  · rw [hrest, List.takeWhile_append_dropWhile]
  · by_contra hend
    exact hends.2 ⟨c, hrest ▸ hc, by simpa using hend⟩

theorem le_of_readPort {port : Option Nat} (h : readPort scheme cs = .ok (port, rest)) :
    ∀ n ∈ port, n ≤ 65535 := by
  simp only [readPort, Host.ite_error_eq_ok_iff, Bool.or_eq_true, decide_eq_true_eq, not_or,
    not_lt] at h
  obtain ⟨⟨hle, -⟩, h⟩ := h
  rintro n ⟨⟩
  split at h <;> cases h
  exact hle

end Port

section Reader

variable {readName : Host.NameReader} {p : Parts} {raw : String} {u : Url}

def readHost (readName : Host.NameReader) (web : Bool) (cs : List Char) :
    Except UrlError Host :=
  if web then Host.readDomain readName cs else Host.readOpaque cs

def Parts.readPort (p : Parts) : Except UrlError (Option Nat) :=
  match p.port with
  | none => .ok none
  | some digits =>
      if 65535 < Nat.ofDigitChars 10 digits 0 then .error .port
      else .ok (keptPort p.schemeName digits)

theorem Parts.Delimited.mem_userText (h : p.Delimited) {c : Char} (hc : c ∈ p.userText) :
    c = '@' ∨ endsAuthority p.web c = false := by
  rw [Parts.userText] at hc
  cases huser : p.user with
  | none =>
      rw [huser] at hc
      cases hc
  | some user =>
      rw [huser, Option.map_some, Option.getD_some, List.mem_append, List.mem_singleton] at hc
      exact hc.symm.imp_right (h.user user huser c)

theorem Parts.Delimited.mem_portText (h : p.Delimited) {c : Char} (hc : c ∈ p.portText) :
    c = ':' ∨ c.isDigit = true := by
  rw [Parts.portText] at hc
  cases hport : p.port with
  | none =>
      rw [hport] at hc
      cases hc
  | some digits =>
      rw [hport, Option.map_some, Option.getD_some, List.mem_cons] at hc
      exact hc.imp_right (h.port digits hport c)

theorem Parts.Delimited.authority_eq (h : p.Delimited) {c : Char} (hc : c ∈ p.authority) :
    endsAuthority p.web c = false := by
  have hbetween : endsAuthority p.web '@' = false ∧ endsAuthority p.web ':' = false := by
    cases p.web <;> decide
  rw [Parts.authority, List.mem_append, List.mem_append] at hc
  rcases hc with hc | hc | hc
  · rcases h.mem_userText hc with rfl | hend
    · exact hbetween.1
    · exact hend
  · exact h.host.endsAuthority_eq hc
  · rcases h.mem_portText hc with rfl | hdigit
    · exact hbetween.2
    · rw [Bool.eq_false_iff]
      intro hend
      rw [not_isDigit_of_endsAuthority hend] at hdigit
      cases hdigit

theorem Parts.Delimited.skipUser_eq (h : p.Delimited) :
    ∃ hasUser, skipUser p.web (p.authority ++ p.rest) =
      .ok (hasUser, p.host ++ (p.portText ++ p.rest)) := by
  have hne : (p.host ++ (p.portText ++ p.rest)).takeWhile (!endsAuthority p.web ·) ≠ [] := by
    obtain ⟨c, cs, hhost⟩ := List.exists_cons_of_ne_nil h.host.ne_nil
    have hend : endsAuthority p.web c = false :=
      h.host.endsAuthority_eq (hhost ▸ List.mem_cons_self)
    rw [hhost, List.cons_append, List.takeWhile_cons, hend]
    exact List.cons_ne_nil _ _
  rw [Parts.authority, Parts.userText, List.append_assoc, List.append_assoc]
  cases huser : p.user with
  | none => exact ⟨false, skipUser_of_notMem h.last⟩
  | some user =>
      rw [Option.map_some, Option.getD_some, List.append_assoc, List.singleton_append]
      exact skipUser_append (h.user user huser) h.last hne

theorem Parts.Delimited.cutHost_eq (h : p.Delimited) :
    cutHost p.web false (p.host ++ (p.portText ++ p.rest)) = (p.host, p.portText ++ p.rest) := by
  apply h.host.cutHost_append
  intro c hc
  have hrest := h.rest c
  cases hport : p.port with
  | none =>
      rw [Parts.portText, hport] at hc
      rw [hport, Option.isSome_none, Bool.or_false] at hrest
      exact .inl (hrest hc)
  | some digits =>
      rw [Parts.portText, hport] at hc
      exact .inr (Option.some.inj hc).symm

theorem Parts.Delimited.readPort_bind (h : p.Delimited)
    (next : Option Nat × List Char → Except UrlError Url) :
    (match p.portText ++ p.rest with
      | ':' :: rest => (Url.readPort p.schemeName rest).bind next
      | _ => next (none, p.portText ++ p.rest)) =
      p.readPort.bind fun port => next (port, p.rest) := by
  rw [Parts.portText, Parts.readPort]
  have hrest := h.rest
  cases hport : p.port with
  | none =>
      rw [hport, Option.isSome_none, Bool.or_false] at hrest
      rw [Option.map_none, Option.getD_none, List.nil_append]
      split
      · rename_i rest heq
        rw [heq] at hrest
        have hcolon : ∀ web, endsAuthority web ':' = false := by decide
        have hend := hrest ':' rfl
        rw [hcolon] at hend
        cases hend
      · rfl
  | some digits =>
      rw [hport, Option.isSome_some, Bool.or_true] at hrest
      have hread := readPort_append p.schemeName (h.port digits hport) hrest
      show (Url.readPort p.schemeName (digits ++ p.rest)).bind next = _
      rw [hread]
      dsimp only
      split <;> rfl

theorem readAuthority_of_delimited (h : p.Delimited) (hfile : p.schemeName ≠ "file") :
    readAuthority readName p.schemeName (p.authority ++ p.rest) =
      (readHost readName (isWeb p.schemeName) p.host).bind fun host =>
        p.readPort.bind fun port => .ok ⟨p.schemeName, some host, port,
          String.ofList (pathAfterAuthority (isWeb p.schemeName) p.rest)⟩ := by
  have hweb : p.web = isWeb p.schemeName := by rw [Parts.web, beq_false_of_ne hfile, Bool.false_or]
  obtain ⟨hasUser, hskip⟩ := h.skipUser_eq
  have hcut := h.cutHost_eq
  have hhost : p.host.isEmpty = false := List.isEmpty_eq_false_iff.2 h.host.ne_nil
  rw [hweb] at hskip hcut
  rw [readAuthority, hskip, readHost]
  simp only [bind, Except.bind, hcut, hhost, Bool.false_and, Bool.false_eq_true, if_false]
  by_cases hw : isWeb p.schemeName = true
  · rw [if_pos hw, if_pos hw]
    cases Host.readDomain readName p.host with
    | error e => rfl
    | ok host => exact h.readPort_bind _
  · rw [if_neg hw, if_neg hw]
    cases Host.readOpaque p.host with
    | error e => rfl
    | ok host => exact h.readPort_bind _

theorem Parts.Delimited.dropWhile_slashes (h : p.Delimited) (hweb : isWeb p.schemeName = true) :
    (p.slashes ++ (p.authority ++ p.rest)).dropWhile (Path.isSlash true) =
      p.authority ++ p.rest := by
  have hslash {c : Char} (hc : endsAuthority p.web c = false) : Path.isSlash true c = false := by
    rw [Parts.web, hweb, Bool.or_true, endsAuthority, Bool.or_eq_false_iff] at hc
    exact hc.1
  apply dropWhile_append_stop (h.slashes.of_web hweb)
  intro c hc
  obtain ⟨d, ds, hhost⟩ := List.exists_cons_of_ne_nil h.host.ne_nil
  have hd := hslash (h.host.endsAuthority_eq (hhost ▸ List.mem_cons_self))
  rw [Parts.authority, Parts.userText, hhost] at hc
  cases huser : p.user with
  | none =>
      rw [huser] at hc
      exact Option.some.inj hc ▸ hd
  | some user =>
      rw [huser] at hc
      cases user with
      | nil =>
          rw [← Option.some.inj hc]
          decide
      | cons e user =>
          rw [← Option.some.inj hc]
          exact hslash (h.user _ huser e List.mem_cons_self)

theorem Parts.Writes.scheme?_eq (h : p.Writes raw) :
    scheme? (stripped raw.toList) = some (p.schemeName, p.slashes ++ (p.authority ++ p.rest)) := by
  rw [h.text, Parts.text]
  exact scheme?_eq_some_iff.2 ⟨p.scheme, h.delimited.letter, h.delimited.scheme, rfl, rfl⟩

/-- What is read is read part by part. -/
theorem readWith_of_writes (h : p.Writes raw) (hfile : p.schemeName ≠ "file") :
    readWith readName raw =
      (readHost readName (isWeb p.schemeName) p.host).bind fun host =>
        p.readPort.bind fun port => .ok ⟨p.schemeName, some host, port,
          String.ofList (pathAfterAuthority (isWeb p.schemeName) p.rest)⟩ := by
  rw [readWith, h.scheme?_eq]
  simp only [hfile, if_false]
  split
  · rename_i hweb
    rw [h.delimited.dropWhile_slashes hweb, readAuthority_of_delimited h.delimited hfile]
  · rename_i hweb
    rw [h.delimited.slashes.eq_two hfile (Bool.eq_false_iff.2 hweb)]
    exact readAuthority_of_delimited h.delimited hfile

theorem readWith_eq_ok_iff (h : p.Writes raw) (hfile : p.schemeName ≠ "file") :
    readWith readName raw = .ok u ↔
      ∃ host port, readHost readName (isWeb p.schemeName) p.host = .ok host ∧
        p.readPort = .ok port ∧ u = ⟨p.schemeName, some host, port,
          String.ofList (pathAfterAuthority (isWeb p.schemeName) p.rest)⟩ := by
  rw [readWith_of_writes h hfile]
  cases readHost readName (isWeb p.schemeName) p.host with
  | error e => simp [Except.bind]
  | ok host =>
      cases p.readPort with
      | error e => simp [Except.bind]
      | ok port => simp [Except.bind, eq_comm]

def Parts.ofHostPort (slashes host digits : List Char) : Parts where
  scheme := "http".toList
  slashes
  user := none
  host
  port := some digits
  rest := []

theorem Parts.delimited_ofHostPort {slashes host digits : List Char}
    (hslashes : ∀ c ∈ slashes, Path.isSlash true c = true) (hhost : Host.IsWritten host)
    (hdigits : ∀ c ∈ digits, c.isDigit = true) : (ofHostPort slashes host digits).Delimited where
  letter := rfl
  scheme := Text.forall_mem_of_all rfl
  slashes := .web rfl hslashes
  user := by
    rintro user ⟨⟩
  host := hhost
  port := by
    rintro ds ⟨⟩
    exact hdigits
  last := by
    intro hmem
    rcases List.mem_append.1 ((List.takeWhile_sublist _).subset hmem) with hat | hat
    · exact hhost.at_notMem hat
    · have hport : '@' ∈ (':' :: digits) ++ [] := hat
      rw [List.append_nil] at hport
      rcases List.mem_cons.1 hport with heq | hdigit
      · exact absurd heq (by decide)
      · exact absurd (hdigits '@' hdigit) (by decide)
  rest := by
    rintro c ⟨⟩

theorem Parts.text_ofHostPort (slashes host digits : List Char) :
    (ofHostPort slashes host digits).text = "http:".toList ++ (slashes ++ (host ++ ':' :: digits)) := by
  show "http".toList ++ ':' :: (slashes ++ (([] ++ (host ++ ':' :: digits)) ++ [])) = _
  rw [List.append_nil]
  rfl

end Reader

end TracerSettings.Url
