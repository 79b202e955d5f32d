import TracerSettings.Proofs.Agent.Endpoint
import TracerSettings.Proofs.Url.Written

namespace TracerSettings

open Url (Parts)

/-- The authority stands in the text behind the first `://`, and behind it stands an end. -/
def Url.Parts.StandsIn (p : Parts) (raw : String) : Prop :=
  ∃ front back, ':' ∉ front ∧ raw.toList = front ++ ':' :: '/' :: '/' :: (p.authority ++ back) ∧
    ∀ c ∈ back.head?, c = '/' ∨ c = '?' ∨ c = '#'

namespace Endpoint

theorem afterSchemeMark_append {front : List Char} (h : ':' ∉ front) (rest : List Char) :
    afterSchemeMark (front ++ ':' :: '/' :: '/' :: rest) = some rest := by
  induction front with
  | nil => rfl
  | cons c front ih =>
      rw [List.mem_cons, not_or] at h
      rw [List.cons_append, afterSchemeMark, ih h.2]
      intro rest' hc
      exact absurd hc (Ne.symm h.1)

theorem writesPort_eq {p : Parts} {raw : String} (h : p.Delimited) (hin : p.StandsIn raw) :
    writesPort raw = (Text.cutLast ':' (p.host ++ p.portText)).any fun cut =>
      !cut.2.isEmpty && cut.2.all Char.isDigit &&
        (cut.1.head? != some '[' || cut.1.getLast? == some ']') := by
  obtain ⟨front, back, hfront, hraw, hback⟩ := hin
  have hauthority : (p.authority ++ back).takeWhile (fun c => c != '/' && c != '?' && c != '#') =
      p.authority := by
    apply Text.takeWhile_append_stop
    · intro c hc
      have hend := h.authority_eq hc
      simp only [Url.endsAuthority, Url.Path.isSlash, Url.Path.isQueryMark, Bool.or_eq_false_iff] at hend
      simp only [bne, hend.1.1, hend.2.1, hend.2.2, Bool.not_false, Bool.and_self]
    · intro c hc
      rcases hback c hc with rfl | rfl | rfl <;> rfl
  have hat : '@' ∉ p.host ++ p.portText := by
    rw [List.mem_append, not_or]
    exact ⟨h.host.at_notMem, fun hmem => absurd (h.mem_portText hmem) (by decide)⟩
  have huser : ((Text.cutLast '@' p.authority).map Prod.snd).getD p.authority =
      p.host ++ p.portText := by
    rw [Parts.authority, Parts.userText]
    cases p.user with
    | none =>
        rw [Option.map_none, Option.getD_none, List.nil_append, Text.cutLast_eq_none_iff.2 hat]
        rfl
    | some user =>
        rw [Option.map_some, Option.getD_some, List.append_assoc, List.singleton_append,
          Text.cutLast_append hat]
        rfl
  rw [writesPort, hraw, afterSchemeMark_append hfront, Option.getD_some]
  simp only [hauthority, huser]
  cases Text.cutLast ':' (p.host ++ p.portText) <;> rfl

theorem all_isDigit_of_isWritten {cs left right : List Char} (h : Url.Host.IsWritten cs)
    (hcut : Text.cutLast ':' cs = some (left, right)) : right.all Char.isDigit = false := by
  obtain ⟨-, rfl⟩ := Text.cutLast_eq_some_iff.1 hcut
  rw [Bool.eq_false_iff]
  intro hdigits
  exact Url.not_isWritten_append (List.all_eq_true.1 hdigits) h

theorem writesPort_of_standsIn {p : Parts} {raw : String} (h : p.Delimited)
    (hin : p.StandsIn raw) : writesPort raw = p.port.any (!·.isEmpty) := by
  rw [writesPort_eq h hin, Parts.portText]
  cases hport : p.port with
  | none =>
      rw [Option.map_none, Option.getD_none, List.append_nil, Option.any_none]
      cases hcut : Text.cutLast ':' p.host with
      | none => rfl
      | some cut =>
          rw [Option.any_some, all_isDigit_of_isWritten h.host hcut, Bool.and_false, Bool.false_and]
  | some digits =>
      have hdigits := h.port digits hport
      have hcolon : ':' ∉ digits := fun hmem => absurd (hdigits ':' hmem) (by decide)
      rw [Option.map_some, Option.getD_some, Text.cutLast_append hcolon]
      simp only [List.all_eq_true.2 hdigits, h.host.closed, Bool.and_true, Option.any_some]

end Endpoint

namespace Agent

variable {readName : Url.Host.NameReader} {st : Stack} {raw : String} {u : Url}

/-- What becomes of the port in the URL of the agent. -/
structure HonoursPort (readName : Url.Host.NameReader) (st : Stack) (raw : String)
    (u : Url) : Prop where
  cut : ∃ p : Parts, p.Writes raw
  written {p : Parts} {digits : List Char} {port : Nat} (h : p.Writes raw)
    (hport : p.port = some digits) (hdigits : IsNumeral digits port)
    (hown : Url.schemePort u.scheme = some port → p.StandsIn raw) :
    (resolveWith (Url.readWith readName) st).value.port = port ∧
      (resolveWith (Url.readWith readName) st).value.url = raw
  unwritten {p : Parts} (h : p.Writes raw) (hport : p.port.getD [] = [])
    (hown : Url.schemePort u.scheme ≠ none → p.StandsIn raw) :
    FallsBack (OwnPort st) (fun _ => False) default.port
      (resolveWith (Url.readWith readName) st).value.port

theorem urlPort_of_written (hname : Url.Host.IsNameReader readName)
    (h : UrlReads (Url.readWith readName) st raw u) {host : Url.Host} (hhost : u.host = some host)
    {p : Parts} (hp : p.Writes raw) {digits : List Char} {port : Nat} (hport : p.port = some digits)
    (hdigits : IsNumeral digits port)
    (hown : Url.schemePort u.scheme = some port → p.StandsIn raw) :
    UrlPort (Url.readWith readName) st port := by
  obtain ⟨hscheme, hkept⟩ := hp.port_eq hname h.read hhost
  have hempty : digits.isEmpty = false := List.isEmpty_eq_false_iff.2 hdigits.nonempty
  rw [hport, Option.bind_some, Url.keptPort, hempty, Bool.false_or, hdigits.value, ← hscheme] at hkept
  by_cases hsame : Url.schemePort u.scheme = some port
  · rw [decide_eq_true hsame, if_pos rfl] at hkept
    refine .schemes h hkept ?_ hsame
    rw [Endpoint.writesPort_of_standsIn hp.delimited (hown hsame), hport, Option.any_some, hempty,
      Bool.not_false]
  · rw [decide_eq_false hsame, if_neg Bool.false_ne_true] at hkept
    exact .given h hkept

theorem not_urlPort_of_unwritten (hname : Url.Host.IsNameReader readName)
    (h : UrlReads (Url.readWith readName) st raw u) {host : Url.Host} (hhost : u.host = some host)
    {p : Parts} (hp : p.Writes raw) (hport : p.port.getD [] = [])
    (hown : Url.schemePort u.scheme ≠ none → p.StandsIn raw) (port : Nat) :
    ¬UrlPort (Url.readWith readName) st port := by
  have hnone : p.port.any (!·.isEmpty) = false := by
    cases hdigits : p.port with
    | none => rfl
    | some digits =>
        rw [hdigits, Option.getD_some] at hport
        rw [hport]
        rfl
  rintro (⟨h', hgiven⟩ | ⟨h', -, hwritten, hscheme⟩)
  · obtain ⟨-, rfl⟩ := h.unique h'
    rw [(hp.port_eq hname h.read hhost).2] at hgiven
    obtain ⟨digits, hdigits, hkept⟩ := Option.bind_eq_some_iff.1 hgiven
    rw [hdigits, Option.getD_some] at hport
    rw [hport] at hkept
    cases hkept
  · obtain ⟨rfl, rfl⟩ := h.unique h'
    have hin : p.StandsIn raw := hown (by rw [hscheme]; exact Option.some_ne_none port)
    rw [Endpoint.writesPort_of_standsIn hp.delimited hin, hnone] at hwritten
    cases hwritten

/-- A port that is written is taken with the URL as it is, and where none is written its own setting
is asked. With a port of the scheme's own the authority has to stand in the text as it is read. -/
theorem resolveWith_honoursPort (hname : Url.Host.IsNameReader readName) (sources : List Source)
    (h : UrlReads (Url.readWith readName) (.ofSources sources) raw u) (hunix : u.scheme ≠ "unix")
    {host : Url.Host} (hhost : u.host = some host) :
    HonoursPort readName (.ofSources sources) raw u := by
  have hopen := h.not_urlSocket hunix
  constructor
  case cut => exact Url.exists_writes hname h.read hhost
  case written =>
    intro p digits port hp hport hdigits hown
    have hnamed := urlPort_of_written hname h hhost hp hport hdigits hown
    have hboth : UrlNamesBoth (Url.readWith readName) (.ofSources sources) :=
      ⟨⟨_, .intro h hhost (Url.text_ne_empty hname h.read hhost)⟩, _, hnamed⟩
    exact ⟨port_resolveWith_of_urlPort hopen hnamed, (ofParts hopen).kept h.told hboth⟩
  case unwritten =>
    intro p hp hport hown
    have hnone := port_written_eq_none_iff.2 (not_urlPort_of_unwritten hname h hhost hp hport hown)
    rw [port_resolveWith, completed_of_open hopen, hnone]
    exact fallsBack_false_getD (fun _ => value_configuredPort_eq_some_iff) _

def ownPortParts (slashes : List Char) : Parts := .ofHostPort slashes "agent".toList "80".toList

theorem delimited_ownPortParts {slashes : List Char}
    (h : ∀ c ∈ slashes, Url.Path.isSlash true c = true) : (ownPortParts slashes).Delimited :=
  Parts.delimited_ofHostPort h (.word (by decide) (Text.forall_mem_of_all (by decide)))
    (Text.forall_mem_of_all (by decide))

def ownPortUrl : Url where
  scheme := "http"
  host := some (.name "agent")
  port := none
  path := "/"

def ownPortSources (url : String) : List Source :=
  [.pairs .override [("trace.agent.url", url), ("trace.agent.port", "7777")]]

theorem resolveWith_ownPort :
    UrlReads Url.read (.ofSources (ownPortSources "http://agent:80")) "http://agent:80" ownPortUrl ∧
      ownPortUrl.scheme ≠ "unix" ∧
      (resolveWith Url.read (.ofSources (ownPortSources "http://agent:80"))).value.port = 80 ∧
      (resolveWith Url.read (.ofSources (ownPortSources "http://agent:80"))).value.url =
        "http://agent:80" := by
  have hreads : UrlReads Url.read (.ofSources (ownPortSources "http://agent:80")) "http://agent:80"
      ownPortUrl :=
    ⟨Stack.value_text?_eq_some_iff.1 (by decide +kernel), by decide +kernel⟩
  have hunix : ownPortUrl.scheme ≠ "unix" := by decide
  have hwrites : (ownPortParts ['/', '/']).Writes "http://agent:80" :=
    ⟨delimited_ownPortParts (Text.forall_mem_of_all rfl), by decide⟩
  have hin : (ownPortParts ['/', '/']).StandsIn "http://agent:80" :=
    ⟨"http".toList, [], by decide, by decide, by simp⟩
  have hport : IsNumeral "80".toList 80 :=
    ⟨by decide, Text.forall_mem_of_all (by decide), by decide⟩
  have hhonours := resolveWith_honoursPort Url.Host.isNameReader_readName _ hreads hunix rfl
  exact ⟨hreads, hunix, hhonours.written hwrites rfl hport fun _ => hin⟩

/-- With a slash too few the port is written and read, and its own setting wins all the same. -/
theorem resolveWith_hiddenPort :
    UrlReads Url.read (.ofSources (ownPortSources "http:/agent:80")) "http:/agent:80" ownPortUrl ∧
      (ownPortParts ['/']).Writes "http:/agent:80" ∧
      (resolveWith Url.read (.ofSources (ownPortSources "http:/agent:80"))).value.port = 7777 ∧
      (resolveWith Url.read (.ofSources (ownPortSources "http:/agent:80"))).value.url =
        "http://agent:7777" := by
  have hreads : UrlReads Url.read (.ofSources (ownPortSources "http:/agent:80")) "http:/agent:80"
      ownPortUrl :=
    ⟨Stack.value_text?_eq_some_iff.1 (by decide +kernel), by decide +kernel⟩
  have hwrites : (ownPortParts ['/']).Writes "http:/agent:80" :=
    ⟨delimited_ownPortParts (Text.forall_mem_of_all rfl), by decide⟩
  exact ⟨hreads, hwrites, by decide +kernel, by decide +kernel⟩

end Agent

end TracerSettings
