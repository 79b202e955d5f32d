import TracerSettings.Proofs.Config.Provenance
import TracerSettings.Proofs.Config.Reports
import TracerSettings.Proofs.Number.Integer

namespace TracerSettings

/-- A value that is named in a first place, or else in a second one, or else built in. -/
inductive FallsBack {α : Type} (named named' : α → Prop) (builtIn : α) : α → Prop
  | first {a : α} (h : named a) : FallsBack named named' builtIn a
  | second {a : α} (hfirst : ∀ a, ¬named a) (h : named' a) : FallsBack named named' builtIn a
  | neither (hfirst : ∀ a, ¬named a) (hsecond : ∀ a, ¬named' a) :
      FallsBack named named' builtIn builtIn

theorem fallsBack_getD {α : Type} {named named' : α → Prop} {x y : Option α}
    (hx : ∀ a, x = some a ↔ named a) (hy : ∀ a, y = some a ↔ named' a) (builtIn : α) :
    FallsBack named named' builtIn ((x.or y).getD builtIn) := by
  cases x with
  | some a => exact .first ((hx a).1 rfl)
  | none =>
      have hfirst (a : α) : ¬named a := by
        rw [← hx]
        exact Option.some_ne_none a ∘ Eq.symm
      cases y with
      | some a => exact .second hfirst ((hy a).1 rfl)
      | none =>
          refine .neither hfirst fun a => ?_
          rw [← hy]
          exact Option.some_ne_none a ∘ Eq.symm

theorem fallsBack_false_getD {α : Type} {named : α → Prop} {x : Option α}
    (hx : ∀ a, x = some a ↔ named a) (builtIn : α) :
    FallsBack named (fun _ => False) builtIn (x.getD builtIn) := by
  have hnone (a : α) : none = some a ↔ False := by simp
  have h := fallsBack_getD hx hnone builtIn
  rwa [Option.or_none] at h

namespace Agent

section Parts

variable (readUrl : String → Except UrlError Url) (st : Stack)

structure UrlReads (raw : String) (u : Url) : Prop where
  told : st.Tells .agentUrl raw
  read : readUrl raw = .ok u

inductive UrlHost : String → Prop
  | intro {raw : String} {u : Url} {host : Url.Host} (h : UrlReads readUrl st raw u)
      (hhost : u.host = some host) (hne : host.text ≠ "") : UrlHost host.text

/-- The port of the URL: one that the reader gives, or the scheme's own if it is written. -/
inductive UrlPort : Nat → Prop
  | given {raw : String} {u : Url} {port : Nat} (h : UrlReads readUrl st raw u)
      (hport : u.port = some port) : UrlPort port
  | schemes {raw : String} {u : Url} {port : Nat} (h : UrlReads readUrl st raw u)
      (hport : u.port = none) (hwritten : Endpoint.writesPort raw = true)
      (hscheme : Url.schemePort u.scheme = some port) : UrlPort port

def UrlNamesBoth : Prop := (∃ host, UrlHost readUrl st host) ∧ ∃ port, UrlPort readUrl st port

inductive UrlSocket : String → Prop
  | intro {raw : String} {u : Url} (h : UrlReads readUrl st raw u) (hunix : u.scheme = "unix") :
      UrlSocket u.path

/-- The port of its own setting, where that is written as a number of 16 bits. -/
def OwnPort (port : Nat) : Prop :=
  ∃ raw, st.Tells .agentPort raw ∧ IsUnsigned raw.toList port ∧ port ≤ 65535

end Parts

variable {readUrl : String → Except UrlError Url} {st : Stack} {raw : String} {u : Url}

def written (readUrl : String → Except UrlError Url) (st : Stack) : Endpoint :=
  (writtenEndpoint readUrl (st.text? .agentUrl).value).value

theorem UrlReads.unique {raw' : String} {u' : Url} (h : UrlReads readUrl st raw u)
    (h' : UrlReads readUrl st raw' u') : raw = raw' ∧ u = u' := by
  obtain rfl := h.told.unique h'.told
  exact ⟨rfl, Except.ok.inj (h.read.symm.trans h'.read)⟩

theorem UrlReads.not_urlSocket (h : UrlReads readUrl st raw u) (hunix : u.scheme ≠ "unix")
    (path : String) : ¬UrlSocket readUrl st path := by
  rintro ⟨h', hunix'⟩
  obtain ⟨-, rfl⟩ := h.unique h'
  exact hunix hunix'

theorem UrlReads.written_eq (h : UrlReads readUrl st raw u) :
    written readUrl st = .ofUrl raw u := by
  rw [written, Stack.value_text?_eq_some_iff.2 h.told, writtenEndpoint]
  simp only [h.read, Noted.value_pure]

theorem written_eq_unknown (h : ∀ raw u, ¬UrlReads readUrl st raw u) :
    written readUrl st = .unknown := by
  rw [written]
  cases hraw : (st.text? .agentUrl).value with
  | none => rfl
  | some raw =>
      rw [writtenEndpoint]
      cases hread : readUrl raw with
      | ok u => exact absurd ⟨Stack.value_text?_eq_some_iff.1 hraw, hread⟩ (h raw u)
      | error e => rfl

theorem part_written_eq_some_iff {α : Type} {part : Endpoint → Option α}
    (hpart : part .unknown = none) {a : α} :
    part (written readUrl st) = some a ↔
      ∃ raw u, UrlReads readUrl st raw u ∧ part (.ofUrl raw u) = some a := by
  constructor
  · intro ha
    by_cases h : ∃ raw u, UrlReads readUrl st raw u
    · obtain ⟨raw, u, h⟩ := h
      exact ⟨raw, u, h, h.written_eq ▸ ha⟩
    · rw [written_eq_unknown fun raw u hread => h ⟨raw, u, hread⟩, hpart] at ha
      cases ha
  · rintro ⟨raw, u, h, ha⟩
    rw [h.written_eq, ha]

theorem host_written_eq_some_iff {host : String} :
    (written readUrl st).host = some host ↔ UrlHost readUrl st host := by
  rw [part_written_eq_some_iff rfl]
  simp only [Endpoint.ofUrl, Option.filter_eq_some_iff, Option.map_eq_some_iff, bne_iff_ne]
  constructor
  · rintro ⟨raw, u, h, ⟨name, hname, rfl⟩, hne⟩
    exact .intro h hname hne
  · rintro ⟨h, hname, hne⟩
    exact ⟨_, _, h, ⟨_, hname, rfl⟩, hne⟩

theorem port_written_eq_some_iff {port : Nat} :
    (written readUrl st).port = some port ↔ UrlPort readUrl st port := by
  rw [part_written_eq_some_iff rfl]
  simp only [Endpoint.ofUrl, Url.effectivePort, Option.orElse_eq_orElse, Option.orElse_eq_or,
    Option.or_eq_some_iff, Option.ite_none_right_eq_some]
  constructor
  · rintro ⟨raw, u, h, hport | ⟨hport, hwritten, hport' | ⟨-, hscheme⟩⟩⟩
    · exact .given h hport
    · rw [hport] at hport'
      cases hport'
    · exact .schemes h hport hwritten hscheme
  · rintro (⟨h, hport⟩ | ⟨h, hport, hwritten, hscheme⟩)
    · exact ⟨_, _, h, .inl hport⟩
    · exact ⟨_, _, h, .inr ⟨hport, hwritten, .inr ⟨hport, hscheme⟩⟩⟩

theorem socket_written_eq_some_iff {path : String} :
    (written readUrl st).socket = some path ↔ UrlSocket readUrl st path := by
  rw [part_written_eq_some_iff rfl]
  simp only [Endpoint.ofUrl, Option.ite_none_right_eq_some, Option.some.injEq]
  constructor
  · rintro ⟨raw, u, h, hunix, rfl⟩
    exact .intro h hunix
  · rintro ⟨h, hunix⟩
    exact ⟨_, _, h, hunix, rfl⟩

theorem port_written_eq_none_iff :
    (written readUrl st).port = none ↔ ∀ port, ¬UrlPort readUrl st port := by
  simp only [Option.eq_none_iff_forall_ne_some, ne_eq, port_written_eq_some_iff]

theorem socket_written_eq_none_iff :
    (written readUrl st).socket = none ↔ ∀ path, ¬UrlSocket readUrl st path := by
  simp only [Option.eq_none_iff_forall_ne_some, ne_eq, socket_written_eq_some_iff]

theorem ownPort_iff {port : Nat} :
    OwnPort st port ↔
      ∃ raw, st.Tells .agentPort raw ∧ IntegerRange.word16.read raw = .ok (port : Int) := by
  have hread (raw : String) : IntegerRange.word16.read raw = .ok (port : Int) ↔
      IsUnsigned raw.toList port ∧ port ≤ 65535 := by
    rw [IntegerRange.read_unsigned_eq_ok_iff rfl (by decide)]
    constructor
    · rintro ⟨n, hn, h, hle⟩
      obtain rfl := Int.ofNat_inj.1 hn
      exact ⟨h, Int.ofNat_le.1 hle⟩
    · rintro ⟨h, hle⟩
      exact ⟨port, rfl, h, Int.ofNat_le.2 hle⟩
  simp only [hread, OwnPort]

theorem forall_not_ownPort_iff (htold : st.Tells .agentPort raw) :
    (∀ port, ¬OwnPort st port) ↔ ∃ e, IntegerRange.word16.read raw = .error e := by
  cases hread : IntegerRange.word16.read raw with
  | error e =>
      refine ⟨fun _ => ⟨e, rfl⟩, fun _ port hport => ?_⟩
      obtain ⟨raw', htold', hread'⟩ := ownPort_iff.1 hport
      rw [htold'.unique htold, hread] at hread'
      cases hread'
  | ok i =>
      obtain ⟨port, rfl, -⟩ := (IntegerRange.read_unsigned_eq_ok_iff rfl (by decide)).1 hread
      have hport : OwnPort st port := ownPort_iff.2 ⟨raw, htold, hread⟩
      refine ⟨fun h => absurd hport (h port), ?_⟩
      rintro ⟨e, he⟩
      cases he

theorem value_configuredPort_eq_some_iff {port : Nat} :
    (configuredPort st).value = some port ↔ OwnPort st port := by
  rw [ownPort_iff, configuredPort, Noted.value_bind, Stack.value_resolve]
  simp only [Stack.Tells]
  cases st.find? Setting.agentPort.names with
  | none => simp
  | some hit =>
      simp only [Option.some.injEq, exists_eq_left']
      cases hread : IntegerRange.word16.read hit.value with
      | error e => simp
      | ok i =>
          obtain ⟨n, rfl, -⟩ := (IntegerRange.read_unsigned_eq_ok_iff rfl (by decide)).1 hread
          simp only [Noted.value_pure, Int.toNat_natCast, Option.some.injEq, Except.ok.injEq,
            Int.ofNat_inj]

theorem mem_reports_configuredPort_iff {d : Diagnostic} :
    d ∈ reports (configuredPort st).notes ↔
      ∃ raw e, st.Tells .agentPort raw ∧ IntegerRange.word16.read raw = .error e ∧
        d = .invalidValue Setting.agentPort.key raw e.message := by
  rw [configuredPort, Noted.notes_bind, Stack.value_resolve, reports_append, Stack.reports_resolve]
  simp only [Stack.Tells]
  cases st.find? Setting.agentPort.names with
  | none => simp
  | some hit =>
      simp only [Option.some.injEq, exists_and_left, exists_eq_left']
      cases IntegerRange.word16.read hit.value with
      | error e => simp [report, reports, Note.diagnostic?]
      | ok i => simp

theorem mem_reports_writtenEndpoint_iff {d : Diagnostic} :
    d ∈ reports (writtenEndpoint readUrl (st.text? .agentUrl).value).notes ↔
      ∃ raw e, st.Tells .agentUrl raw ∧ readUrl raw = .error e ∧
        d = .invalidValue Setting.agentUrl.key raw (e.message ++ "; ignoring it") := by
  simp only [← Stack.value_text?_eq_some_iff, writtenEndpoint]
  cases (st.text? .agentUrl).value with
  | none => simp
  | some raw =>
      simp only [Option.some.injEq, exists_and_left, exists_eq_left']
      cases readUrl raw with
      | error e => simp [report, reports, Note.diagnostic?]
      | ok u => simp

theorem complete_of_socket {e : Endpoint} (h : e.socket.isSome = true) :
    complete st e = pure e := by
  rw [complete, if_pos h]

theorem value_complete_of_open {e : Endpoint} (h : e.socket = none) :
    (complete st e).value =
      ⟨e.host.or (st.text? .agentHost).value, e.port.or (configuredPort st).value,
        (st.text? .agentSocket).value.map socketPath⟩ := by
  rw [complete, h]
  cases e.host <;> cases e.port <;> rfl

theorem mem_reports_complete_iff {e : Endpoint} {d : Diagnostic} :
    d ∈ reports (complete st e).notes ↔
      e.socket = none ∧ e.port = none ∧ d ∈ reports (configuredPort st).notes := by
  rw [complete]
  cases e.socket with
  | some path => simp
  | none => cases e.host <;> cases e.port <;> simp [Stack.reports_text?]

theorem setting_of_mem_reports_resolveTimeout {d : Diagnostic}
    (h : d ∈ reports (resolveTimeout st).notes) : d.setting = "trace.agent.timeout" := by
  have hreports : (resolveTimeout st).ReportsOn [.agentTimeout] := by simp [resolveTimeout]
  obtain ⟨s, hs, hname⟩ := (hreports d h).named
  rw [List.mem_singleton.1 hs] at hname
  exact List.mem_singleton.1 hname

theorem mem_reports_resolveWith_iff {d : Diagnostic} :
    d ∈ reports (resolveWith readUrl st).notes ↔
      d ∈ reports (writtenEndpoint readUrl (st.text? .agentUrl).value).notes ∨
        d ∈ reports (complete st (written readUrl st)).notes ∨
          d ∈ reports (resolveTimeout st).notes := by
  simp only [resolveWith, Noted.notes_bind, Noted.notes_pure, reports_append, reports_nil,
    Stack.reports_text?, List.mem_append, List.not_mem_nil, false_or, or_false, written]

theorem resolveWith_congr {st' : Stack}
    (hagree : st.AgreeOn [.agentUrl, .agentPipe, .agentTimeout] st')
    (hcomplete : complete st (written readUrl st) = complete st' (written readUrl st)) :
    resolveWith readUrl st = resolveWith readUrl st' := by
  simp only [Stack.agreeOn_cons] at hagree
  obtain ⟨hurl, hpipe, htimeout, -⟩ := hagree
  rw [written] at hcomplete
  have htimeout' : resolveTimeout st = resolveTimeout st' := by
    simp only [resolveTimeout, Stack.scalar_congr htimeout]
  apply Noted.ext
  · simp only [resolveWith, Noted.value_bind, hcomplete, ← Stack.text?_congr hurl,
      ← Stack.text?_congr hpipe, htimeout']
  · simp only [resolveWith, Noted.notes_bind, hcomplete, ← Stack.text?_congr hurl,
      ← Stack.text?_congr hpipe, htimeout']

def completed (readUrl : String → Except UrlError Url) (st : Stack) : Endpoint :=
  (complete st (written readUrl st)).value

theorem completed_of_socket {path : String} (h : UrlSocket readUrl st path) :
    completed readUrl st = written readUrl st := by
  have hsocket : (written readUrl st).socket.isSome = true := by
    rw [socket_written_eq_some_iff.2 h, Option.isSome_some]
  rw [completed, complete_of_socket hsocket, Noted.value_pure]

theorem isComplete_written_iff :
    (written readUrl st).isComplete = true ↔
      (∃ path, UrlSocket readUrl st path) ∨ UrlNamesBoth readUrl st := by
  simp only [Endpoint.isComplete, Bool.or_eq_true, Bool.and_eq_true, Option.isSome_iff_exists,
    socket_written_eq_some_iff, host_written_eq_some_iff, port_written_eq_some_iff, UrlNamesBoth]

theorem host_resolveWith :
    (resolveWith readUrl st).value.host = (completed readUrl st).host.getD default.host := rfl

theorem port_resolveWith :
    (resolveWith readUrl st).value.port = (completed readUrl st).port.getD default.port := rfl

theorem url_resolveWith_of_isComplete (htold : st.Tells .agentUrl raw)
    (h : (written readUrl st).isComplete = true) : (resolveWith readUrl st).value.url = raw := by
  show (if (written readUrl st).isComplete then (st.text? .agentUrl).value.getD _ else _) = raw
  rw [if_pos h, Stack.value_text?_eq_some_iff.2 htold, Option.getD_some]

theorem url_resolveWith_of_not_isComplete (h : (written readUrl st).isComplete = false) :
    (resolveWith readUrl st).value.url =
      "http://" ++ (resolveWith readUrl st).value.host ++ ":" ++
        toString (resolveWith readUrl st).value.port := by
  show (if (written readUrl st).isComplete then _ else endpointUrl _ _) = _
  rw [h]
  rfl

/-- Under the URL of a socket the settings of the host, the port and the socket are neither noted
nor of any account. -/
structure OfSocketUrl (readUrl : String → Except UrlError Url) (st : Stack) (raw : String)
    (u : Url) : Prop where
  url : (resolveWith readUrl st).value.url = raw
  socket : (resolveWith readUrl st).value.socket = some u.path
  host : FallsBack (UrlHost readUrl st) (fun _ => False) default.host
    (resolveWith readUrl st).value.host
  port : FallsBack (UrlPort readUrl st) (fun _ => False) default.port
    (resolveWith readUrl st).value.port
  collected : ∀ key value origin, .collect key value origin ∈ (resolveWith readUrl st).notes →
    ∀ s ∈ [Setting.agentHost, .agentPort, .agentSocket], key ∉ s.names
  reported : ∀ d ∈ reports (resolveWith readUrl st).notes,
    ∀ s ∈ [Setting.agentHost, .agentPort, .agentSocket], d.setting ∉ s.names
  unread (st' : Stack) (h : st.AgreeOn [.agentUrl, .agentPipe, .agentTimeout] st') :
    resolveWith readUrl st' = resolveWith readUrl st

def rowsBesideSocket : List Row :=
  [⟨.agentUrl, .firstHit none⟩, ⟨.agentPipe, .firstHit none⟩,
    ⟨.agentTimeout, .firstHit (some (Scalar.int64.text default.timeoutSeconds))⟩]

theorem ofSocketUrl (h : UrlReads readUrl st raw u) (hunix : u.scheme = "unix") :
    OfSocketUrl readUrl st raw u := by
  have hsocket : UrlSocket readUrl st u.path := .intro h hunix
  have hwritten := socket_written_eq_some_iff.2 hsocket
  have hcomplete (st' : Stack) : complete st' (written readUrl st) = pure (written readUrl st) :=
    complete_of_socket (by rw [hwritten, Option.isSome_some])
  constructor
  case url =>
    exact url_resolveWith_of_isComplete h.told (isComplete_written_iff.2 (.inl ⟨_, hsocket⟩))
  case socket =>
    show (completed readUrl st).socket = some u.path
    rw [completed_of_socket hsocket, hwritten]
  case host =>
    rw [host_resolveWith, completed_of_socket hsocket]
    exact fallsBack_false_getD (fun _ => host_written_eq_some_iff) _
  case port =>
    rw [port_resolveWith, completed_of_socket hsocket]
    exact fallsBack_false_getD (fun _ => port_written_eq_some_iff) _
  case collected =>
    have hcollects : (resolveWith readUrl st).Collects [] (st.AccountsIn rowsBesideSocket) := by
      rw [written] at hcomplete
      simp [rowsBesideSocket, resolveWith, resolveTimeout, writtenEndpoint_collects, hcomplete]
    have hkeys : ∀ row ∈ rowsBesideSocket, ∀ s ∈ [Setting.agentHost, .agentPort, .agentSocket],
        row.setting.key ∉ s.names := by decide
    intro key value origin hmem
    obtain ⟨_, _, row, hrow, rfl, -⟩ := hcollects.exists_of_mem hmem
    exact hkeys row hrow
  case reported =>
    have hnames : ∀ s ∈ [Setting.agentHost, .agentPort, .agentSocket],
        "trace.agent.timeout" ∉ s.names := by decide
    intro d hd s hs
    rw [mem_reports_resolveWith_iff, hcomplete, mem_reports_writtenEndpoint_iff] at hd
    rcases hd with ⟨raw', e, htold, hread, -⟩ | hd | hd
    · rw [htold.unique h.told, h.read] at hread
      cases hread
    · cases hd
    · rw [setting_of_mem_reports_resolveTimeout hd]
      exact hnames s hs
  case unread =>
    intro st' hagree
    rw [resolveWith_congr hagree (by rw [hcomplete, hcomplete])]

/-- Without the URL of a socket each part is looked up where the URL leaves it open. -/
structure OfParts (readUrl : String → Except UrlError Url) (st : Stack) : Prop where
  host : FallsBack (UrlHost readUrl st) (st.Tells .agentHost) default.host
    (resolveWith readUrl st).value.host
  port : FallsBack (UrlPort readUrl st) (OwnPort st) default.port
    (resolveWith readUrl st).value.port
  socket (path : String) : (resolveWith readUrl st).value.socket = some path ↔
    ∃ raw, st.Tells .agentSocket raw ∧ socketPath raw = path
  kept {raw : String} (hraw : st.Tells .agentUrl raw) (h : UrlNamesBoth readUrl st) :
    (resolveWith readUrl st).value.url = raw
  rebuilt (h : ¬UrlNamesBoth readUrl st) : (resolveWith readUrl st).value.url =
    "http://" ++ (resolveWith readUrl st).value.host ++ ":" ++
      toString (resolveWith readUrl st).value.port
  unchanged {raw : String} (hraw : st.Tells .agentUrl raw)
    (hne : raw ≠ "http://" ++ (resolveWith readUrl st).value.host ++ ":" ++
      toString (resolveWith readUrl st).value.port) :
    (resolveWith readUrl st).value.url = raw ↔ UrlNamesBoth readUrl st

theorem completed_of_open (h : ∀ path, ¬UrlSocket readUrl st path) :
    completed readUrl st =
      ⟨(written readUrl st).host.or (st.text? .agentHost).value,
        (written readUrl st).port.or (configuredPort st).value,
        (st.text? .agentSocket).value.map socketPath⟩ :=
  value_complete_of_open (socket_written_eq_none_iff.2 h)

theorem host_resolveWith_of_urlHost (hopen : ∀ path, ¬UrlSocket readUrl st path) {host : String}
    (h : UrlHost readUrl st host) : (resolveWith readUrl st).value.host = host := by
  rw [host_resolveWith, completed_of_open hopen, host_written_eq_some_iff.2 h]
  rfl

theorem port_resolveWith_of_urlPort (hopen : ∀ path, ¬UrlSocket readUrl st path) {port : Nat}
    (h : UrlPort readUrl st port) : (resolveWith readUrl st).value.port = port := by
  rw [port_resolveWith, completed_of_open hopen, port_written_eq_some_iff.2 h]
  rfl

theorem ofParts (h : ∀ path, ¬UrlSocket readUrl st path) : OfParts readUrl st := by
  have hkept {raw : String} (hraw : st.Tells .agentUrl raw) (hboth : UrlNamesBoth readUrl st) :
      (resolveWith readUrl st).value.url = raw :=
    url_resolveWith_of_isComplete hraw (isComplete_written_iff.2 (.inr hboth))
  have hrebuilt (hboth : ¬UrlNamesBoth readUrl st) : (resolveWith readUrl st).value.url =
      "http://" ++ (resolveWith readUrl st).value.host ++ ":" ++
        toString (resolveWith readUrl st).value.port := by
    apply url_resolveWith_of_not_isComplete
    rw [Bool.eq_false_iff, ne_eq, isComplete_written_iff]
    exact not_or.2 ⟨not_exists.2 h, hboth⟩
  constructor
  case host =>
    rw [host_resolveWith, completed_of_open h]
    exact fallsBack_getD (fun _ => host_written_eq_some_iff)
      (fun _ => Stack.value_text?_eq_some_iff) _
  case port =>
    rw [port_resolveWith, completed_of_open h]
    exact fallsBack_getD (fun _ => port_written_eq_some_iff)
      (fun _ => value_configuredPort_eq_some_iff) _
  case socket =>
    intro path
    show (completed readUrl st).socket = some path ↔ _
    rw [completed_of_open h, Option.map_eq_some_iff]
    simp only [Stack.value_text?_eq_some_iff]
  case kept => exact hkept
  case rebuilt => exact hrebuilt
  case unchanged =>
    intro raw hraw hne
    refine ⟨fun hurl => ?_, hkept hraw⟩
    by_contra hboth
    exact hne (hurl.symm.trans (hrebuilt hboth))

structure Unnamed (readUrl : String → Except UrlError Url) (st : Stack) : Prop where
  urlHost : ∀ host, ¬UrlHost readUrl st host
  urlPort : ∀ port, ¬UrlPort readUrl st port
  urlSocket : ∀ path, ¬UrlSocket readUrl st path
  host : ∀ value, ¬st.Tells .agentHost value
  port : ∀ port, ¬OwnPort st port
  socket : ∀ value, ¬st.Tells .agentSocket value
  pipe : ∀ value, ¬st.Tells .agentPipe value

theorem usesDefault_resolveWith_iff :
    (resolveWith readUrl st).value.usesDefault = true ↔ Unnamed readUrl st := by
  show (((completed readUrl st).host.isNone && (completed readUrl st).port.isNone &&
    (completed readUrl st).socket.isNone && (st.text? .agentPipe).value.isNone) = true) ↔ _
  simp only [Bool.and_eq_true, Option.isNone_iff_eq_none]
  by_cases h : ∃ path, UrlSocket readUrl st path
  · obtain ⟨path, h⟩ := h
    rw [completed_of_socket h, socket_written_eq_some_iff.2 h]
    constructor
    · rintro ⟨⟨-, hsocket⟩, -⟩
      cases hsocket
    · exact fun hunnamed => absurd h (hunnamed.urlSocket path)
  · rw [completed_of_open (not_exists.1 h)]
    simp only [Option.or_eq_none_iff, Option.map_eq_none_iff]
    simp only [Option.eq_none_iff_forall_ne_some, ne_eq, host_written_eq_some_iff,
      port_written_eq_some_iff, Stack.value_text?_eq_some_iff, value_configuredPort_eq_some_iff]
    constructor
    · rintro ⟨⟨⟨⟨hurlHost, hhost⟩, hurlPort, hport⟩, hsocket⟩, hpipe⟩
      exact ⟨hurlHost, hurlPort, not_exists.1 h, hhost, hport, hsocket, hpipe⟩
    · rintro ⟨hurlHost, hurlPort, -, hhost, hport, hsocket, hpipe⟩
      exact ⟨⟨⟨⟨hurlHost, hhost⟩, hurlPort, hport⟩, hsocket⟩, hpipe⟩

theorem invalidUrl_mem_reports_iff {value reason : String} :
    .invalidValue Setting.agentUrl.key value reason ∈ reports (resolveWith readUrl st).notes ↔
      st.Tells .agentUrl value ∧
        ∃ e, readUrl value = .error e ∧ reason = e.message ++ "; ignoring it" := by
  have hport : "trace.agent.url" ≠ "trace.agent.port" := by decide
  have htimeout : "trace.agent.url" ≠ "trace.agent.timeout" := by decide
  rw [mem_reports_resolveWith_iff, mem_reports_writtenEndpoint_iff, mem_reports_complete_iff,
    mem_reports_configuredPort_iff]
  constructor
  · rintro (⟨raw, e, htold, hread, hd⟩ | ⟨-, -, raw, e, -, -, hd⟩ | hd)
    · cases hd
      exact ⟨htold, e, hread, rfl⟩
    · exact absurd (congrArg Diagnostic.setting hd) hport
    · exact absurd (setting_of_mem_reports_resolveTimeout hd) htimeout
  · rintro ⟨htold, e, hread, rfl⟩
    exact .inl ⟨value, e, htold, hread, rfl⟩

theorem invalidPort_mem_reports_iff {value reason : String} :
    .invalidValue Setting.agentPort.key value reason ∈ reports (resolveWith readUrl st).notes ↔
      (written readUrl st).socket = none ∧ (written readUrl st).port = none ∧
        st.Tells .agentPort value ∧
          ∃ e, IntegerRange.word16.read value = .error e ∧ reason = e.message := by
  have hurl : "trace.agent.port" ≠ "trace.agent.url" := by decide
  have htimeout : "trace.agent.port" ≠ "trace.agent.timeout" := by decide
  rw [mem_reports_resolveWith_iff, mem_reports_writtenEndpoint_iff, mem_reports_complete_iff,
    mem_reports_configuredPort_iff]
  constructor
  · rintro (⟨raw, e, -, -, hd⟩ | ⟨hsocket, hport, raw, e, htold, hread, hd⟩ | hd)
    · exact absurd (congrArg Diagnostic.setting hd) hurl
    · cases hd
      exact ⟨hsocket, hport, htold, e, hread, rfl⟩
    · exact absurd (setting_of_mem_reports_resolveTimeout hd) htimeout
  · rintro ⟨hsocket, hport, htold, e, hread, rfl⟩
    exact .inr (.inl ⟨hsocket, hport, value, e, htold, hread, rfl⟩)

/-- How the endpoint of the agent comes about, and what is reported of it. -/
structure DerivesEndpoint (readUrl : String → Except UrlError Url) (st : Stack) : Prop where
  ofSocketUrl {raw : String} {u : Url} (h : UrlReads readUrl st raw u) (hunix : u.scheme = "unix") :
    OfSocketUrl readUrl st raw u
  ofParts (h : ∀ path, ¬UrlSocket readUrl st path) : OfParts readUrl st
  pipe (name : String) :
    (resolveWith readUrl st).value.pipe = some name ↔ st.Tells .agentPipe name
  usesDefault : (resolveWith readUrl st).value.usesDefault = true ↔ Unnamed readUrl st
  urlReported (value : String) :
    (∃ reason, .invalidValue "trace.agent.url" value reason ∈
        reports (resolveWith readUrl st).notes) ↔
      st.Tells .agentUrl value ∧ ∃ e, readUrl value = .error e
  portReported (value : String) :
    (∃ reason, .invalidValue "trace.agent.port" value reason ∈
        reports (resolveWith readUrl st).notes) ↔
      (∀ path, ¬UrlSocket readUrl st path) ∧ (∀ port, ¬UrlPort readUrl st port) ∧
        st.Tells .agentPort value ∧ ∀ port, ¬OwnPort st port

theorem resolveWith_derivesEndpoint (readUrl : String → Except UrlError Url)
    (sources : List Source) : DerivesEndpoint readUrl (.ofSources sources) := by
  constructor
  case ofSocketUrl => exact Agent.ofSocketUrl
  case ofParts => exact Agent.ofParts
  case pipe => exact fun name => Stack.value_text?_eq_some_iff
  case usesDefault => exact usesDefault_resolveWith_iff
  case urlReported =>
    intro value
    constructor
    · rintro ⟨reason, hd⟩
      obtain ⟨htold, e, hread, -⟩ := invalidUrl_mem_reports_iff.1 hd
      exact ⟨htold, e, hread⟩
    · rintro ⟨htold, e, hread⟩
      exact ⟨_, invalidUrl_mem_reports_iff.2 ⟨htold, e, hread, rfl⟩⟩
  case portReported =>
    intro value
    constructor
    · rintro ⟨reason, hd⟩
      obtain ⟨hsocket, hport, htold, e, hread, -⟩ := invalidPort_mem_reports_iff.1 hd
      exact ⟨socket_written_eq_none_iff.1 hsocket, port_written_eq_none_iff.1 hport, htold,
        (forall_not_ownPort_iff htold).2 ⟨e, hread⟩⟩
    · rintro ⟨hsocket, hport, htold, hown⟩
      obtain ⟨e, hread⟩ := (forall_not_ownPort_iff htold).1 hown
      exact ⟨_, invalidPort_mem_reports_iff.2 ⟨socket_written_eq_none_iff.2 hsocket,
        port_written_eq_none_iff.2 hport, htold, e, hread, rfl⟩⟩

end Agent

end TracerSettings
