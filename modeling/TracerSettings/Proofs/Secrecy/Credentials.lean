import TracerSettings.Proofs.Config.Reads
import TracerSettings.Proofs.Journal

namespace TracerSettings

/-- Runs with related values and with the same notes, apart from the values of secrets. -/
structure Noted.Alike {α : Type} (R : α → α → Prop) (x y : Noted α) : Prop where
  value : R x.value y.value
  notes : x.notes.map Note.shown = y.notes.map Note.shown

namespace Noted.Alike

variable {α β : Type} {R : α → α → Prop} {S : β → β → Prop} {x y : Noted α}

theorem pure {a b : α} (h : R a b) : Alike R (Pure.pure a) (Pure.pure b) := ⟨h, rfl⟩

theorem of_eq (h : x = y) : Alike Eq x y := h ▸ ⟨rfl, rfl⟩

theorem bind {f g : α → Noted β} (h : Alike R x y) (hf : ∀ a b, R a b → Alike S (f a) (g b)) :
    Alike S (x >>= f) (y >>= g) := by
  obtain ⟨hvalue, hnotes⟩ := hf _ _ h.value
  refine ⟨hvalue, ?_⟩
  rw [notes_bind, notes_bind, List.map_append, List.map_append, h.notes, hnotes]

theorem bind_eq {f g : α → Noted β} (h : x = y) (hf : ∀ a, Alike S (f a) (g a)) :
    Alike S (x >>= f) (y >>= g) :=
  bind (of_eq h) fun a _ hab => hab ▸ hf a

theorem bind_value {f g : α → Noted β} (hf : Alike S (f x.value) (g x.value)) :
    Alike S (x >>= f) (x >>= g) := by
  refine ⟨hf.value, ?_⟩
  rw [notes_bind, notes_bind, List.map_append, List.map_append, hf.notes]

end Noted.Alike

/-- What is at a path in two file systems: the same, or contents that are both text or both not, and
if they are text both blank or both not. A blank file and one that is no text are not alike, for
only the second one is reported. -/
inductive FileSystem.AlikeAt (files files' : FileSystem) (path : String) : Prop
  | same (h : files.read path = files'.read path)
  | contents {bytes bytes' : ByteArray} (h : files.read path = .ok bytes)
      (h' : files'.read path = .ok bytes')
      (text : (String.fromUTF8? bytes).isSome = (String.fromUTF8? bytes').isSome)
      (blank : ((String.fromUTF8? bytes).bind Text.nonBlank).isSome =
        ((String.fromUTF8? bytes').bind Text.nonBlank).isSome)

/-- What is at a path in two file systems, where of different contents it is only known that both
are text with something in it or that neither is. -/
inductive FileSystem.FilledAlikeAt (files files' : FileSystem) (path : String) : Prop
  | same (h : files.read path = files'.read path)
  | contents {bytes bytes' : ByteArray} (h : files.read path = .ok bytes)
      (h' : files'.read path = .ok bytes')
      (filled : ((String.fromUTF8? bytes).bind Text.nonBlank).isSome =
        ((String.fromUTF8? bytes').bind Text.nonBlank).isSome)

theorem FileSystem.AlikeAt.readText {files files' : FileSystem} {path : String}
    (h : files.AlikeAt files' path) :
    files.readText path = files'.readText path ∨
      ∃ content content', files.readText path = .ok content ∧
        files'.readText path = .ok content' ∧
          (Text.nonBlank content).isSome = (Text.nonBlank content').isSome := by
  cases h with
  | same h => exact .inl (by rw [FileSystem.readText, h, FileSystem.readText])
  | @contents bytes bytes' h h' text blank =>
      simp only [FileSystem.readText, h, h']
      cases hbytes : String.fromUTF8? bytes with
      | none =>
          rw [hbytes, Option.isSome_none, eq_comm, Option.isSome_eq_false_iff,
            Option.isNone_iff_eq_none] at text
          rw [text]
          exact .inl rfl
      | some content =>
          rw [hbytes, Option.isSome_some, eq_comm, Option.isSome_iff_exists] at text
          obtain ⟨content', hbytes'⟩ := text
          rw [hbytes, hbytes', Option.bind_some, Option.bind_some] at blank
          rw [hbytes']
          exact .inr ⟨content, content', rfl, rfl, blank⟩

namespace Credentials

inductive KeysAlike : Option String → Option String → Prop
  | absent : KeysAlike none none
  | present {key key' : String} (h : key ≠ "") (h' : key' ≠ "") : KeysAlike (some key) (some key')

namespace KeysAlike

variable {a a' b b' : Option String}

theorem orElse (ha : KeysAlike a a') (hb : KeysAlike b b') : KeysAlike (a <|> b) (a' <|> b') := by
  cases ha with
  | absent => exact hb
  | present h h' => exact .present h h'

theorem masked_eq (h : KeysAlike a a') : masked a = masked a' := by
  cases h <;> rfl

theorem any_eq (h : KeysAlike a a') : a.any (· != "") = a'.any (· != "") := by
  cases h with
  | absent => rfl
  | present h h' => rw [Option.any_some, Option.any_some, bne_iff_ne.2 h, bne_iff_ne.2 h']

theorem of_isSome (h : a.isSome = a'.isSome) (ha : a ≠ some "") (ha' : a' ≠ some "") :
    KeysAlike a a' := by
  cases a with
  | none =>
      cases a' with
      | none => exact .absent
      | some key' => simp at h
  | some key =>
      cases a' with
      | none => simp at h
      | some key' => exact .present (fun hkey => ha (hkey ▸ rfl)) fun hkey => ha' (hkey ▸ rfl)

end KeysAlike

variable {st st' : Stack} {files files' : FileSystem}

/-- Stacks whose hits for a setting have the same origins, but not the same values. -/
def SameOrigins (st st' : Stack) (s : Setting) : Prop :=
  (st.hits s.names).map Hit.origin = (st'.hits s.names).map Hit.origin

theorem SameOrigins.admitting {s : Setting} (h : SameOrigins st st' s)
    (admits : Origin → Bool) : SameOrigins (st.admitting admits) (st'.admitting admits) s := by
  have hfilter := congrArg (List.filter admits) h
  rw [List.filter_map, List.filter_map] at hfilter
  rw [SameOrigins, Stack.hits_admitting, Stack.hits_admitting]
  exact hfilter

theorem text?_alike {s : Setting} (hsecret : isSecretKey s.key = true)
    (h : SameOrigins st st' s) : (st.text? s).Alike KeysAlike (st'.text? s) := by
  rw [SameOrigins] at h
  cases hhits : st.hits s.names with
  | nil =>
      rw [hhits, List.map_nil, eq_comm, List.map_eq_nil_iff] at h
      rw [Stack.text?_of_hits_nil hhits, Stack.text?_of_hits_nil h]
      exact .pure .absent
  | cons hit rest =>
      rw [hhits, List.map_cons, eq_comm, List.map_eq_cons_iff] at h
      obtain ⟨hit', rest', hhits', horigin, -⟩ := h
      have hvalue : hit.value ≠ "" :=
        Stack.value_ne_empty_of_mem_hits (hhits ▸ List.mem_cons_self)
      have hvalue' : hit'.value ≠ "" :=
        Stack.value_ne_empty_of_mem_hits (hhits' ▸ List.mem_cons_self)
      rw [Stack.text?_of_hits_cons hhits, Stack.text?_of_hits_cons hhits']
      refine ⟨.present hvalue hvalue', ?_⟩
      simp only [List.map_cons, List.map_nil, Note.shown, Journal.shown, if_pos hsecret, horigin]

theorem nonBlank_ne_empty (content : String) : Text.nonBlank content ≠ some "" :=
  fun h => (Text.nonBlank_eq_some h).2 rfl

theorem fromFile_alike {s : Setting} (hst : st.hits s.names = st'.hits s.names)
    (hfiles : ∀ hit, st.find? s.names = some hit → files.AlikeAt files' hit.value) :
    (fromFile files st s).Alike KeysAlike (fromFile files' st' s) := by
  rw [fromFile, fromFile, ← Stack.text?_congr hst]
  apply Noted.Alike.bind_value
  have hvalue : (st.text? s).value = (st.find? s.names).map Hit.value := by
    rw [← Stack.value_resolve]
    rfl
  rw [hvalue]
  cases hfind : st.find? s.names with
  | none => exact .pure .absent
  | some hit =>
      simp only [Option.map_some]
      rcases (hfiles hit hfind).readText with hread | ⟨content, content', hread, hread', hblank⟩
      · rw [← hread]
        cases files.readText hit.value with
        | error failure => exact ⟨.absent, rfl⟩
        | ok content =>
            exact .pure (.of_isSome rfl (nonBlank_ne_empty content) (nonBlank_ne_empty content))
      · rw [hread, hread']
        exact .pure (.of_isSome hblank (nonBlank_ne_empty content) (nonBlank_ne_empty content'))

/-- What two runs see of the credentials: the same of where they are, but not of what they are. -/
structure Aside (files files' : FileSystem) (st st' : Stack) : Prop where
  secrets : ∀ s ∈ secrets, SameOrigins st st' s
  named : Stack.AgreeOn fileSettings st st'
  contents : ∀ s ∈ fileSettings, ∀ hit, st.find? s.names = some hit →
    files.AlikeAt files' hit.value

structure Alike (c c' : Credentials) : Prop where
  apiKey : KeysAlike c.apiKey c'.apiKey
  applicationKey : KeysAlike c.applicationKey c'.applicationKey

theorem isSecretKey_of_mem_secrets : ∀ s ∈ secrets, isSecretKey s.key = true := by
  decide +kernel

theorem Generation.resolve_alike {g : Generation} (h : Aside files files' st st')
    (hkey : g.key ∈ secrets) (hfile : g.file ∈ fileSettings) :
    (g.resolve files st).Alike KeysAlike (g.resolve files' st') := by
  have hsecret := isSecretKey_of_mem_secrets g.key hkey
  have hdirect : (g.direct st).Alike KeysAlike (g.direct st') := by
    unfold Generation.direct
    split
    · rw [Stack.textFrom?_eq, Stack.textFrom?_eq]
      exact text?_alike hsecret ((h.secrets g.key hkey).admitting _)
    · rw [Stack.textOutside?_eq, Stack.textOutside?_eq]
      exact text?_alike hsecret ((h.secrets g.key hkey).admitting _)
  have hcontent := fromFile_alike (h.named g.file hfile) (h.contents g.file hfile)
  exact hdirect.bind fun _ _ hkeys =>
    hcontent.bind fun _ _ hcontents => .pure (hcontents.orElse hkeys)

theorem firstKey_alike {generations : List Generation} (h : Aside files files' st st')
    (hgenerations : ∀ g ∈ generations, g.key ∈ secrets ∧ g.file ∈ fileSettings) :
    (firstKey files st generations).Alike KeysAlike (firstKey files' st' generations) := by
  induction generations with
  | nil => exact .pure .absent
  | cons g rest ih =>
      obtain ⟨⟨hkey, hfile⟩, hrest⟩ := List.forall_mem_cons.1 hgenerations
      apply (Generation.resolve_alike h hkey hfile).bind
      intro found found' hfound
      -- Both runs stop at the same generation.
      cases hfound with
      | absent => exact ih hrest
      | present hne hne' => exact .pure (.present hne hne')

theorem resolve_alike (h : Aside files files' st st') :
    (resolve files st).Alike Alike (resolve files' st') := by
  have hapi : (resolveApiKey files st).Alike KeysAlike (resolveApiKey files' st') := by
    apply firstKey_alike h
    decide
  have happlication :
      (resolveApplicationKey files st).Alike KeysAlike (resolveApplicationKey files' st') := by
    apply Generation.resolve_alike h
    · decide
    · decide
  exact hapi.bind fun _ _ hkey =>
    happlication.bind fun _ _ hkey' => .pure ⟨hkey, hkey'⟩

end Credentials

end TracerSettings
