import TracerSettings.Build
import TracerSettings.FileSystem
import TracerSettings.Proofs.Stack.Ranking

namespace TracerSettings

/-- The same sources in another order, those of each origin in the order that they had. -/
structure Source.Reordered (sources sources' : List Source) : Prop where
  perm : sources.Perm sources'
  order (o : Origin) : withOrigin o sources = withOrigin o sources'

open Source

theorem Stack.ofSources_eq_of_reordered {sources sources' : List Source}
    (h : Reordered sources sources') : ofSources sources = ofSources sources' := by
  simp only [ofSources_eq, h.order]

theorem Source.filterMap_location (sources : List Source) :
    sources.filterMap location = (withOrigin .file sources).filterMap location := by
  rw [withOrigin, List.filterMap_filter]
  apply List.filterMap_congr
  intro s _
  cases s with
  | pairs o values => exact (ite_self none).symm
  | environment start values => rfl
  | document place leaves => rfl

namespace Build

/-- What is built of some sources does not tell the order of those of different origins. -/
theorem ofSources_reordered (readName : Url.Host.NameReader) (files : FileSystem)
    {sources sources' : List Source}
    (h : Reordered sources sources') (before : Journal) :
    ofSources readName files sources before = ofSources readName files sources' before := by
  have hstack : Stack.ofSources sources = Stack.ofSources sources' :=
    Stack.ofSources_eq_of_reordered h
  have hloaded : sources.filterMap location = sources'.filterMap location := by
    rw [filterMap_location, h.order, ← filterMap_location]
  have hconfig : configOf readName files sources = configOf readName files sources' := by
    rw [configOf, hstack, configOf]
  simp only [ofSources, hconfig, hloaded]

def mixed : List Source :=
  [.document (some "/base.toml") [("service", "base"), ("trace.enabled", "maybe")],
    .pairs .override [("env", "test")],
    .document (some "/local.toml") [("service", "local")],
    .environment Source.usualStart [("DD_SERVICE", "shop")],
    .pairs .captured [("service", "program")]]

def mixedAgain : List Source :=
  [.pairs .captured [("service", "program")],
    .document (some "/base.toml") [("service", "base"), ("trace.enabled", "maybe")],
    .document (some "/local.toml") [("service", "local")],
    .environment Source.usualStart [("DD_SERVICE", "shop")],
    .pairs .override [("env", "test")]]

theorem reordered_mixed : Reordered mixed mixedAgain where
  perm := by decide
  order o := by cases o <;> rfl

theorem ofSources_mixed :
    Reordered mixed mixedAgain ∧
      ofSources Url.Host.readName (FileTree.directory []).fileSystem mixed .empty =
        ofSources Url.Host.readName (FileTree.directory []).fileSystem mixedAgain .empty :=
  ⟨reordered_mixed, ofSources_reordered _ _ reordered_mixed .empty⟩

end Build

end TracerSettings
