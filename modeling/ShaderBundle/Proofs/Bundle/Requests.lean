import ShaderBundle.Bundle.Request
import ShaderBundle.Proofs.Bundle.Loading
/-!
# What a bundle remembers

A request changes nothing of a bundle but its catalogs, and of these it can only add one: the catalog of
the dimension that it asks to be kept, if there is none yet, made on the disk of that moment. So the
catalog of a dimension is the one that was made when it was asked for first, whatever becomes of the disk,
and the dimensions that have one are those that were asked for.
-/

namespace ShaderBundle

namespace Request

/-- The dimension whose kept catalog is the answer to a request. -/
def wanted? (options : Options) : Request → Option Text
  | .catalog dimension => some dimension
  | .defaultCatalog => some options.defaultDimension
  | .catalogFor dimension => some dimension.folderName
  | .freshCatalog _ | .isValid | .madeDimensions | .dimensionFolders => none

/-- The dimension whose catalog a request asks a bundle to keep. Whether the bundle can be used is decided
without a catalog if nothing loaded, or if more failed than is tolerated. -/
def asks? (b : Bundle) : Request → Option Text
  | .isValid =>
    if b.library.files = [] ∨ b.library.failureRatio.exceeds b.options.tolerance = true then none
    else some b.options.defaultDimension
  | request => request.wanted? b.options

end Request

namespace Bundle

variable {b : Bundle} {d : Disk} {dimension : Text} {request : Request}

/-- A catalog that is kept is returned as it is, and nothing else happens. -/
theorem catalog_of_kept {c : Catalog} (kept : b.catalogs.lookup dimension = some c) (d : Disk) :
    b.catalog d dimension = pure (c, b) := by
  rw [catalog, kept]

/-- Otherwise a catalog is made and kept. -/
theorem value_catalog_of_new (new : b.catalogs.lookup dimension = none) (d : Disk) :
    (b.catalog d dimension).value = ((b.makeCatalog d dimension).value,
      { b with catalogs := (dimension, (b.makeCatalog d dimension).value) :: b.catalogs }) := by
  rw [catalog, new]
  rfl

/-- A request for a kept catalog is answered with it. -/
theorem perform_of_wanted? (wanted : request.wanted? b.options = some dimension) (d : Disk) :
    b.perform d request = do
      let kept ← b.catalog d dimension
      return (.catalog kept.1, kept.2) := by
  cases request with
  | catalog _ =>
    obtain rfl := Option.some.inj wanted
    rfl
  | defaultCatalog =>
    obtain rfl := Option.some.inj wanted
    rfl
  | catalogFor _ =>
    obtain rfl := Option.some.inj wanted
    rfl
  | freshCatalog _ => contradiction
  | isValid => contradiction
  | madeDimensions => contradiction
  | dimensionFolders => contradiction

/-- A request for a catalog that is kept is answered with it, and nothing else happens. -/
theorem perform_of_kept (wanted : request.wanted? b.options = some dimension) {c : Catalog}
    (kept : b.catalogs.lookup dimension = some c) (d : Disk) :
    b.perform d request = pure (.catalog c, b) := by
  rw [perform_of_wanted? wanted, catalog_of_kept kept]
  rfl

/-- Otherwise it is answered with one that is made on the disk as it is. -/
theorem answer_perform_of_new (wanted : request.wanted? b.options = some dimension)
    (new : b.catalogs.lookup dimension = none) (d : Disk) :
    (b.perform d request).value.1 = .catalog (b.makeCatalog d dimension).value := by
  rw [perform_of_wanted? wanted, Journaled.value_bind, value_catalog_of_new new]
  rfl

/-- After a request, the bundle is the one after the catalog that it asks for was, and the same bundle if it
asks for none. -/
theorem bundle_perform (b : Bundle) (d : Disk) (request : Request) :
    (b.perform d request).value.2 =
      match request.asks? b with
      | some dimension => (b.catalog d dimension).value.2
      | none => b := by
  cases request with
  | catalog _ => rfl
  | defaultCatalog => rfl
  | catalogFor _ => rfl
  | freshCatalog _ => rfl
  | madeDimensions => rfl
  | dimensionFolders => rfl
  | isValid =>
    show (b.isValid d).value.2 = _
    rw [isValid, Request.asks?, isIntolerable]
    by_cases refused : b.library.files = [] ∨ b.library.failureRatio.exceeds b.options.tolerance = true
    · rw [if_pos refused, if_pos (by simpa [List.isEmpty_iff] using refused)]
      rfl
    · rw [if_neg refused, if_neg (by simpa [List.isEmpty_iff] using refused)]
      rfl

/-- A request changes nothing of a bundle but its catalogs. -/
theorem exists_catalogs_perform (b : Bundle) (d : Disk) (request : Request) :
    ∃ catalogs, (b.perform d request).value.2 = { b with catalogs := catalogs } := by
  rw [bundle_perform]
  cases request.asks? b with
  | none => exact ⟨b.catalogs, rfl⟩
  | some dimension =>
    cases kept : b.catalogs.lookup dimension with
    | some c =>
      dsimp only
      rw [catalog_of_kept kept]
      exact ⟨b.catalogs, rfl⟩
    | none =>
      dsimp only
      rw [value_catalog_of_new kept]
      exact ⟨_, rfl⟩

/-- After a request, the catalogs are those from before it, and the one that it asks for if that was
missing. -/
theorem lookup_perform (b : Bundle) (d : Disk) (request : Request) (dimension : Text) :
    (b.perform d request).value.2.catalogs.lookup dimension = (b.catalogs.lookup dimension).or
      (if request.asks? b = some dimension then some (b.makeCatalog d dimension).value else none) := by
  rw [bundle_perform]
  cases asked : request.asks? b with
  | none => simp
  | some other =>
    dsimp only
    cases kept : b.catalogs.lookup other with
    | some c =>
      rw [catalog_of_kept kept]
      by_cases same : other = dimension
      · rw [same] at kept
        simp [kept]
      · simp [same]
    | none =>
      rw [value_catalog_of_new kept]
      by_cases same : other = dimension
      · rw [same] at kept
        simp [same, kept]
      · have differs : (dimension == other) = false := beq_false_of_ne (Ne.symm same)
        simp [same, List.lookup_cons, differs]

/-- The disk of the moment when a dimension was asked for first. -/
def firstAsked? (b : Bundle) (history : List (Disk × Request)) (dimension : Text) : Option Disk :=
  (history.find? fun asked => asked.2.asks? b = some dimension).map Prod.fst

/-- A history leaves the options and the library as they are. -/
theorem exists_catalogs_after (b : Bundle) (history : List (Disk × Request)) :
    ∃ catalogs, b.after history = { b with catalogs := catalogs } := by
  induction history generalizing b with
  | nil => exact ⟨b.catalogs, rfl⟩
  | cons asked history ih =>
    obtain ⟨catalogs, first⟩ := b.exists_catalogs_perform asked.1 asked.2
    obtain ⟨catalogs', rest⟩ := ih (b.perform asked.1 asked.2).value.2
    refine ⟨catalogs', ?_⟩
    show (b.perform asked.1 asked.2).value.2.after history = _
    rw [rest, first]

/-- After a history, the catalogs are those from before it, and for each other dimension that was asked for
the one that was made at the first time. -/
theorem lookup_after (b : Bundle) (history : List (Disk × Request)) (dimension : Text) :
    (b.after history).catalogs.lookup dimension = (b.catalogs.lookup dimension).or
      ((b.firstAsked? history dimension).map fun d => (b.makeCatalog d dimension).value) := by
  -- What is kept at first is, for the rest of the history, what is kept after its first request.
  induction history generalizing b with
  | nil => simp [after, firstAsked?]
  | cons asked history ih =>
    obtain ⟨catalogs, first⟩ := b.exists_catalogs_perform asked.1 asked.2
    have onward := ih (b.perform asked.1 asked.2).value.2
    have step := b.lookup_perform asked.1 asked.2 dimension
    show ((b.perform asked.1 asked.2).value.2.after history).catalogs.lookup dimension = _
    rw [onward, step, Option.or_assoc, first]
    congr 1
    by_cases here : asked.2.asks? b = some dimension
    · simp [firstAsked?, here]
    · rw [if_neg here, Option.none_or]
      simp [firstAsked?, here]
      rfl

/-- Where no catalog was kept at first, the catalogs after a history are those that were made at the first
times. -/
theorem lookup_after_of_nil (nothing : b.catalogs = []) (history : List (Disk × Request))
    (dimension : Text) : (b.after history).catalogs.lookup dimension =
      (b.firstAsked? history dimension).map fun d => (b.makeCatalog d dimension).value := by
  rw [lookup_after, nothing, List.lookup_nil, Option.none_or]

/-- A history leaves the options as they are. -/
theorem options_after (b : Bundle) (history : List (Disk × Request)) :
    (b.after history).options = b.options := by
  obtain ⟨catalogs, now⟩ := b.exists_catalogs_after history
  rw [now]

/-- A history changes no catalog that is made anew. -/
theorem makeCatalog_after (b : Bundle) (history : List (Disk × Request)) (d : Disk) (dimension : Text) :
    (b.after history).makeCatalog d dimension = b.makeCatalog d dimension := by
  obtain ⟨catalogs, now⟩ := b.exists_catalogs_after history
  rw [now]
  rfl

/-- Where no catalog was kept at first, every catalog that a request is answered with was made on the disk of
some moment. -/
theorem exists_makeCatalog_of_answer (nothing : b.catalogs = []) {history : List (Disk × Request)} {c : Catalog}
    (answered : ((b.after history).perform d request).value.1 = .catalog c) :
    ∃ d' dimension, (b.makeCatalog d' dimension).value = c := by
  cases wanted : request.wanted? (b.after history).options with
  | some dimension =>
    have past := lookup_after_of_nil nothing history dimension
    cases asked : b.firstAsked? history dimension with
    | some d' =>
      rw [asked, Option.map_some] at past
      rw [perform_of_kept wanted past] at answered
      exact ⟨d', dimension, Answer.catalog.inj answered⟩
    | none =>
      rw [asked, Option.map_none] at past
      rw [answer_perform_of_new wanted past, makeCatalog_after] at answered
      exact ⟨d, dimension, Answer.catalog.inj answered⟩
  | none =>
    cases request with
    | freshCatalog dimension =>
      have made : ((b.after history).perform d (.freshCatalog dimension)).value.1 =
          .catalog ((b.after history).makeCatalog d dimension).value := rfl
      rw [made, makeCatalog_after] at answered
      exact ⟨d, dimension, Answer.catalog.inj answered⟩
    | catalog _ => contradiction
    | defaultCatalog => contradiction
    | catalogFor _ => contradiction
    | isValid => contradiction
    | madeDimensions => contradiction
    | dimensionFolders => contradiction

end Bundle

end ShaderBundle
