import ShaderBundle.Bundle.Basic
/-!
# Requests

What a loaded bundle is asked for, one thing after the other. The disk may be another one at each request,
and the bundle after a request is the one that the next request is put to.
-/

namespace ShaderBundle

/-- What a bundle can be asked for. -/
inductive Request where
  /-- The catalog of a dimension. -/
  | catalog (dimension : Text)
  /-- The catalog of the dimension to use where none is named. -/
  | defaultCatalog
  /-- The catalog of a dimension by the engine's name. -/
  | catalogFor (dimension : DimensionId)
  /-- A catalog of a dimension that is made anew and not kept. -/
  | freshCatalog (dimension : Text)
  /-- Whether the bundle can be used. -/
  | isValid
  /-- The dimensions whose catalogs have been made. -/
  | madeDimensions
  /-- The names of the folders that are set apart for dimensions. -/
  | dimensionFolders
deriving DecidableEq

/-- What a request is answered with. -/
inductive Answer where
  | catalog (c : Catalog)
  | verdict (valid : Bool)
  | names (names : List Text)
deriving DecidableEq

namespace Bundle

/-- Answers a request with the disk as it is; the bundle after it comes with the answer. -/
def perform (b : Bundle) (d : Disk) : Request → Journaled (Answer × Bundle)
  | .catalog dimension => do
    let (c, b) ← b.catalog d dimension
    return (.catalog c, b)
  | .defaultCatalog => do
    let (c, b) ← b.defaultCatalog d
    return (.catalog c, b)
  | .catalogFor dimension => do
    let (c, b) ← b.catalogFor d dimension
    return (.catalog c, b)
  | .freshCatalog dimension => do
    let c ← b.makeCatalog d dimension
    return (.catalog c, b)
  | .isValid => do
    let (valid, b) ← b.isValid d
    return (.verdict valid, b)
  | .madeDimensions => pure (.names b.madeDimensions, b)
  | .dimensionFolders => do
    let names ← dimensionFolders d
    return (.names names, b)

/-- The bundle after a history of requests, each with the disk of its moment. -/
def after (b : Bundle) (history : List (Disk × Request)) : Bundle :=
  history.foldl (fun b asked => (b.perform asked.1 asked.2).value.2) b

end Bundle

end ShaderBundle
