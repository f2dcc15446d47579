import ShaderBundle.Bundle.Dimension
import ShaderBundle.Bundle.Seeds
import ShaderBundle.Catalog.Basic
import ShaderBundle.Disk.Reader
import ShaderBundle.Library.Build
/-!
# Bundles

A bundle is loaded once: its library does not change afterwards, whatever becomes of the disk. Catalogs
are made when they are first asked for, one for each dimension, and kept. Which folders a catalog is made
from is decided by the disk at that moment.
-/

namespace ShaderBundle

/-- How a bundle is loaded. -/
structure Options where
  /-- The dimension to use where none is named. -/
  defaultDimension : Text := "world0".toList
  /-- The folder for programs that all dimensions share. -/
  programFolder : Text := "program".toList
  /-- Whether texts get markers that name the authors' files and lines. -/
  markers : Bool := true
  /-- The greatest tolerated share of files that fail to load. -/
  tolerance : Binary32 := .ofRatio false 1 2
deriving DecidableEq

namespace Library

/-- The share of paths that failed to load; zero if none was read. -/
def failureRatio (lib : Library) : Binary32 :=
  if lib.size = 0 then .ofRatio false 0 1 else .ofRatio false lib.failures.length lib.size

end Library

/-- A loaded bundle. -/
structure Bundle where
  /-- How it was loaded. -/
  options : Options
  /-- What its files came to. -/
  library : Library
  /-- The catalogs made so far, by dimension, the latest first. -/
  catalogs : List (Text × Catalog)

namespace Bundle

/-- Whether more of a library's files failed to load than is tolerated. -/
def isIntolerable (options : Options) (lib : Library) : Bool :=
  lib.failureRatio.exceeds options.tolerance

/-- Loads the bundle on a disk. -/
def load (d : Disk) (options : Options) : Journaled (Except Fault Bundle) :=
  match d.seeds with
  | .error cause => pure (.error cause)
  | .ok starts =>
    let readings := d.reader.crawl starts
    let records := .loading d.place starts.length :: readings.map Record.ofReading
    match (Library.ofReadings readings).checked with
    | .error cause => ⟨.error cause, records⟩
    | .ok lib =>
      let complaint :=
        if isIntolerable options lib then [.intolerable d.place lib.failures.length lib.size] else []
      ⟨.ok ⟨options, lib, []⟩, records ++ complaint⟩

/-- Whether a text names a folder right inside another on every system. -/
def isPlainName (t : Text) : Bool :=
  t ≠ [] && t ≠ ['.'] && t ≠ ['.', '.'] && !t.contains '/' && !t.contains '\\'

/-- The folder of the given name in the folder for shaders, if the name is plain and the folder exists. -/
def folderNamed? (d : Disk) (name : Text) : Option Path :=
  if isPlainName name then
    (Disk.shaders.join name).toOption.filter d.isFolder
  else none

/-- The folders in which a dimension's programs are looked up: its own, the shared one, and the folder
for shaders itself; the first two if they exist, and each once. -/
def searchFolders (b : Bundle) (d : Disk) (dimension : Text) : List Path :=
  let own := (folderNamed? d dimension).toList
  let shared := (folderNamed? d b.options.programFolder).toList
  own ++ shared.filter (· ∉ own) ++ [Disk.shaders]

/-- Makes the catalog of a dimension, without keeping it. -/
def makeCatalog (b : Bundle) (d : Disk) (dimension : Text) : Journaled Catalog := do
  let folders := b.searchFolders d dimension
  Journaled.report (.searching dimension folders)
  Catalog.load dimension b.library folders b.options.markers

/-- The catalog of a dimension, which is made and kept if it is asked for the first time. -/
def catalog (b : Bundle) (d : Disk) (dimension : Text) : Journaled (Catalog × Bundle) :=
  match b.catalogs.lookup dimension with
  | some c => pure (c, b)
  | none => do
    let c ← b.makeCatalog d dimension
    return (c, { b with catalogs := (dimension, c) :: b.catalogs })

/-- The catalog of the dimension to use where none is named. -/
def defaultCatalog (b : Bundle) (d : Disk) : Journaled (Catalog × Bundle) :=
  b.catalog d b.options.defaultDimension

/-- The catalog of a dimension by the engine's name. -/
def catalogFor (b : Bundle) (d : Disk) (dimension : DimensionId) : Journaled (Catalog × Bundle) :=
  b.catalog d dimension.folderName

/-- The dimensions whose catalogs have been made, in byte order. -/
def madeDimensions (b : Bundle) : List Text :=
  sortByKey id (b.catalogs.map Prod.fst)

/-- Whether the bundle can be used: something loaded, not too much failed, and the default dimension has
the two programs that others fall back to. -/
def isValid (b : Bundle) (d : Disk) : Journaled (Bool × Bundle) :=
  if b.library.files.isEmpty || isIntolerable b.options b.library then pure (false, b)
  else do
    let (c, b) ← b.defaultCatalog d
    return (c.contains .basic && c.contains .textured, b)

/-- The names of the folders that are set apart for dimensions: those that start with `world`. -/
def dimensionFolders (d : Disk) : Journaled (List Text) :=
  match d.entryAt Disk.shaders with
  | .ok (.folder content) =>
    pure (((Entry.folder content).names.filter fun name =>
      d.isFolder (Disk.shaders.child name) && "world".toList.isPrefixOf name.text).map Segment.text)
  | .ok (.file _) => ⟨[], [.unlisted d.place DiskFault.notFolder.message]⟩
  | .error cause => ⟨[], [.unlisted d.place cause.message]⟩

end Bundle

end ShaderBundle
