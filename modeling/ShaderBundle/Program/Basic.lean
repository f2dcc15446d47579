import ShaderBundle.Text.Basic
/-!
# Programs

The programs that the engine draws with, one by one. Each has the stem of its file names, a family,
and the program that takes its place when a bundle leaves it out. A program with none ends the
chain.
-/

namespace ShaderBundle

/-- The families of programs; the family decides whether a program may be replaced by a built-in one. -/
inductive Family where
  /-- Draws into the shadow map. -/
  | shadow
  /-- Draws the world. -/
  | gbuffers
  /-- Draws distant terrain at low detail. -/
  | distantHorizons
  /-- Draws the finished picture. -/
  | final
deriving DecidableEq

/-- A single program, as against one of a numbered array of passes. -/
inductive Program where
  | shadow
  | shadowSolid
  | shadowCutout
  | shadowWater
  | shadowEntities
  | shadowLightning
  | shadowBlock
  | basic
  | line
  | textured
  | texturedLit
  | skyBasic
  | skyTextured
  | clouds
  | terrain
  | terrainSolid
  | terrainCutoutMip
  | terrainCutout
  | damagedBlock
  | block
  | blockTrans
  | beaconBeam
  | item
  | entities
  | entitiesTrans
  | entitiesGlowing
  | lightning
  | particles
  | particlesTrans
  | armorGlint
  | spiderEyes
  | hand
  | handWater
  | weather
  | water
  | dhTerrain
  | dhWater
  | dhGeneric
  | dhShadow
  | final
deriving DecidableEq

namespace Program

/-- Every program, in the order of listings. -/
def all : List Program :=
  [.shadow, .shadowSolid, .shadowCutout, .shadowWater, .shadowEntities, .shadowLightning,
  .shadowBlock, .basic, .line, .textured, .texturedLit, .skyBasic, .skyTextured, .clouds,
  .terrain, .terrainSolid, .terrainCutoutMip, .terrainCutout, .damagedBlock, .block, .blockTrans,
  .beaconBeam, .item, .entities, .entitiesTrans, .entitiesGlowing, .lightning, .particles,
  .particlesTrans, .armorGlint, .spiderEyes, .hand, .handWater, .weather, .water, .dhTerrain,
  .dhWater, .dhGeneric, .dhShadow, .final]

/-- What is known of a program. -/
structure Entry where
  /-- The stem of its file names. -/
  stem : String
  /-- Its family. -/
  family : Family
  /-- The program that takes its place. -/
  substitute? : Option Program

/-- The table of programs. -/
def entry : Program → Entry
  | .shadow => ⟨"shadow", .shadow, none⟩
  | .shadowSolid => ⟨"shadow_solid", .shadow, some .shadow⟩
  | .shadowCutout => ⟨"shadow_cutout", .shadow, some .shadow⟩
  | .shadowWater => ⟨"shadow_water", .shadow, some .shadow⟩
  | .shadowEntities => ⟨"shadow_entities", .shadow, some .shadow⟩
  | .shadowLightning => ⟨"shadow_lightning", .shadow, some .shadowEntities⟩
  | .shadowBlock => ⟨"shadow_block", .shadow, some .shadow⟩
  | .basic => ⟨"gbuffers_basic", .gbuffers, none⟩
  | .line => ⟨"gbuffers_line", .gbuffers, some .basic⟩
  | .textured => ⟨"gbuffers_textured", .gbuffers, some .basic⟩
  | .texturedLit => ⟨"gbuffers_textured_lit", .gbuffers, some .textured⟩
  | .skyBasic => ⟨"gbuffers_skybasic", .gbuffers, some .basic⟩
  | .skyTextured => ⟨"gbuffers_skytextured", .gbuffers, some .textured⟩
  | .clouds => ⟨"gbuffers_clouds", .gbuffers, some .textured⟩
  | .terrain => ⟨"gbuffers_terrain", .gbuffers, some .texturedLit⟩
  | .terrainSolid => ⟨"gbuffers_terrain_solid", .gbuffers, some .terrain⟩
  | .terrainCutoutMip => ⟨"gbuffers_terrain_cutout_mip", .gbuffers, some .terrain⟩
  | .terrainCutout => ⟨"gbuffers_terrain_cutout", .gbuffers, some .terrain⟩
  | .damagedBlock => ⟨"gbuffers_damagedblock", .gbuffers, some .terrain⟩
  | .block => ⟨"gbuffers_block", .gbuffers, some .terrain⟩
  | .blockTrans => ⟨"gbuffers_block_translucent", .gbuffers, some .block⟩
  | .beaconBeam => ⟨"gbuffers_beaconbeam", .gbuffers, some .textured⟩
  | .item => ⟨"gbuffers_item", .gbuffers, some .texturedLit⟩
  | .entities => ⟨"gbuffers_entities", .gbuffers, some .texturedLit⟩
  | .entitiesTrans => ⟨"gbuffers_entities_translucent", .gbuffers, some .entities⟩
  | .entitiesGlowing => ⟨"gbuffers_entities_glowing", .gbuffers, some .entities⟩
  | .lightning => ⟨"gbuffers_lightning", .gbuffers, some .entities⟩
  | .particles => ⟨"gbuffers_particles", .gbuffers, some .texturedLit⟩
  | .particlesTrans => ⟨"gbuffers_particles_translucent", .gbuffers, some .particles⟩
  | .armorGlint => ⟨"gbuffers_armor_glint", .gbuffers, some .textured⟩
  | .spiderEyes => ⟨"gbuffers_spidereyes", .gbuffers, some .textured⟩
  | .hand => ⟨"gbuffers_hand", .gbuffers, some .texturedLit⟩
  | .handWater => ⟨"gbuffers_hand_water", .gbuffers, some .hand⟩
  | .weather => ⟨"gbuffers_weather", .gbuffers, some .texturedLit⟩
  | .water => ⟨"gbuffers_water", .gbuffers, some .terrain⟩
  | .dhTerrain => ⟨"dh_terrain", .distantHorizons, none⟩
  | .dhWater => ⟨"dh_water", .distantHorizons, some .dhTerrain⟩
  | .dhGeneric => ⟨"dh_generic", .distantHorizons, some .dhTerrain⟩
  | .dhShadow => ⟨"dh_shadow", .shadow, none⟩
  | .final => ⟨"final", .final, none⟩

/-- The stem of the program's file names. -/
def stem (p : Program) : Text := p.entry.stem.toList

/-- The program's family. -/
def family (p : Program) : Family := p.entry.family

/-- The program that takes the place of one that is left out. -/
def substitute? (p : Program) : Option Program := p.entry.substitute?

/-- The program with the given stem. -/
def ofStem? (t : Text) : Option Program := all.find? fun p => p.stem = t

/-- The first programs of the chain: the program, its substitute, the substitute's, and so on. -/
def chainUpTo : Nat → Program → List Program
  | 0, _ => []
  | n + 1, p =>
    match p.substitute? with
    | none => [p]
    | some q => p :: chainUpTo n q

/-- The program followed by its substitutes. No chain is longer than the table of programs. -/
def chain (p : Program) : List Program := chainUpTo all.length p

/-- The name by which messages speak of the program. -/
def label : Program → String
  | .shadow => "Shadow"
  | .shadowSolid => "ShadowSolid"
  | .shadowCutout => "ShadowCutout"
  | .shadowWater => "ShadowWater"
  | .shadowEntities => "ShadowEntities"
  | .shadowLightning => "ShadowLightning"
  | .shadowBlock => "ShadowBlock"
  | .basic => "Basic"
  | .line => "Line"
  | .textured => "Textured"
  | .texturedLit => "TexturedLit"
  | .skyBasic => "SkyBasic"
  | .skyTextured => "SkyTextured"
  | .clouds => "Clouds"
  | .terrain => "Terrain"
  | .terrainSolid => "TerrainSolid"
  | .terrainCutoutMip => "TerrainCutoutMip"
  | .terrainCutout => "TerrainCutout"
  | .damagedBlock => "DamagedBlock"
  | .block => "Block"
  | .blockTrans => "BlockTrans"
  | .beaconBeam => "BeaconBeam"
  | .item => "Item"
  | .entities => "Entities"
  | .entitiesTrans => "EntitiesTrans"
  | .entitiesGlowing => "EntitiesGlowing"
  | .lightning => "Lightning"
  | .particles => "Particles"
  | .particlesTrans => "ParticlesTrans"
  | .armorGlint => "ArmorGlint"
  | .spiderEyes => "SpiderEyes"
  | .hand => "Hand"
  | .handWater => "HandWater"
  | .weather => "Weather"
  | .water => "Water"
  | .dhTerrain => "DhTerrain"
  | .dhWater => "DhWater"
  | .dhGeneric => "DhGeneric"
  | .dhShadow => "DhShadow"
  | .final => "Final"

end Program

end ShaderBundle
