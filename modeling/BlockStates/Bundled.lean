import BlockStates.Declaration.Lookup

/-!
# The bundled catalog

A small catalog with blocks of every shape, and the layout of its types.
-/

set_option autoImplicit false

namespace BlockStates.Bundled

def simpleBlock (name : String) (id : UInt16) : Block :=
  ⟨name, ∅, [⟨id, ∅⟩]⟩

/-- A block whose states, numbered from `firstId` on, have these values in the
order of the properties. -/
def block (name : String) (properties : List (String × List String)) (firstId : UInt16)
    (rows : List (List String)) : Block :=
  { name := name
    properties := .ofList properties
    states := rows.zipIdx.map fun row =>
      ⟨firstId + UInt16.ofNat row.2, .ofList ((properties.map Prod.fst).zip row.1)⟩ }

def catalog : Catalog :=
  [ simpleBlock "minecraft:air" 0,
    simpleBlock "minecraft:stone" 1,
    block "minecraft:oak_log" [("axis", ["x", "y", "z"])] 2 [["x"], ["y"], ["z"]],
    block "minecraft:wheat" [("age", ["0", "1", "2", "3", "4", "5", "6", "7"])] 5
      [["0"], ["1"], ["2"], ["3"], ["4"], ["5"], ["6"], ["7"]],
    block "minecraft:lever" [("facing", ["north", "south"])] 13 [["north"], ["south"]],
    block "minecraft:furnace"
      [("facing", ["north", "south", "west", "east"]), ("lit", ["true", "false"])] 15
      [["north", "true"], ["north", "false"], ["south", "true"], ["south", "false"],
        ["west", "true"], ["west", "false"], ["east", "true"], ["east", "false"]],
    block "minecraft:note_block"
      [("instrument", ["harp", "basedrum"]), ("note", ["0", "1"]),
        ("powered", ["true", "false"])] 23
      [["harp", "0", "true"], ["harp", "0", "false"], ["harp", "1", "true"],
        ["harp", "1", "false"], ["basedrum", "0", "true"], ["basedrum", "0", "false"],
        ["basedrum", "1", "true"], ["basedrum", "1", "false"]],
    block "minecraft:oak_slab"
      [("type", ["top", "bottom", "double"]), ("waterlogged", ["true", "false"])] 31
      [["top", "true"], ["top", "false"], ["bottom", "true"], ["bottom", "false"],
        ["double", "false"]],
    simpleBlock "vec" 36 ].foldl Catalog.add ∅

def layout : Layout :=
  .unchecked catalog catalog.propertyUnion

end BlockStates.Bundled
