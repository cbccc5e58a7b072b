import Arcade.Index
import Arcade.Spec.Basic

/-! The assets of a game by their keys. Pictures have addresses; sounds are no pictures. -/

namespace Arcade

structure Manifest where
  entries : Index Spec.Asset

namespace Manifest

/-- The last asset of a key counts. -/
def ofAssets (assets : List Spec.Asset) : Manifest :=
  ⟨.ofList (assets.map fun asset => (asset.key, asset))⟩

def size (manifest : Manifest) : Nat := manifest.entries.size

/-- The address of the picture of a key. -/
def picture? (manifest : Manifest) (key : String) : Option String :=
  match manifest.entries.get? key with
  | some asset =>
    match asset.kind with
    | .sprite | .image => some asset.url
    | .audio => none
  | none => none

end Manifest

end Arcade
