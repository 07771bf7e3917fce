import ObjectLens.Bytes

/-! What can stand at a path of the file system, as far as readers of files can tell. -/

namespace ObjectLens

inductive FileState where
  | missing
  | directory
  | regular (bytes : Bytes)

end ObjectLens
