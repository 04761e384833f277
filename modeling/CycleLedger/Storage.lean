/-! # Places where reports are stored

What a run needs of such a place: to make a folder with the folders around it, and to give a file a
content. Either can fail with a cause, and even then it can leave something behind.
-/

namespace CycleLedger

structure Storage (σ : Type) where
  makeFolders : (path : String) → σ → Except String Unit × σ
  write : (path content : String) → σ → Except String Unit × σ

end CycleLedger
