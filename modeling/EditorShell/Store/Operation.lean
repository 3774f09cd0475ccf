import EditorShell.Store.Relocate

/-!
# Operations as data

Every change that a client can ask of a store, so that laws can speak of any operation and of
sequences of operations.
-/

namespace EditorShell

/-- A change that a client asks for. -/
inductive Operation where
  | changeDirectory (path : String)
  | createDirectory (path : String) (parents : Bool)
  | writeFile (path content : String) (append : Bool) (mimeType : Option String)
  | touch (path : String)
  | deleteFile (path : String)
  | deleteDirectory (path : String) (recursive : Bool)
  | copyFile (source target : String)
  | moveFile (source target : String)
  | copyDirectory (source target : String)
  | moveDirectory (source target : String)
  | clear
deriving DecidableEq, Repr

namespace Store

/-- Carries out an operation. -/
def perform (store : Store) : Operation → Attempt
  | .changeDirectory path => store.attempt (store.changeDirectory path)
  | .createDirectory path parents => store.attempt (store.createDirectory path parents)
  | .writeFile path content append mimeType =>
    store.attempt (store.writeFile path content append mimeType)
  | .touch path => store.attempt (store.touch path)
  | .deleteFile path => store.attempt (store.deleteFile path)
  | .deleteDirectory path recursive => store.attempt (store.deleteDirectory path recursive)
  | .copyFile source target => store.attempt (store.copyFile source target)
  | .moveFile source target => store.moveFile source target
  | .copyDirectory source target => store.copyDirectory source target
  | .moveDirectory source target => store.moveDirectory source target
  | .clear => (store.clear, none)

end Store
end EditorShell
