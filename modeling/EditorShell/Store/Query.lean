import EditorShell.Store.Check

/-!
# Queries as data

Every question that a client can ask of a store, beside the operations that change one. A question
is answered from the store alone and leaves it as it is, also when there is no answer.
-/

namespace EditorShell

/-- A question that a client asks. -/
inductive Query where
  | isDirectory (path : String)
  | isFile (path : String)
  | isTaken (path : String)
  | children (path : String)
  | file (path : String)
  | read (path : String)
  | walk (path : String)
  | violation
deriving DecidableEq, Repr

/-- What is answered. -/
inductive Answer where
  | truth (holds : Bool)
  | children (children : List Child)
  | file (file : File)
  | text (text : String)
  | found (found : List Store.Found)
  | violation (violation : Option Violation)
deriving DecidableEq, Repr

namespace Store

/-- The answer to a question, or why there is none. -/
def answer (store : Store) : Query → Except StoreError Answer
  | .isDirectory path => .ok (.truth (store.isDirectory path))
  | .isFile path => .ok (.truth (store.isFile path))
  | .isTaken path => .ok (.truth (store.isTaken path))
  | .children path => .ok (.children (store.children path))
  | .file path => (store.file path).map .file
  | .read path => (store.read path).map .text
  | .walk path => (store.walk path).map .found
  | .violation => .ok (.violation store.violation?)

/-- Answers a question; the store that is left is the store that was asked. -/
def ask (store : Store) (query : Query) : Store × Except StoreError Answer :=
  (store, store.answer query)

end Store
end EditorShell
