/-!
Errors of the store: their kind, the reason in words, and the code that programs look at.
-/

namespace DocStore

inductive StoreError where
  | connectionFailure (reason : String)
  | config (reason : String)
  | malformedPredicate (index : Nat) (reason : String)
  | invalidIdentifier (reason : String)
  | malformedDocument (reason : String)
  | storage (reason : String)
  | indexCreation (reason : String)
  deriving DecidableEq

namespace StoreError

def code : StoreError → String
  | connectionFailure _ => "DOCQ_CONNECTION_FAILED"
  | config _ => "DOCQ_CONFIG_INVALID"
  | malformedPredicate _ _ => "DOCQ_MALFORMED_PREDICATE"
  | invalidIdentifier _ => "DOCQ_INVALID_IDENTIFIER"
  | malformedDocument _ => "DOCQ_MALFORMED_DOCUMENT"
  | storage _ => "DOCQ_STORAGE_FAILED"
  | indexCreation _ => "DOCQ_INDEX_CREATION_FAILED"

/-- Only a failed connection ends a store for good. -/
def isFatal : StoreError → Bool
  | connectionFailure _ => true
  | _ => false

def message : StoreError → String
  | connectionFailure r => "Connection failed: " ++ r
  | config r => "Invalid configuration: " ++ r
  | malformedPredicate i r => "Malformed predicate at position " ++ i.repr ++ ": " ++ r
  | invalidIdentifier r => "Invalid identifier: " ++ r
  | malformedDocument r => "Malformed document: " ++ r
  | storage r => "Storage operation failed: " ++ r
  | indexCreation r => "Index creation failed: " ++ r

end StoreError

end DocStore
