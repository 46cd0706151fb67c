import StorageQuery.Storage.Snapshot
set_option autoImplicit false

namespace StorageQuery

structure Archive where
  documents : List (String × Json) := []

namespace Archive

def insert (contract : String) (document : Json) (archive : Archive) : Archive :=
  ⟨Table.insert (· == ·) contract document archive.documents⟩

def contains (contract : String) (archive : Archive) : Bool :=
  Table.contains (· == ·) contract archive.documents

def fetch (resolver : Option Resolver) (contract : String) (archive : Archive) :
    Except StorageError Storage :=
  match Table.find? (· == ·) contract archive.documents with
  | some document => Storage.ofDocument resolver document
  | none => .error (.snapshot (.noSnapshot contract))

end Archive

end StorageQuery
