import Rulebook.Text.Numeral

/-!
# The catalogue of stored rules

Documents are kept in memory in the order of their insertion and are never removed. Ids are drawn by
counting insertions, and a clock that moves with every write dates the documents.
-/

namespace Rulebook

/-- A stored rule: its text and the stored form of its tree, which are written together. -/
structure Document where
  id : Text
  ruleText : Text
  encodedTree : Text
  /-- When the document was inserted. -/
  createdAt : Nat
  /-- When the document was last written. -/
  updatedAt : Nat
deriving DecidableEq

namespace Document

/-- Whether a document was written again after its insertion. -/
def isRevised (document : Document) : Bool :=
  document.updatedAt ≠ document.createdAt

end Document

/-- All stored rules. -/
structure Catalog where
  /-- The documents, in the order of their insertion. -/
  documents : List Document
  /-- The number of writes so far. -/
  clock : Nat
deriving DecidableEq

namespace Catalog

def empty : Catalog :=
  ⟨[], 0⟩

def size (catalog : Catalog) : Nat :=
  catalog.documents.length

/-- The id of the document that is inserted at a place, counted from one. -/
def idOf (place : Nat) : Text :=
  '$' :: Numeral.ofNat place

/-- The document that the next insertion makes. -/
def draft (catalog : Catalog) (ruleText encodedTree : Text) : Document :=
  ⟨idOf (catalog.size + 1), ruleText, encodedTree, catalog.clock + 1, catalog.clock + 1⟩

/-- Take in a document under an id that no other one has. -/
def add (catalog : Catalog) (document : Document) : Catalog :=
  ⟨catalog.documents ++ [document], catalog.clock + 1⟩

@[simp]
theorem documents_add (catalog : Catalog) (document : Document) :
    (catalog.add document).documents = catalog.documents ++ [document] :=
  rfl

def insert (catalog : Catalog) (ruleText encodedTree : Text) : Document × Catalog :=
  let document := catalog.draft ruleText encodedTree
  (document, catalog.add document)

def find? (catalog : Catalog) (id : Text) : Option Document :=
  catalog.documents.find? (·.id == id)

/-- Texts without repetitions, in the order of first mention. -/
def firstMentions (ids : List Text) : List Text :=
  ids.foldl (fun seen id => if id ∈ seen then seen else seen ++ [id]) []

/-- The documents with some ids, each once, in the order of first mention. -/
def findMany (catalog : Catalog) (ids : List Text) : List Document :=
  (firstMentions ids).filterMap catalog.find?

/-- Replace the text and the tree of the document with an id at a time. Gives the number of
documents hit. -/
def updateAt (catalog : Catalog) (now : Nat) (id ruleText encodedTree : Text) : Nat × Catalog :=
  match catalog.find? id with
  | none => (0, catalog)
  | some _ =>
      let renew (document : Document) : Document :=
        if document.id = id then { document with ruleText, encodedTree, updatedAt := now }
        else document
      (1, ⟨catalog.documents.map renew, catalog.clock + 1⟩)

/-- Replace the text and the tree of the document with an id. Gives the number of documents hit. -/
def update (catalog : Catalog) (id ruleText encodedTree : Text) : Nat × Catalog :=
  catalog.updateAt (catalog.clock + 1) id ruleText encodedTree

end Catalog

end Rulebook
