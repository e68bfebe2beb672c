import ChainLexer.Grammar.Classifier
import Std.Data.HashMap
import Std.Data.HashSet

/-!
# Tables of lexemes

A classifier given by exact lexemes. An entry may hold in one context only; such an entry comes
before one that holds in every context, and returns to the plain context. An entry that holds in
every context may move to another context. Lexemes without an entry may be listed to be skipped.

## Main definitions

* `Table`: the entries of the three sorts
* `Table.add`, `Table.addThen`, `Table.addIn`, `Table.addSkip`: add an entry
* `Table.classify`: the table as a classifier
-/

namespace ChainLexer.Grammar

variable {T : Type}

/-- What an entry does with its lexeme: the kind of the token, and the context to move to. -/
structure Entry (T : Type) where
  kind : T
  next : Option Context
deriving DecidableEq, Repr

/-- The response of an entry. -/
def Entry.response (e : Entry T) : Response T :=
  ⟨e.next.toList, some (.emit e.kind)⟩

/-- Entries for every context, entries for one context, and lexemes to skip. -/
structure Table (T : Type) where
  general : Std.HashMap String (Entry T)
  gated : Std.HashMap (Context × String) (Entry T)
  skipped : Std.HashSet String

namespace Table

/-- The table without entries. -/
def empty : Table T := ⟨∅, ∅, ∅⟩

instance : Inhabited (Table T) := ⟨empty⟩

/-- Gives a lexeme a kind in every context. -/
def add (table : Table T) (lexeme : String) (kind : T) : Table T :=
  { table with general := table.general.insert lexeme ⟨kind, none⟩ }

/-- Gives a lexeme a kind in every context, and moves to another context after it. -/
def addThen (table : Table T) (lexeme : String) (kind : T) (next : Context) : Table T :=
  { table with general := table.general.insert lexeme ⟨kind, some next⟩ }

/-- Gives a lexeme a kind in one context, and moves to the plain context after it. -/
def addIn (table : Table T) (context : Context) (lexeme : String) (kind : T) : Table T :=
  { table with gated := table.gated.insert (context, lexeme) ⟨kind, some .plain⟩ }

/-- Lists a lexeme to be skipped. -/
def addSkip (table : Table T) (lexeme : String) : Table T :=
  { table with skipped := table.skipped.insert lexeme }

/-- The number of entries of all three sorts. -/
def size (table : Table T) : Nat :=
  table.general.size + table.skipped.size + table.gated.size

/-- The table has no entry. -/
def isEmpty (table : Table T) : Bool := table.size == 0

/-- The entry for a lexeme in a context: one for that context comes before a general one. -/
def find? (table : Table T) (lexeme : String) (context : Context) : Option (Entry T) :=
  table.gated[(context, lexeme)]? <|> table.general[lexeme]?

/-- The table as a classifier. -/
def classify (table : Table T) : Classifier T := fun lexeme context =>
  match table.find? lexeme context with
  | some e => e.response
  | none => if table.skipped.contains lexeme then .skip else .decline

end Table

end ChainLexer.Grammar
