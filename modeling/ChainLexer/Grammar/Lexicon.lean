import ChainLexer.Grammar.Registry

/-!
# Lexicons

A lexicon covers all categories at once: it bundles a classifier for each of them under a name, and
is installed as a whole.

## Main definitions

* `Lexicon`: a classifier for each category
* `Registry.install`: adds every classifier of a lexicon
-/

namespace ChainLexer.Grammar

variable {T : Type}

/-- A classifier for each category, under a name. A lexicon need not have an opinion on every
category. -/
structure Lexicon (T : Type) where
  name : String
  classifier : Category → Classifier T := fun _ _ _ => .decline

/-- The lexicon under another naming of the kinds. -/
def Lexicon.map {U : Type} (f : T → U) (lexicon : Lexicon T) : Lexicon U where
  name := lexicon.name
  classifier := fun category lexeme context => (lexicon.classifier category lexeme context).map f

/-- Adds the classifiers of a lexicon. -/
def Registry.install (registry : Registry T) (lexicon : Lexicon T) : Registry T :=
  registry.registerEach lexicon.classifier

end ChainLexer.Grammar
