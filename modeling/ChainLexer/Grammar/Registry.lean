import ChainLexer.Grammar.Category
import ChainLexer.Grammar.Classifier

/-!
# Registries

A registry holds one chain of classifiers for each category. Nothing is checked at registration: of
two classifiers that claim the same lexeme the newer one wins.

## Main definitions

* `Registry`: a chain for each category
* `Registry.register`: adds a classifier to the chain of a category
* `Registry.registerEach`: adds a classifier to each chain
-/

namespace ChainLexer.Grammar

variable {T : Type}

/-- A chain of classifiers for each category. -/
structure Registry (T : Type) where
  chain : Category → Chain T

namespace Registry

/-- The registry without classifiers. -/
def empty : Registry T := ⟨fun _ => .empty⟩

instance : Inhabited (Registry T) := ⟨empty⟩

/-- Adds a classifier to the chain of a category. -/
def register (registry : Registry T) (category : Category) (f : Classifier T) : Registry T :=
  ⟨fun c => if c = category then (registry.chain c).push f else registry.chain c⟩

/-- The number of classifiers of each category, in the order of the categories. -/
def depths (registry : Registry T) : List Nat :=
  Category.all.map fun c => (registry.chain c).size

/-- The verdict of a category's chain on a lexeme, and the memory that it leaves behind. -/
def resolve (registry : Registry T) (category : Category) (lexeme : String) (m : Memory) :
    Option (Verdict T) × Memory :=
  (registry.chain category).resolve lexeme m

@[simp] theorem chain_register_self (registry : Registry T) (category : Category)
    (f : Classifier T) :
    (registry.register category f).chain category = (registry.chain category).push f := by
  simp [register]

theorem chain_register_of_ne (registry : Registry T) {category other : Category}
    (f : Classifier T) (h : other ≠ category) :
    (registry.register category f).chain other = registry.chain other := by
  simp [register, h]

/-- Adds one classifier to the chain of each category, one category after the other. -/
def registerEach (registry : Registry T) (classifier : Category → Classifier T) : Registry T :=
  Category.all.foldl (fun r category => r.register category (classifier category)) registry

@[simp] theorem chain_registerEach (registry : Registry T) (classifier : Category → Classifier T)
    (category : Category) :
    (registry.registerEach classifier).chain category =
      (registry.chain category).push (classifier category) := by
  cases category <;> simp [registerEach, Category.all, register]

end Registry

end ChainLexer.Grammar
