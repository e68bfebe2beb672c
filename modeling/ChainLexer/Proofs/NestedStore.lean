import ChainLexer.Grammar.Table
import Mathlib.Algebra.GroupWithZero.Nat

/-!
# Entries for one context, in two levels

A table keeps its entries for one context in a single store, under pairs of a context and a lexeme.
They can as well be kept in two levels: a store for each context that has entries, made when the
first entry of the context is added. An entry is then found in two steps, and the entries are counted
store by store. This module proves that nothing can tell the two apart.

## Counting

The number of entries in two levels is a sum over the contexts that have a store, and an insertion
changes one term of it. `NestedStore.exists_size_eq` splits that term off, whether the context has a
store or not: a context without one counts like a context with an empty one. With it, the number of
entries after an insertion is a matter of the inner store alone.

## Main definitions

* `NestedStore`: entries by context, and then by lexeme
* `NestedStore.Refines`: a store in two levels that holds what a single store does

## Main results

* `NestedStore.find?_insert`, `NestedStore.size_insert`: an insertion, as it is seen from outside
* `NestedStore.Refines.insert`: an insertion in two levels does what one into a single store does
-/

namespace ChainLexer.Grammar

variable {T : Type}

/-- The entries of each context that has any, by their lexemes. -/
structure NestedStore (T : Type) where
  stores : Std.HashMap Context (Std.HashMap String (Entry T))

namespace NestedStore

variable {context context' : Context} {lexeme lexeme' : String}

/-- The store without entries. -/
def empty : NestedStore T := ⟨∅⟩

/-- Adds an entry to the store of its context, which is a new one if there is none yet. -/
def insert (nested : NestedStore T) (context : Context) (lexeme : String) (e : Entry T) :
    NestedStore T :=
  ⟨nested.stores.insert context ((nested.stores.getD context ∅).insert lexeme e)⟩

/-- The entry for a lexeme in the store of a context, if the context has one. -/
def find? (nested : NestedStore T) (context : Context) (lexeme : String) : Option (Entry T) :=
  nested.stores[context]?.bind fun store => store[lexeme]?

/-- The number of entries, counted store by store. -/
def size (nested : NestedStore T) : Nat :=
  (nested.stores.toList.map fun pair => pair.2.size).sum

/-! ### Insertions -/

/-- A context without a store has no entries, like one with an empty store. -/
theorem find?_eq_getD (nested : NestedStore T) (context : Context) (lexeme : String) :
    nested.find? context lexeme = (nested.stores.getD context ∅)[lexeme]? := by
  rw [find?, Std.HashMap.getD_eq_getD_getElem?]
  cases nested.stores[context]? with
  | none => simp
  | some store => rfl

/-- **An insertion changes what is found at its own context and lexeme only.** -/
theorem find?_insert (nested : NestedStore T) (e : Entry T) :
    (nested.insert context lexeme e).find? context' lexeme' =
      if context = context' ∧ lexeme = lexeme' then some e
      else nested.find? context' lexeme' := by
  rw [find?_eq_getD, find?_eq_getD, insert, Std.HashMap.getD_insert]
  by_cases hcontext : context = context'
  · subst hcontext
    simp [Std.HashMap.getElem?_insert]
  · simp [hcontext]

/-- **The entries of one context are a term of the size**, and the only one that changes when the
context is given another store. -/
theorem exists_size_eq (nested : NestedStore T) (context : Context) :
    ∃ others, nested.size = (nested.stores.getD context ∅).size + others ∧
      ∀ store, size ⟨nested.stores.insert context store⟩ = store.size + others := by
  obtain ⟨stores⟩ := nested
  have hinsert (store : Std.HashMap String (Entry T)) :
      size ⟨stores.insert context store⟩ = store.size +
        ((stores.toList.filter fun pair => ¬(context == pair.1) = true).map
          fun pair => pair.2.size).sum := by
    rw [size, (Std.HashMap.toList_insert_perm.map _).sum_nat, List.map_cons, List.sum_cons]
  refine ⟨_, ?_, hinsert⟩
  rw [Std.HashMap.getD_eq_getD_getElem?]
  cases hstore : stores[context]? with
  | some store =>
    -- the context may be given once more the store that it has
    have hsame : (stores.insert context store).Equiv stores := by
      refine .of_forall_getElem?_eq fun other => ?_
      rw [Std.HashMap.getElem?_insert]
      split
      next h => rw [← eq_of_beq h, hstore]
      next => rfl
    rw [Option.getD_some, ← hinsert, size, size, (hsame.toList_perm.map _).sum_nat]
  | none =>
    have hother : ∀ pair ∈ stores.toList, decide (¬(context == pair.1) = true) = true := by
      intro pair hpair
      have hget := Std.HashMap.mem_toList_iff_getElem?_eq_some.1 hpair
      refine decide_eq_true fun h => ?_
      rw [← eq_of_beq h, hstore] at hget
      cases hget
    rw [List.filter_eq_self.2 hother, Option.getD_none, Std.HashMap.size_empty, Nat.zero_add]
    rfl

/-- An insertion adds an entry, unless there is one for its context and lexeme. -/
theorem size_insert (nested : NestedStore T) (e : Entry T) :
    (nested.insert context lexeme e).size =
      if (nested.find? context lexeme).isSome then nested.size else nested.size + 1 := by
  obtain ⟨others, hsize, hinsert⟩ := nested.exists_size_eq context
  rw [find?_eq_getD, insert, hinsert, hsize, Std.HashMap.size_insert]
  simp only [Std.HashMap.isSome_getElem?_iff_mem]
  split
  · rfl
  · exact Nat.add_right_comm _ 1 others

/-! ### A store in two levels and a single one -/

/-- The store in two levels holds what the single store does. -/
structure Refines (nested : NestedStore T) (single : Std.HashMap (Context × String) (Entry T)) :
    Prop where
  /-- The same entries are found, -/
  find?_eq : ∀ context lexeme, nested.find? context lexeme = single[(context, lexeme)]?
  /-- and there are as many. -/
  size_eq : nested.size = single.size

theorem refines_empty : (empty : NestedStore T).Refines ∅ where
  find?_eq _ _ := by simp [find?, empty]
  size_eq := by simp [size, empty]

/-- **An insertion in two levels does what one into a single store does.** -/
theorem Refines.insert {nested : NestedStore T} {single : Std.HashMap (Context × String) (Entry T)}
    (h : nested.Refines single) (context : Context) (lexeme : String) (e : Entry T) :
    (nested.insert context lexeme e).Refines (single.insert (context, lexeme) e) where
  find?_eq context' lexeme' := by
    rw [find?_insert, h.find?_eq, Std.HashMap.getElem?_insert]
    simp only [beq_iff_eq, Prod.mk.injEq]
  size_eq := by
    rw [size_insert, h.find?_eq, h.size_eq, Std.HashMap.size_insert]
    simp only [Std.HashMap.isSome_getElem?_iff_mem]

end NestedStore

end ChainLexer.Grammar
