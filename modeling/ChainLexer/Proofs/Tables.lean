import ChainLexer.Grammar.Table
import ChainLexer.Proofs.Chains
import ChainLexer.Proofs.NestedStore
import Mathlib.Data.Finset.Card
import Mathlib.Data.List.Induction

/-!
# What a table means

A table is built by calls, each of which adds an entry of one of three sorts. This module says what
the table does with a lexeme in terms of the calls alone: the last call on a key counts, and of the
three keys under which a lexeme may stand the gated one comes first, then the general one, then the
skipped one.

## Keys

A call is about a `Table.Key`: a lexeme in one context, a lexeme in every context, or a lexeme to be
skipped. Two calls on the same key compete, and the later one wins; this is how `add` and `addThen`
for one lexeme overwrite each other. Two calls on different keys have nothing to do with each other,
even if they name the same lexeme. The three stores of a table are therefore one store that is read
by key, `Table.lookup`, and a call changes it at its own key only: this is `Table.lookup_apply`,
from which all else is derived.

An entry that moves to the context of an escape cannot do so, and then it leaves the memory as it
was, the mark for a write included.

## Main definitions

* `Table.Call`, `Table.Key`: calls, and what they are about
* `Table.build`: the table that a sequence of calls builds
* `Table.lookup`: what a table holds under a key
* `Table.lastCall?`: the last call on a key
* `Table.Reorders`: calls in another order, but for those on the same key
* `Table.nestedStore`: the entries for one context that calls add, in two levels
* `Table.MeansLastCalls`: what a table does with a lexeme, by the calls that built it

## Main results

* `Table.lookup_apply`, `Table.lookup_build`: a table holds what the last call on a key put there
* `Table.size_build`: a table has as many entries as there are different keys
* `Table.classify_eq`: a table is read by key, in the order of the three sorts
* `Table.refines_nestedStore`: a table may keep its entries for one context in two levels
* `Table.meansLastCalls_build`: the meaning of a table, for every sequence of calls
-/

namespace ChainLexer.Grammar.Table

variable {T : Type}

/-! ### Calls -/

/-- A call that adds an entry to a table. -/
inductive Call (T : Type) where
  | add (lexeme : String) (kind : T)
  | addThen (lexeme : String) (kind : T) (next : Context)
  | addIn (context : Context) (lexeme : String) (kind : T)
  | addSkip (lexeme : String)

/-- What a call is about. -/
inductive Key where
  /-- A lexeme in one context. -/
  | gated (context : Context) (lexeme : String)
  /-- A lexeme in every context. -/
  | general (lexeme : String)
  /-- A lexeme to be skipped. -/
  | skipped (lexeme : String)
deriving DecidableEq

/-- The lexeme of a key. -/
def Key.lexeme : Key → String
  | gated _ lexeme | general lexeme | skipped lexeme => lexeme

namespace Call

/-- The key of a call. -/
def key : Call T → Key
  | add lexeme _ => .general lexeme
  | addThen lexeme _ _ => .general lexeme
  | addIn context lexeme _ => .gated context lexeme
  | addSkip lexeme => .skipped lexeme

/-- The entry that a call puts under its key; a lexeme to be skipped has none. -/
def entry? : Call T → Option (Entry T)
  | add _ kind => some ⟨kind, none⟩
  | addThen _ kind next => some ⟨kind, some next⟩
  | addIn _ _ kind => some ⟨kind, some .plain⟩
  | addSkip _ => none

theorem key_eq_skipped_iff {call : Call T} {lexeme : String} :
    call.key = .skipped lexeme ↔ call = addSkip lexeme := by
  cases call <;> simp [key]

end Call

/-- The table after a call. -/
def apply (table : Table T) : Call T → Table T
  | .add lexeme kind => table.add lexeme kind
  | .addThen lexeme kind next => table.addThen lexeme kind next
  | .addIn context lexeme kind => table.addIn context lexeme kind
  | .addSkip lexeme => table.addSkip lexeme

/-- The table that the calls build, one after the other. -/
def build (calls : List (Call T)) : Table T := calls.foldl apply empty

theorem build_concat (calls : List (Call T)) (call : Call T) :
    build (calls ++ [call]) = (build calls).apply call := by
  simp [build]

/-! ### What a table holds -/

/-- What stands under a key: nothing, or an entry, which lexemes to be skipped do not have. -/
def lookup (table : Table T) : Key → Option (Option (Entry T))
  | .gated context lexeme => table.gated[(context, lexeme)]?.map some
  | .general lexeme => table.general[lexeme]?.map some
  | .skipped lexeme => if lexeme ∈ table.skipped then some none else none

theorem lookup_empty (key : Key) : (empty : Table T).lookup key = none := by
  cases key <;> simp [lookup, empty]

/-- **A call changes a table at its own key only.** -/
theorem lookup_apply (table : Table T) (call : Call T) (key : Key) :
    (table.apply call).lookup key =
      if call.key = key then some call.entry? else table.lookup key := by
  -- a call and a key of another sort have different stores, and there is nothing to prove
  cases call with
  | add lexeme kind =>
    cases key with
    | general other => by_cases h : lexeme = other <;>
        simp [apply, add, lookup, Call.key, Call.entry?, Std.HashMap.getElem?_insert, h]
    | gated | skipped => rfl
  | addThen lexeme kind next =>
    cases key with
    | general other => by_cases h : lexeme = other <;>
        simp [apply, addThen, lookup, Call.key, Call.entry?, Std.HashMap.getElem?_insert, h]
    | gated | skipped => rfl
  | addIn context lexeme kind =>
    cases key with
    | gated context' other => by_cases h : context = context' ∧ lexeme = other <;>
        simp [apply, addIn, lookup, Call.key, Call.entry?, Std.HashMap.getElem?_insert, h]
    | general | skipped => rfl
  | addSkip lexeme =>
    cases key with
    | skipped other => by_cases h : lexeme = other <;>
        simp [apply, addSkip, lookup, Call.key, Call.entry?, h]
    | gated | general => rfl

/-- A call adds an entry, unless there is one under its key. -/
theorem size_apply (table : Table T) (call : Call T) :
    (table.apply call).size =
      if (table.lookup call.key).isSome then table.size else table.size + 1 := by
  cases call with
  | add lexeme kind | addThen lexeme kind next =>
    by_cases h : lexeme ∈ table.general <;>
      simp [apply, add, addThen, size, lookup, Call.key, Std.HashMap.size_insert, h]
    omega
  | addIn context lexeme kind =>
    by_cases h : (context, lexeme) ∈ table.gated <;>
      simp [apply, addIn, size, lookup, Call.key, Std.HashMap.size_insert, h]
    omega
  | addSkip lexeme =>
    by_cases h : lexeme ∈ table.skipped <;>
      simp [apply, addSkip, size, lookup, Call.key, Std.HashSet.size_insert, h]
    omega

/-! ### The last call on a key -/

variable {calls calls' : List (Call T)} {call : Call T} {key : Key} {lexeme : String}

/-- The call is one of the calls, and no later one has the same key. -/
def IsLast (calls : List (Call T)) (call : Call T) : Prop :=
  ∃ before after, calls = before ++ call :: after ∧ ∀ other ∈ after, other.key ≠ call.key

/-- The last of the calls on a key. -/
def lastCall? (calls : List (Call T)) (key : Key) : Option (Call T) :=
  (calls.filter fun call => call.key = key).getLast?

theorem IsLast.lastCall?_eq (h : IsLast calls call) :
    lastCall? calls call.key = some call := by
  obtain ⟨before, after, rfl, hafter⟩ := h
  have hnone : (after.filter fun other => other.key = call.key) = [] :=
    List.filter_eq_nil_iff.2 fun other hother => by simpa using hafter other hother
  rw [lastCall?, List.filter_append, List.filter_cons_of_pos (by simp), hnone,
    List.getLast?_append_cons, List.getLast?_singleton]

theorem lastCall?_eq_none_iff :
    lastCall? calls key = none ↔ key ∉ calls.map Call.key := by
  rw [lastCall?, List.getLast?_eq_none_iff, List.filter_eq_nil_iff]
  simp

/-- Of the calls on a key there is a last one. -/
theorem exists_isLast (h : key ∈ calls.map Call.key) :
    ∃ call, call.key = key ∧ IsLast calls call := by
  induction calls using List.reverseRecOn with
  | nil => cases h
  | append_singleton calls call ih =>
    by_cases hcall : call.key = key
    · exact ⟨call, hcall, calls, [], rfl, by simp⟩
    · rw [List.map_append, List.mem_append] at h
      obtain ⟨last, rfl, before, after, rfl, hafter⟩ :=
        ih (h.resolve_right fun hmem => hcall (List.mem_singleton.1 hmem).symm)
      refine ⟨last, rfl, before, after ++ [call], by simp, fun other hother => ?_⟩
      rcases List.mem_append.1 hother with hother | hother
      · exact hafter other hother
      · rwa [List.mem_singleton.1 hother]

theorem skipped_mem_map_key_iff :
    .skipped lexeme ∈ calls.map Call.key ↔ .addSkip lexeme ∈ calls := by
  simp [Call.key_eq_skipped_iff]

/-- A call that lists a lexeme to be skipped is a last one, wherever it stands: all calls on its key
are equal. -/
theorem isLast_addSkip (h : .addSkip lexeme ∈ calls) :
    IsLast calls (.addSkip lexeme) := by
  obtain ⟨call, hkey, hlast⟩ := exists_isLast (skipped_mem_map_key_iff.2 h)
  rwa [Call.key_eq_skipped_iff.1 hkey] at hlast

/-- **A table holds what the last call on a key put there.** -/
theorem lookup_build (calls : List (Call T)) (key : Key) :
    (build calls).lookup key = (lastCall? calls key).map Call.entry? := by
  induction calls using List.reverseRecOn with
  | nil => exact lookup_empty key
  | append_singleton calls call ih =>
    rw [build_concat, lookup_apply, lastCall?, List.filter_append]
    by_cases h : call.key = key
    · simp [h]
    · simp [h, ih, lastCall?]

theorem lookup_build_of_isLast (h : IsLast calls call) :
    (build calls).lookup call.key = some call.entry? := by
  rw [lookup_build, h.lastCall?_eq, Option.map_some]

theorem lookup_build_of_notMem (h : key ∉ calls.map Call.key) :
    (build calls).lookup key = none := by
  rw [lookup_build, lastCall?_eq_none_iff.2 h, Option.map_none]

/-! ### How many entries -/

theorem isSome_lookup_build :
    ((build calls).lookup key).isSome ↔ key ∈ calls.map Call.key := by
  rw [lookup_build, Option.isSome_map, Option.isSome_iff_ne_none, ne_eq, lastCall?_eq_none_iff,
    not_not]

/-- **A table has as many entries as there are different keys.** -/
theorem size_build (calls : List (Call T)) :
    (build calls).size = (calls.map Call.key).toFinset.card := by
  induction calls using List.reverseRecOn with
  | nil => rfl
  | append_singleton calls call ih =>
    rw [build_concat, size_apply, ih, List.map_append, List.toFinset_append]
    by_cases h : call.key ∈ calls.map Call.key
    · rw [if_pos (isSome_lookup_build.2 h), Finset.union_eq_left.2 (by simpa using h)]
    · rw [if_neg (mt isSome_lookup_build.1 h), Finset.card_union_of_disjoint (by simpa using h)]
      rfl

namespace Key

/-- The context and the lexeme of a key for one context. -/
def gated? : Key → Option (Context × String)
  | gated context lexeme => some (context, lexeme)
  | general _ | skipped _ => none

/-- The lexeme of a key for every context. -/
def general? : Key → Option String
  | general lexeme => some lexeme
  | gated _ _ | skipped _ => none

/-- The lexeme of a key for lexemes to be skipped. -/
def skipped? : Key → Option String
  | skipped lexeme => some lexeme
  | gated _ _ | general _ => none

theorem mem_filterMap_gated? {keys : List Key} {context : Context} :
    (context, lexeme) ∈ keys.filterMap gated? ↔ gated context lexeme ∈ keys := by
  have h (key : Key) : key.gated? = some (context, lexeme) ↔ key = gated context lexeme := by
    cases key <;> simp [gated?]
  simp [h]

theorem mem_filterMap_general? {keys : List Key} :
    lexeme ∈ keys.filterMap general? ↔ general lexeme ∈ keys := by
  have h (key : Key) : key.general? = some lexeme ↔ key = general lexeme := by
    cases key <;> simp [general?]
  simp [h]

theorem mem_filterMap_skipped? {keys : List Key} :
    lexeme ∈ keys.filterMap skipped? ↔ skipped lexeme ∈ keys := by
  have h (key : Key) : key.skipped? = some lexeme ↔ key = skipped lexeme := by
    cases key <;> simp [skipped?]
  simp [h]

/-- The different keys are counted sort by sort. -/
theorem card_toFinset (keys : List Key) :
    keys.toFinset.card = (keys.filterMap gated?).toFinset.card +
      (keys.filterMap general?).toFinset.card + (keys.filterMap skipped?).toFinset.card := by
  induction keys with
  | nil => rfl
  | cons key keys ih =>
    -- a key counts with its own sort, and it is new there just if it is new among all keys
    cases key <;>
      simp only [List.filterMap_cons, gated?, general?, skipped?, List.toFinset_cons,
        Finset.card_insert_eq_ite, List.mem_toFinset, mem_filterMap_gated?,
        mem_filterMap_general?, mem_filterMap_skipped?, ih] <;>
      split_ifs <;> omega

end Key

/-! ### What a table does with a lexeme -/

/-- **A table is read by key**: the key for the context comes first, then the general one, then the
one for lexemes to be skipped. -/
theorem classify_eq (table : Table T) (lexeme : String) (context : Context) :
    table.classify lexeme context =
      match (table.lookup (.gated context lexeme)).join <|>
          (table.lookup (.general lexeme)).join with
      | some e => e.response
      | none => if (table.lookup (.skipped lexeme)).isSome then .skip else .decline := by
  have hskipped : (table.lookup (.skipped lexeme)).isSome = table.skipped.contains lexeme := by
    by_cases h : lexeme ∈ table.skipped <;> simp [lookup, h]
  have hjoin (o : Option (Entry T)) : (o.map some).join = o := by cases o <;> rfl
  have hfind : ((table.lookup (.gated context lexeme)).join <|>
      (table.lookup (.general lexeme)).join) = table.find? lexeme context := by
    rw [find?, lookup, lookup, hjoin, hjoin]
  rw [hskipped, hfind]
  rfl

theorem classify_eq_of_lookup_eq {table table' : Table T}
    (h : ∀ key, table.lookup key = table'.lookup key) : table.classify = table'.classify := by
  funext lexeme context
  rw [classify_eq, classify_eq, h, h, h]

section Run

variable {table : Table T} {m : Memory} {e : Entry T}

theorem run_classify_of_gated (h : table.lookup (.gated m.context lexeme) = some (some e)) :
    table.classify.run lexeme m = (some (.emit e.kind), m.writeAll e.next.toList) := by
  simp [Classifier.run, classify_eq, h, Entry.response]

theorem run_classify_of_general (hgated : table.lookup (.gated m.context lexeme) = none)
    (h : table.lookup (.general lexeme) = some (some e)) :
    table.classify.run lexeme m = (some (.emit e.kind), m.writeAll e.next.toList) := by
  simp [Classifier.run, classify_eq, hgated, h, Entry.response]

theorem run_classify_of_skipped (hgated : table.lookup (.gated m.context lexeme) = none)
    (hgeneral : table.lookup (.general lexeme) = none)
    (h : table.lookup (.skipped lexeme) = some none) :
    table.classify.run lexeme m = (some .skip, m) := by
  simp [Classifier.run, classify_eq, hgated, hgeneral, h, Response.skip]

theorem run_classify_of_none (hgated : table.lookup (.gated m.context lexeme) = none)
    (hgeneral : table.lookup (.general lexeme) = none)
    (hskipped : table.lookup (.skipped lexeme) = none) :
    table.classify.run lexeme m = (none, m) := by
  simp [Classifier.run, classify_eq, hgated, hgeneral, hskipped, Response.decline]

end Run

/-! ### Calls in another order -/

/-- The calls are the same, and those on the same key come in the same order. -/
def Reorders (calls calls' : List (Call T)) : Prop :=
  ∀ key, (calls.filter fun call => call.key = key) = calls'.filter fun call => call.key = key

/-- Two neighbours with different keys may change places. -/
theorem reorders_swap {call' : Call T} (h : call.key ≠ call'.key)
    (before after : List (Call T)) :
    Reorders (before ++ call :: call' :: after) (before ++ call' :: call :: after) := by
  intro key
  simp only [List.filter_append, List.filter_cons, decide_eq_true_eq]
  split_ifs with hcall hcall'
  · exact absurd (hcall.trans hcall'.symm) h
  all_goals rfl

theorem Reorders.lookup_eq (h : Reorders calls calls') (key : Key) :
    (build calls).lookup key = (build calls').lookup key := by
  rw [lookup_build, lookup_build, lastCall?, lastCall?, h key]

theorem Reorders.classify_eq (h : Reorders calls calls') :
    (build calls).classify = (build calls').classify :=
  classify_eq_of_lookup_eq h.lookup_eq

theorem Reorders.size_eq (h : Reorders calls calls') :
    (build calls).size = (build calls').size := by
  have hkeys : (calls.map Call.key).toFinset = (calls'.map Call.key).toFinset := by
    ext key
    rw [List.mem_toFinset, List.mem_toFinset, ← isSome_lookup_build, ← isSome_lookup_build,
      h.lookup_eq]
  rw [size_build, size_build, hkeys]

/-! ### Entries for one context in two levels -/

/-- The store after a call, which matters to it only if it adds an entry for one context. -/
def applyNested (nested : NestedStore T) : Call T → NestedStore T
  | .addIn context lexeme kind => nested.insert context lexeme ⟨kind, some .plain⟩
  | .add _ _ | .addThen _ _ _ | .addSkip _ => nested

/-- The entries for one context that the calls add, in two levels. -/
def nestedStore (calls : List (Call T)) : NestedStore T := calls.foldl applyNested .empty

theorem refines_applyNested {nested : NestedStore T} {table : Table T}
    (h : nested.Refines table.gated) (call : Call T) :
    (applyNested nested call).Refines (table.apply call).gated := by
  cases call with
  | addIn context lexeme kind => exact h.insert context lexeme ⟨kind, some .plain⟩
  | add | addThen | addSkip => exact h

/-- **A table may keep its entries for one context in two levels**, whatever the calls. -/
theorem refines_nestedStore (calls : List (Call T)) :
    (nestedStore calls).Refines (build calls).gated := by
  induction calls using List.reverseRecOn with
  | nil => exact NestedStore.refines_empty
  | append_singleton calls call ih =>
    rw [build_concat, nestedStore, List.foldl_concat]
    exact refines_applyNested ih call

/-! ### The meaning of a table -/

/-- What a table does with a lexeme, how many entries it has, and what the order of the calls has to
do with it, all in terms of the calls that built it. -/
structure MeansLastCalls (calls : List (Call T)) : Prop where
  /-- Of the calls on a key there is a last one. -/
  exists_isLast (key : Key) (h : key ∈ calls.map Call.key) :
    ∃ call, call.key = key ∧ IsLast calls call
  /-- An entry for the context comes first, and returns to the plain context. -/
  gated (lexeme : String) (m : Memory) (kind : T)
    (h : IsLast calls (.addIn m.context lexeme kind)) :
    (build calls).classify.run lexeme m =
      (some (.emit kind), { m with context := .plain, written := true })
  /-- Then comes an entry for every context; without a context to move to, the memory stays. -/
  general (lexeme : String) (m : Memory) (kind : T)
    (hgated : .gated m.context lexeme ∉ calls.map Call.key)
    (h : IsLast calls (.add lexeme kind)) :
    (build calls).classify.run lexeme m = (some (.emit kind), m)
  /-- With a context to move to, that is the new context, unless it is the one of an escape. -/
  generalThen (lexeme : String) (m : Memory) (kind : T) (next : Context)
    (hgated : .gated m.context lexeme ∉ calls.map Call.key)
    (h : IsLast calls (.addThen lexeme kind next)) :
    (build calls).classify.run lexeme m =
      (some (.emit kind),
        if next = .escaping then m else { m with context := next, written := true })
  /-- A lexeme that has no entry is skipped if it ever was listed. -/
  skipped (lexeme : String) (m : Memory)
    (hgated : .gated m.context lexeme ∉ calls.map Call.key)
    (hgeneral : .general lexeme ∉ calls.map Call.key)
    (h : .addSkip lexeme ∈ calls) :
    (build calls).classify.run lexeme m = (some .skip, m)
  /-- On all other lexemes the table declines. -/
  declined (lexeme : String) (m : Memory)
    (hgated : .gated m.context lexeme ∉ calls.map Call.key)
    (hgeneral : .general lexeme ∉ calls.map Call.key)
    (hskipped : .addSkip lexeme ∉ calls) :
    (build calls).classify.run lexeme m = (none, m)
  /-- The entries are counted by the different keys of each sort. -/
  size_eq : (build calls).size =
    ((calls.map Call.key).filterMap Key.gated?).toFinset.card +
      ((calls.map Call.key).filterMap Key.general?).toFinset.card +
      ((calls.map Call.key).filterMap Key.skipped?).toFinset.card
  /-- Only the order of calls on the same key matters. -/
  reorder (calls' : List (Call T)) (h : Reorders calls calls') :
    (build calls').classify = (build calls).classify ∧ (build calls').size = (build calls).size
  /-- In particular, two neighbours with different keys may change places. -/
  swap (before after : List (Call T)) (call call' : Call T)
    (hcalls : calls = before ++ call :: call' :: after) (h : call.key ≠ call'.key) :
    (build (before ++ call' :: call :: after)).classify = (build calls).classify ∧
      (build (before ++ call' :: call :: after)).size = (build calls).size
  /-- An entry for the context may as well be looked for in two steps, first the store of the context
  and then the lexeme in it. -/
  classify_nested (lexeme : String) (context : Context) :
    (build calls).classify lexeme context =
      match (nestedStore calls).find? context lexeme <|> (build calls).general[lexeme]? with
      | some e => e.response
      | none => if (build calls).skipped.contains lexeme then .skip else .decline
  /-- And the entries for one context may as well be counted context by context. -/
  size_nested : (build calls).size =
    (build calls).general.size + (build calls).skipped.size + (nestedStore calls).size

/-- **The last call on a key counts**, for every sequence of calls. -/
theorem meansLastCalls_build (calls : List (Call T)) : MeansLastCalls calls where
  exists_isLast _ h := exists_isLast h
  gated _ _ _ h := run_classify_of_gated (lookup_build_of_isLast h)
  general _ _ _ hgated h :=
    run_classify_of_general (lookup_build_of_notMem hgated) (lookup_build_of_isLast h)
  generalThen _ _ _ _ hgated h :=
    run_classify_of_general (lookup_build_of_notMem hgated) (lookup_build_of_isLast h)
  skipped _ _ hgated hgeneral h :=
    run_classify_of_skipped (lookup_build_of_notMem hgated) (lookup_build_of_notMem hgeneral)
      (lookup_build_of_isLast (isLast_addSkip h))
  declined _ _ hgated hgeneral hskipped :=
    run_classify_of_none (lookup_build_of_notMem hgated) (lookup_build_of_notMem hgeneral)
      (lookup_build_of_notMem (mt skipped_mem_map_key_iff.1 hskipped))
  size_eq := (size_build calls).trans (Key.card_toFinset _)
  reorder _ h := ⟨h.classify_eq.symm, h.size_eq.symm⟩
  swap before after call call' hcalls h := by
    subst hcalls
    exact ⟨(reorders_swap h before after).classify_eq.symm,
      (reorders_swap h before after).size_eq.symm⟩
  classify_nested lexeme context := by
    rw [(refines_nestedStore calls).find?_eq]
    rfl
  size_nested := by
    rw [(refines_nestedStore calls).size_eq]
    rfl

end ChainLexer.Grammar.Table
