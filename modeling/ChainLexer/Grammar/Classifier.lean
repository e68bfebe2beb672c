import ChainLexer.Grammar.Context

/-!
# Classifiers and chains

A classifier looks at a lexeme and the context, may write the context, and either gives a verdict or
declines. A chain asks its classifiers from the newest to the oldest until one of them gives a
verdict; the writes of those that declined stay in effect.

## Main definitions

* `Verdict`: a lexeme becomes a token of some kind, or is skipped
* `Response`: the writes and the verdict of one classifier
* `Classifier`: a response for every lexeme and context
* `Chain`: the classifiers of one category
* `Chain.consult`: the responses of all classifiers that are asked
-/

namespace ChainLexer.Grammar

variable {T : Type}

/-- What becomes of a lexeme. -/
inductive Verdict (T : Type) where
  /-- The lexeme is a token of this kind. -/
  | emit (kind : T)
  /-- The lexeme is dropped. -/
  | skip
deriving DecidableEq, Repr

/-- The verdict under another naming of the kinds. -/
def Verdict.map {U : Type} (f : T → U) : Verdict T → Verdict U
  | emit kind => emit (f kind)
  | skip => skip

/-- What one classifier does with a lexeme: the contexts it writes, in order, and its verdict, if it
does not decline. -/
structure Response (T : Type) where
  writes : List Context
  verdict : Option (Verdict T)
deriving DecidableEq, Repr

namespace Response

/-- No opinion, and no write. -/
def decline : Response T := ⟨[], none⟩

/-- A token of the given kind, without a write. -/
def emit (kind : T) : Response T := ⟨[], some (.emit kind)⟩

/-- A token of the given kind, after one write. -/
def emitThen (kind : T) (context : Context) : Response T := ⟨[context], some (.emit kind)⟩

/-- No token, without a write. -/
def skip : Response T := ⟨[], some .skip⟩

/-- The context that the response leaves behind. -/
def contextAfter (r : Response T) (context : Context) : Context := context.afterWrites r.writes

/-- The response under another naming of the kinds. -/
def map {U : Type} (f : T → U) (r : Response T) : Response U := ⟨r.writes, r.verdict.map (·.map f)⟩

end Response

/-- A response for every lexeme in every context. It depends on these two and on nothing else: a
classifier keeps no record of earlier lexemes, and of the memory it sees the context alone, not the
mark for a write and not the context to return to after an escape. -/
def Classifier (T : Type) : Type := String → Context → Response T

/-- The classifiers of one category, the newest first. -/
structure Chain (T : Type) where
  newestFirst : List (Classifier T)

namespace Chain

/-- The chain without classifiers. -/
def empty : Chain T := ⟨[]⟩

instance : Inhabited (Chain T) := ⟨empty⟩

/-- Adds a classifier, which is asked before all earlier ones. -/
def push (chain : Chain T) (f : Classifier T) : Chain T := ⟨f :: chain.newestFirst⟩

/-- The number of classifiers. -/
def size (chain : Chain T) : Nat := chain.newestFirst.length

/-- The chain has no classifier. -/
def isEmpty (chain : Chain T) : Bool := chain.newestFirst.isEmpty

/-- The responses of the classifiers in order, up to the first one with a verdict. Each classifier
sees the context as the ones before it left it. -/
def consultList (lexeme : String) : List (Classifier T) → Context → List (Response T)
  | [], _ => []
  | f :: fs, context =>
    let response := f lexeme context
    match response.verdict with
    | some _ => [response]
    | none => response :: consultList lexeme fs (response.contextAfter context)

/-- The responses of the classifiers that are asked about a lexeme. -/
def consult (chain : Chain T) (lexeme : String) (context : Context) : List (Response T) :=
  consultList lexeme chain.newestFirst context

end Chain

/-- The verdict of a list of responses is the first one that is given. -/
def verdictOf (responses : List (Response T)) : Option (Verdict T) :=
  responses.findSome? Response.verdict

/-- All writes of a list of responses in order. -/
def writesOf (responses : List (Response T)) : List Context :=
  responses.flatMap Response.writes

/-- The verdict of a chain on a lexeme, and the memory that the asked classifiers leave behind. -/
def Chain.resolve (chain : Chain T) (lexeme : String) (m : Memory) :
    Option (Verdict T) × Memory :=
  let responses := chain.consult lexeme m.context
  (verdictOf responses, m.writeAll (writesOf responses))

@[simp] theorem Chain.size_push (chain : Chain T) (f : Classifier T) :
    (chain.push f).size = chain.size + 1 := rfl

end ChainLexer.Grammar
