import ChainLexer.Lexer

/-!
# Journals

What a lexer reports about its work, in the order in which it happens. Each operation that reports
something has a companion that returns its result together with the records of it.

## Main definitions

* `Record`: one report
* `Logged`: a result with the records of its making
* `Lexer.scanLogged` and the other companions
-/

namespace ChainLexer

open ChainLexer.Grammar ChainLexer.Scan ChainLexer.Settings ChainLexer.Source

variable {T : Type}

/-- How much a record matters. -/
inductive Level where
  | debug
  | trace
deriving DecidableEq, Repr

/-- The name of a level. -/
def Level.name : Level → String
  | debug => "debug"
  | trace => "trace"

/-- One report. -/
inductive Record (T : Type) where
  /-- A classifier has joined the chain of a category, which has this depth now. -/
  | registered (category : Category) (depth : Nat)
  /-- All classifiers of the lexicon with this name have been registered. -/
  | installed (lexicon : String)
  /-- A source of this many bytes has been put in place. -/
  | sourceSet (bytes : Nat)
  /-- A classifier wrote a context that it cannot write. -/
  | ignoredWrite (context : Context)
  /-- A lexeme became a token. -/
  | emitted (token : Token T)
  /-- A scan came to the end of a source. -/
  | scanned (tokens bytes : Nat)
  /-- A scan stopped at a fault, whose position is known unless its offset has none. -/
  | aborted (position : Option Position) (fault : Fault)
  /-- Settings have been loaded from a path. -/
  | loaded (path : String)

namespace Record

/-- The level of a record: single tokens matter less than all else. -/
def level : Record T → Level
  | emitted _ => .trace
  | _ => .debug

/-- The wording of a record. -/
def message (showKind : T → String) : Record T → String
  | registered category depth =>
    "registered " ++ category.name ++ " classifier (chain depth " ++ toString depth ++ ")"
  | installed lexicon => "installed token set " ++ lexicon
  | sourceSet bytes => "reseeded lexer with " ++ toString bytes ++ " bytes"
  | ignoredWrite context => "ignored classifier write of " ++ context.name
  | emitted token => "emitted " ++ token.display showKind
  | scanned tokens bytes =>
    "scanned " ++ toString tokens ++ " tokens from " ++ toString bytes ++ " bytes"
  | aborted (some p) fault =>
    "scan aborted at " ++ toString p.line.toNat ++ ":" ++ toString p.column.toNat ++ ": " ++
      fault.message
  | aborted none fault => "scan aborted: " ++ fault.message
  | loaded path => "loaded lexer config from " ++ path

/-- The records of a classifier's writes: only those without effect are reported. -/
def ofWrites (writes : List Context) : List (Record T) :=
  (writes.filter (· == .escaping)).map ignoredWrite

/-- The records of a resolution: writes without effect, then the token. -/
def ofResolution (r : Resolution T) : List (Record T) :=
  ofWrites r.writes ++ (r.token?.map emitted).toList

end Record

/-- A result of type `α` with the records of its making. -/
structure Logged (T α : Type) where
  value : α
  records : List (Record T)

/-- A classifier's write, with its records. -/
def Grammar.Memory.writeLogged (m : Memory) (context : Context) : Logged T Memory :=
  ⟨m.write context, Record.ofWrites [context]⟩

/-- The resolution of a lexeme by a chain, with its records. -/
def Grammar.Chain.resolveLogged (chain : Chain T) (lexeme : String) (m : Memory) :
    Logged T (Option (Verdict T) × Memory) :=
  ⟨chain.resolve lexeme m, Record.ofWrites (writesOf (chain.consult lexeme m.context))⟩

/-- The registration of a classifier, with its records. -/
def Grammar.Registry.registerLogged (registry : Registry T) (category : Category)
    (f : Classifier T) : Logged T (Registry T) :=
  ⟨registry.register category f, [.registered category ((registry.chain category).size + 1)]⟩

/-- The records of adding one classifier to each chain of a registry. -/
def Grammar.Registry.eachRecords (registry : Registry T) : List (Record T) :=
  Category.all.map fun category => .registered category ((registry.chain category).size + 1)

namespace Lexer

/-- The registration of a classifier, with its records. -/
def registerLogged (lexer : Lexer T) (category : Category) (f : Classifier T) :
    Logged T (Lexer T) :=
  ⟨lexer.register category f, (lexer.registry.registerLogged category f).records⟩

/-- The installation of a lexicon, with its records. -/
def installLogged (lexer : Lexer T) (lexicon : Lexicon T) : Logged T (Lexer T) :=
  ⟨lexer.install lexicon, lexer.registry.eachRecords ++ [.installed lexicon.name]⟩

/-- The registration of a classifier that claims every lexeme in each category, with its records. -/
def catchAllLogged (lexer : Lexer T) (kindOf : Category → T) : Logged T (Lexer T) :=
  ⟨lexer.catchAll kindOf, lexer.registry.eachRecords⟩

/-- The change to another source, with its records. -/
def withSourceLogged (lexer : Lexer T) (source : String) : Logged T (Lexer T) :=
  ⟨lexer.withSource source, [.sourceSet source.utf8ByteSize]⟩

/-- The last record of a scan of the lexer. -/
def endRecord (lexer : Lexer T) (run : Run T) : Record T :=
  match run.ending with
  | .finished _ _ => .scanned run.tokens.length lexer.source.utf8ByteSize
  | .failed fault => .aborted (lexer.location fault.offset).toOption fault

/-- A scan, with its records. -/
def scanLogged (lexer : Lexer T) : Logged T (Except Fault (List (Token T)) × Lexer T) :=
  let run := lexer.run
  ⟨(run.result, lexer.after run.ending),
    run.resolutions.flatMap Record.ofResolution ++ [lexer.endRecord run]⟩

/-- The records come with the scan itself. -/
theorem value_scanLogged (lexer : Lexer T) : lexer.scanLogged.value = lexer.scan := rfl

end Lexer

/-- The settings from the file at a path, with the records of loading them. -/
def Settings.Config.loadLogged (path : String) (file : File) :
    Logged T (Except ConfigError Config) :=
  let result := Config.load file
  ⟨result, if result.isOk then [.loaded path] else []⟩

end ChainLexer
