import ChainLexer.Grammar.Lexicon
import ChainLexer.Scan.Run
import ChainLexer.Settings.Config
import ChainLexer.Source.Position

/-!
# Lexers

A lexer is a source with a place in it, a memory, the registered classifiers and a comment marker.
It can be given classifiers, a new source, and be asked to scan.

## Main definitions

* `Lexer`, `Lexer.ofSource`, `Lexer.withConfig`: lexers and how they begin
* `Lexer.register`, `Lexer.install`, `Lexer.withSource`: more classifiers, another source
* `Lexer.scan`: the rest of the source as tokens
* `Lexer.location`: the line and column of an offset

## Implementation notes

After a scan without a fault the lexer stands at the end of its source, so another scan has nothing
to do. A scan that fails returns to the beginning with a fresh memory, so another scan fails alike.
-/

namespace ChainLexer

open ChainLexer.Grammar ChainLexer.Scan ChainLexer.Settings ChainLexer.Source

/-- A source with a place in it, a memory, classifiers and a comment marker. -/
structure Lexer (T : Type) where
  cursor : Cursor
  memory : Memory
  registry : Registry T
  marker : Marker

namespace Lexer

variable {T : Type}

/-- The lexer of a source with a comment marker, without classifiers. -/
def withMarker (source : String) (marker : Marker) : Lexer T :=
  ⟨.ofString source, .fresh, .empty, marker⟩

/-- The lexer of a source with the customary settings, without classifiers. -/
def ofSource (source : String) : Lexer T := withMarker source .hyphens

/-- The lexer of a source with the given settings, if these are valid. -/
def withConfig (source : String) (config : Config) : Except ConfigError (Lexer T) :=
  config.marker.map (withMarker source)

/-- The source of a lexer. -/
def source (lexer : Lexer T) : String := lexer.cursor.source

/-- The context of a lexer. -/
def context (lexer : Lexer T) : Context := lexer.memory.context

/-- The settings of a lexer. -/
def config (lexer : Lexer T) : Config := { lineComment := lexer.marker.text }

/-- Adds a classifier to the chain of a category. -/
def register (lexer : Lexer T) (category : Category) (f : Classifier T) : Lexer T :=
  { lexer with registry := lexer.registry.register category f }

/-- Adds the classifiers of a lexicon. -/
def install (lexer : Lexer T) (lexicon : Lexicon T) : Lexer T :=
  { lexer with registry := lexer.registry.install lexicon }

/-- Adds to each chain a classifier that claims every lexeme. -/
def catchAll (lexer : Lexer T) (kindOf : Category → T) : Lexer T :=
  { lexer with
    registry := lexer.registry.registerEach fun category _ _ => .emit (kindOf category) }

/-- Begins with another source, and keeps the classifiers. -/
def withSource (lexer : Lexer T) (source : String) : Lexer T :=
  { lexer with cursor := .ofString source, memory := .fresh }

/-- The line and column of a byte offset of the source. -/
def location (lexer : Lexer T) (offset : Nat) : Except LocationError Position :=
  (LineTable.ofString lexer.source).position offset

/-- The record of a run over the rest of the source. -/
def run (lexer : Lexer T) : Run T :=
  Scan.run lexer.marker lexer.registry lexer.memory lexer.cursor

/-- The lexer after a run with this ending: at the end of its source, or, if there was a fault, as it
was at the beginning. -/
def after (lexer : Lexer T) : Ending → Lexer T
  | .finished cursor memory => { lexer with cursor := cursor, memory := memory }
  | .failed _ => { lexer with cursor := lexer.cursor.rewind, memory := .fresh }

/-- Scans the rest of the source: its tokens or a fault, and the lexer afterwards. -/
def scan (lexer : Lexer T) : Except Fault (List (Token T)) × Lexer T :=
  let run := lexer.run
  (run.result, lexer.after run.ending)

end Lexer

end ChainLexer
