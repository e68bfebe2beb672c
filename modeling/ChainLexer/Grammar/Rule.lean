import ChainLexer.Grammar.Classifier

/-!
# Rules

Classifiers described by data. A rule has conditions on the lexeme and the context, contexts to
write, and an answer; the first rule of a list whose conditions hold decides.
-/

namespace ChainLexer.Grammar

variable {T : Type}

/-- What a rule answers. -/
inductive Answer (T : Type) where
  /-- No opinion. -/
  | decline
  /-- The lexeme is dropped. -/
  | skip
  /-- A token of this kind. -/
  | emit (kind : T)
  /-- A token whose kind is made from the lexeme. -/
  | emitLexeme (kindOf : String → T)
  /-- A token whose kind is made from the context after the writes of the rule. -/
  | emitContext (kindOf : Context → T)

/-- The verdict of an answer on a lexeme, in the context after the writes. -/
def Answer.verdict (lexeme : String) (context : Context) : Answer T → Option (Verdict T)
  | decline => none
  | skip => some .skip
  | emit kind => some (.emit kind)
  | emitLexeme kindOf => some (.emit (kindOf lexeme))
  | emitContext kindOf => some (.emit (kindOf context))

/-- Conditions, each of which may be absent, with what to write and to answer when they hold. -/
structure Rule (T : Type) where
  /-- The whole lexeme. -/
  lexeme : Option String := none
  /-- How the lexeme begins. -/
  leading : Option String := none
  /-- The context in which the classifier is asked. -/
  context : Option Context := none
  writes : List Context := []
  answer : Answer T

namespace Rule

/-- All conditions of the rule hold. -/
def applies (rule : Rule T) (lexeme : String) (context : Context) : Bool :=
  rule.lexeme.all (· == lexeme) &&
    rule.leading.all (fun text => text.toList.isPrefixOf lexeme.toList) &&
    rule.context.all (· == context)

/-- What the rule does with a lexeme to which it applies. -/
def respond (rule : Rule T) (lexeme : String) (context : Context) : Response T :=
  ⟨rule.writes, rule.answer.verdict lexeme (context.afterWrites rule.writes)⟩

/-- A list of rules as a classifier: the first rule that applies responds. -/
def classify (rules : List (Rule T)) : Classifier T := fun lexeme context =>
  match rules.find? (·.applies lexeme context) with
  | some rule => rule.respond lexeme context
  | none => .decline

end Rule

end ChainLexer.Grammar
