import MinuteBook.Expression.Token
import MinuteBook.Text.Digit
import MinuteBook.Text.Quoted

/-!
# Expressions and tests

What stands between a pair of braces: a path with perhaps a filter, or a choice between two
operands by comparing a path with a literal. The test of a block is a path that must hold, a path
that must equal a literal, or a path whose list must include one.
-/

namespace MinuteBook

/-- A branch of a choice: a path to look up, or a literal. -/
inductive Operand where
  | path (s : String)
  | literal (s : String)
  deriving DecidableEq

inductive Expression where
  | var (path : String) (filter : Option String)
  | ternary (lhs literal : String) (ifTrue ifFalse : Operand)
  deriving DecidableEq

inductive Test where
  | truthy (path : String)
  | includes (path needle : String)
  | equals (path literal : String)
  deriving DecidableEq

def Test.path : Test → String
  | .truthy p => p
  | .includes p _ => p
  | .equals p _ => p

namespace Expression

/-- Why a text is no expression. -/
inductive Error where
  | unexpectedCharacter (place : Nat) (source : String)
  | notLiteral (found : String)
  | notOperand (found : String)
  | notPath (found : String)
  | emptyTest
  | emptyExpression
  | unsupportedTest (source : String)
  | unsupportedTernary (source : String)
  | unsupported (source : String)
  deriving DecidableEq

def Error.message : Error → String
  | .unexpectedCharacter place source =>
    "Unexpected character at " ++ Text.nat place ++ " in " ++ Text.quoted source
  | .notLiteral found => "Expected a literal, got " ++ Text.quoted found
  | .notOperand found => "Expected a path or literal, got " ++ Text.quoted found
  | .notPath found => "Expected a path, got " ++ Text.quoted found
  | .emptyTest => "Empty condition"
  | .emptyExpression => "Empty expression"
  | .unsupportedTest source => "Unsupported condition " ++ Text.quoted source
  | .unsupportedTernary source => "Unsupported ternary " ++ Text.quoted source
  | .unsupported source => "Unsupported expression " ++ Text.quoted source

/-- The tokens of an expression. -/
def tokens (source : String) : Except Error (List Token) :=
  let s := Text.strip source.toList
  match Token.scan 0 s with
  | .ok ts => .ok ts
  | .error place => .error (.unexpectedCharacter place (String.ofList s))

/-- A literal may be quoted or a word. -/
def literalOf : Token → Except Error String
  | .literal s => .ok s
  | .word s => .ok s
  | .op o => .error (.notLiteral o.text)

/-- An operand is a quoted literal, or a word that names a path. -/
def operandOf : Token → Except Error Operand
  | .literal s => .ok (.literal s)
  | .word s => .ok (.path s)
  | .op o => .error (.notOperand o.text)

/-- A path or the name of a filter is a word. -/
def wordOf : Token → Except Error String
  | .word s => .ok s
  | t => .error (.notPath t.text)

/-- The expression that tokens spell. The source is only there for the error. -/
def ofTokens (source : String) : List Token → Except Error Expression
  | [lhs, .op .equal, lit, .op .question, yes, .op .colon, no] => do
    return .ternary (← wordOf lhs) (← literalOf lit) (← operandOf yes) (← operandOf no)
  | ts =>
    if .op .question ∈ ts then .error (.unsupportedTernary source)
    else match ts with
      | [] => .error .emptyExpression
      | [path] => do return .var (← wordOf path) none
      | [path, .op .bar, filter] => do return .var (← wordOf path) (some (← wordOf filter))
      | first :: _ => do
        let _ ← wordOf first
        throw (.unsupported source)

/-- Reads an expression. -/
def parse (source : String) : Except Error Expression := do
  ofTokens source (← tokens source)

end Expression

namespace Test

/-- What follows the path of a test of inclusion. -/
def includesSuffix : List Char := ".includes".toList

/-- The path before `.includes`, if a word ends so. -/
def includesBase? (word : String) : Option String :=
  let cs := word.toList
  let n := cs.length - includesSuffix.length
  if cs.drop n = includesSuffix then some (String.ofList (cs.take n)) else none

/-- The test that tokens spell. The source is only there for the error. -/
def ofTokens (source : String) : List Token → Except Expression.Error Test
  | [] => .error .emptyTest
  | first :: rest => do
    let path ← Expression.wordOf first
    match rest, includesBase? path with
    | [.op .openParen, needle, .op .closeParen], some base =>
      return .includes base (← Expression.literalOf needle)
    | [], _ => return .truthy path
    | [.op .equal, lit], _ => return .equals path (← Expression.literalOf lit)
    | _, _ => throw (.unsupportedTest source)

/-- Reads the test of a block. -/
def parse (source : String) : Except Expression.Error Test := do
  ofTokens source (← Expression.tokens source)

end Test

end MinuteBook
