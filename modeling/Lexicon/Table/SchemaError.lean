import Lexicon.Table.Basic
import Lexicon.Text.Quoted

namespace Lexicon

inductive SchemaError where
  | duplicateName (name : String)
  | aliasShadowsToken (name : String)
  | duplicateAlias (name : String)
  | constantCollision (first second constant : String)
  | invalidName (name : String)
  | tooManyTokens (count last : Nat)
  | unresolvedAlias (name target : String)
  deriving DecidableEq, Repr

def SchemaError.message : SchemaError → String
  | duplicateName name => "duplicate token short name '" ++ name ++ "'"
  | aliasShadowsToken name => "token alias '" ++ name ++ "' reuses the short name of an existing token"
  | duplicateAlias name => "token alias '" ++ name ++ "' is declared more than once"
  | constantCollision first second constant =>
    "'" ++ first ++ "' and '" ++ second ++ "' both generate the constant " ++ constant
  | invalidName name =>
    "invalid token short name " ++ Text.quoted name ++ ": expected ASCII letters, digits or '_'"
  | tooManyTokens count last =>
    "token table has " ++ toString count ++ " entries but identifiers stop at 0x" ++ Text.hex 1 last
  | unresolvedAlias name target =>
    "token alias '" ++ name ++ "' failed to resolve destination '" ++ target ++ "'"

end Lexicon
