import Std.Data.HashMap
import Lexicon.Table.Layout
import Lexicon.Table.SchemaError
import Lexicon.Text.Hex

namespace Lexicon

/-- A dense identifier that counts from zero. -/
structure TokenId where
  value : UInt32
  deriving DecidableEq, Repr

namespace TokenId

def ofPosition (i : Nat) : TokenId := ⟨UInt32.ofNat i⟩

def position (id : TokenId) : Nat := id.value.toNat

def text (id : TokenId) : String := "0x" ++ Text.hex 8 id.position

end TokenId

structure Entry where
  id : TokenId
  definition : Definition
  deriving DecidableEq, Repr

structure AliasEntry where
  id : TokenId
  source : Alias
  deriving DecidableEq, Repr

namespace Entry

def byPosition (tokens : List Definition) : List Entry :=
  tokens.zipIdx.map fun (d, i) => ⟨.ofPosition i, d⟩

def number (tokens : List Definition) : Except SchemaError (List Entry) :=
  if Table.capacity < tokens.length then .error (.tooManyTokens tokens.length (Table.capacity - 1))
  else .ok (byPosition tokens)

/-- Where each short name is found; of several entries with one name the last counts. -/
def index (entries : List Entry) : Std.HashMap String TokenId :=
  entries.foldl (fun found e => found.insert e.definition.name e.id) ∅

end Entry

namespace AliasEntry

def resolveIn (found : Std.HashMap String TokenId) (a : Alias) : Except SchemaError AliasEntry :=
  match found[a.target]? with
  | some id => .ok ⟨id, a⟩
  | none => .error (.unresolvedAlias a.name a.target)

/-- Points every alias at its target, in order; the first one without a target is reported. -/
def resolve (entries : List Entry) (aliases : List Alias) : Except SchemaError (List AliasEntry) :=
  aliases.mapM (resolveIn (Entry.index entries))

end AliasEntry

end Lexicon
