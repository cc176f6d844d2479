import Lexicon.Generation
import Lexicon.Log.Message

namespace Lexicon.CommandLine.Progress

open Log (Message)

def compilation (t : Table) (c : Compiled) : List Message :=
  let keywords := c.size - c.firstKeyword.position
  [⟨.debug, "tokengen::tokens", "[tokens] validated " ++ toString t.definitions.length ++ " definitions, "
      ++ toString t.aliases.length ++ " aliases"⟩,
    ⟨.debug, "tokengen::compiler::order", "[order] " ++ toString c.size ++ " tokens, " ++ toString keywords
      ++ " keywords starting at " ++ toString c.firstKeyword.position⟩]
  ++ c.aliases.map fun a => ⟨.debug, "tokengen::compiler::resolve", "[resolve] " ++ a.source.name ++ " -> "
      ++ a.source.target ++ " (" ++ a.id.text ++ ")"⟩

def artifactsWritten (p : Generation.Prepared) (options : Settings.Generation) (elapsed : Nat) : List Message := [
  ⟨.debug, "tokengen::compiler::io", "[io] wrote " ++ toString p.artifacts.header.utf8ByteSize ++ " + "
    ++ toString p.artifacts.source.utf8ByteSize ++ " bytes in " ++ toString elapsed ++ " ms"⟩,
  ⟨.debug, "tokengen::compiler", "[generate] " ++ toString p.stamp.toNat ++ " -> " ++ options.header ++ ", "
    ++ options.source⟩]

def listingWritten (options : Settings.Generation) : List Message :=
  options.listing.toList.map fun path => ⟨.info, "tokengen::compiler", "[generate] wrote manifest " ++ path⟩

end Lexicon.CommandLine.Progress
