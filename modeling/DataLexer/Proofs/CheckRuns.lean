import DataLexer.Command
import DataLexer.Proofs.Workers

namespace DataLexer

/-- The workers that `request` asks for come to an end with these reports. -/
def CheckRequest.Gives (request : CheckRequest) (tree : FileTree) (settings : Settings) (processors : Nat)
    (color : Bool) : List String → List FileReport → Prop :=
  CheckPool.Gives tree (request.stopsEarly settings.check) color
    (request.jobCount settings.check processors)

end DataLexer
