import Sidecar.Secret.Manager
import Sidecar.Text.Quoted

/-! # Which secrets are loaded -/

namespace Sidecar.Secret

inductive Selection where
  /-- Exactly these; their keys are used as they are. -/
  | described (descriptors : List Descriptor)
  | named (names : List String) (manager : Manager)

namespace Selection

def toDescriptors : Selection → List Descriptor
  | .described ds => ds
  | .named names manager => names.map fun name => ⟨name, manager.metadata name⟩

def mapKey : Selection → String → String
  | .described _, key => key
  | .named _ manager, key => manager.key key

/-! ## For logs -/

def listText (items : List String) : String := "[" ++ String.intercalate ", " items ++ "]"

def metadataText (metadata : Metadata) : String :=
  let member (m : String × String) : String :=
    Text.Quoted.encode m.1 ++ ": " ++ Text.Quoted.encode m.2
  "\x7b" ++ String.intercalate ", " (metadata.map member) ++ "\x7d"

def descriptorText (d : Descriptor) : String :=
  "SecretDescriptor \x7b name: " ++ Text.Quoted.encode d.name ++ ", metadata: " ++
    metadataText d.metadata ++ " \x7d"

/-- The selection without its manager. -/
def text : Selection → String
  | .described ds => "Descriptors(" ++ listText (ds.map descriptorText) ++ ")"
  | .named names _ => "Names \x7b names: " ++ listText (names.map Text.Quoted.encode) ++ " \x7d"

end Selection

end Sidecar.Secret
