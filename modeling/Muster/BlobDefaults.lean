import Muster.SortedMap

/-!
The blob store that goes with a compute provider when a topology names none.
-/

namespace Muster

abbrev BlobDefaults := SortedMap String String

namespace BlobDefaults

def builtIn : BlobDefaults :=
  .ofList [("ec2", "aws-s3"), ("aws-ec2", "aws-s3"), ("cloudservers", "cloudfiles-us"),
    ("cloudservers-us", "cloudfiles-us"), ("cloudservers-uk", "cloudfiles-uk")]

def withMappings (defaults : BlobDefaults) (mappings : List (String × String)) : BlobDefaults :=
  mappings.foldl (fun map mapping => map.insert mapping.1 mapping.2) defaults

end BlobDefaults

end Muster
