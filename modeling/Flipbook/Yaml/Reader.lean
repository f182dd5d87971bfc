import Flipbook.Output.FileTree
import Flipbook.Value
import Flipbook.Yaml.Fault

/-!
# Readers of YAML

What reads YAML files is given to those who need it from outside.  It reads a file bit by bit, so
where the file is no text, it may have found the text before malformed already.  Its values may be
of any type, so that they may also contain themselves, which values of documents do not.
-/

namespace Flipbook.Yaml

/-- What reads YAML files. -/
structure Reader (ν : Type) where
  /-- The value of a file, or why it has none. -/
  read : FileContent → Except ReadFault ν
  /-- The entries of a value that is a mapping. -/
  entries? : ν → Option (List (Scalar × ν))

end Flipbook.Yaml
