import SignOn.ConfigFile
import SignOn.Screen

/-!
The packages that the commands are built on. The program is the same whatever they do; what it does
with them holds of every toolkit.
-/

namespace SignOn

structure Toolkit where
  read : ConfigFile.Reader
  openScreen : OpenScreen

end SignOn
